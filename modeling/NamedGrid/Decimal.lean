import NamedGrid.Text

/-!
# Decimal numbers

A number that is not whole is kept as its digits and a power of ten. It is shown with
as many digits as it has, positionally while the point stays near them and with an
exponent of two or more digits otherwise.
-/

namespace NamedGrid

/-- A decimal number, or one of the values beside the numbers. -/
inductive Decimal
  /-- The number `digits * 10 ^ exponent`, with its sign. -/
  | finite (negative : Bool) (digits : Nat) (exponent : Int)
  /-- An infinite value with its sign. -/
  | infinite (negative : Bool)
  /-- The value that is no number. -/
  | undefined
  deriving DecidableEq, Repr

namespace Decimal

/-- The digits without the zeros at their end, and how many there were. -/
def trimZeros (digits : Text) : Text × Nat :=
  let kept := (digits.reverse.dropWhile (· = '0')).reverse
  (kept, digits.length - kept.length)

/-- The sign mark of a number. -/
def signText (negative : Bool) : Text := if negative then ['-'] else []

/-- The significant digits placed around a point that follows the first `point` of them. -/
def positional (digits : Text) (point : Int) : Text :=
  if point ≤ 0 then "0.".toList ++ List.replicate (-point).toNat '0' ++ digits
  else
    let whole := point.toNat
    if digits.length ≤ whole then
      digits ++ List.replicate (whole - digits.length) '0' ++ ".0".toList
    else digits.take whole ++ '.' :: digits.drop whole

/-- The significant digits with one of them before the point, and an exponent. -/
def scientific (digits : Text) (point : Int) : Text :=
  let exponent := point - 1
  let mantissa :=
    match digits with
    | [] => ['0']
    | d :: rest => if rest.isEmpty then [d] else d :: '.' :: rest
  mantissa ++ 'e' :: (if exponent < 0 then '-' else '+') ::
    (Text.ofNat exponent.natAbs).leftpad 2 '0'

/-- The shown form of a decimal number. -/
def shown : Decimal → Text
  | .undefined => "nan".toList
  | .infinite negative => signText negative ++ "inf".toList
  | .finite negative 0 _ => signText negative ++ "0.0".toList
  | .finite negative digits exponent =>
    let (kept, zeros) := trimZeros (Text.ofNat digits)
    let point := exponent + zeros + kept.length
    signText negative ++
      if -4 < point && point ≤ 16 then positional kept point else scientific kept point

end Decimal

end NamedGrid
