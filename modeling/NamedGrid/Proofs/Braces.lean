import NamedGrid.Css.Stylesheet
import NamedGrid.Proofs.Identifiers
import NamedGrid.Proofs.Rows

/-!
# Rules as blocks

Whoever looks for the end of a rule counts braces and passes over what stands in double
quotes and what follows a backslash. The reading of a text from any point is a fold, so it is
known of a joined text as soon as it is known of the parts. In a rule only the selector and
the values can open or close anything: a single class is written as an identifier, which
protects all such marks, so its rule is a block exactly if its values are enclosed
(`isBlock_renderRule_iff`).
-/

namespace NamedGrid

/-- Where a reader of braces stands. -/
structure Reading where
  /-- How many braces are open. -/
  depth : Int
  /-- Is a quotation open? -/
  quoted : Bool
  /-- Does a backslash protect the next character? -/
  escaped : Bool
  deriving DecidableEq, Repr

namespace Reading

/-- Outside of quotations, at a depth. -/
def outside (depth : Int) : Reading := ⟨depth, false, false⟩

/-- Read one character. -/
def step (r : Reading) (c : Char) : Reading :=
  if r.escaped then { r with escaped := false }
  else if c = '\\' then { r with escaped := true }
  else if c = '"' then { r with quoted := !r.quoted }
  else if r.quoted then r
  else if c = '\x7b' then { r with depth := r.depth + 1 }
  else if c = '\x7d' then { r with depth := r.depth - 1 }
  else r

/-- Read a text. -/
def run (r : Reading) (s : Text) : Reading := s.foldl step r

/-- The depth has a property wherever the reading of a text stops. -/
def Stays (P : Int → Prop) (r : Reading) (s : Text) : Prop := ∀ p, p <+: s → P (r.run p).depth

variable {P : Int → Prop} {r : Reading} {s t : Text}

@[simp] theorem run_nil (r : Reading) : r.run [] = r := rfl

@[simp] theorem run_cons (r : Reading) (c : Char) (s : Text) :
    r.run (c :: s) = (r.step c).run s := rfl

theorem run_append (r : Reading) (s t : Text) : r.run (s ++ t) = (r.run s).run t :=
  List.foldl_append

@[simp] theorem stays_nil : Stays P r [] ↔ P r.depth := by
  refine ⟨fun h => h [] List.prefix_rfl, fun h p hp => ?_⟩
  rw [List.prefix_nil.mp hp]
  exact h

@[simp] theorem stays_cons {c : Char} :
    Stays P r (c :: s) ↔ P r.depth ∧ Stays P (r.step c) s := by
  constructor
  · intro h
    refine ⟨h [] (List.nil_prefix), fun p hp => ?_⟩
    exact h (c :: p) (List.cons_prefix_cons.mpr ⟨rfl, hp⟩)
  · rintro ⟨h, hs⟩ p hp
    rcases List.prefix_cons_iff.mp hp with rfl | ⟨q, rfl, hq⟩
    · exact h
    · exact hs q hq

theorem stays_append : Stays P r (s ++ t) ↔ Stays P r s ∧ Stays P (r.run s) t := by
  induction s generalizing r with
  | nil =>
    rw [List.nil_append, stays_nil, run_nil]
    exact ⟨fun h => ⟨h [] List.nil_prefix, h⟩, And.right⟩
  | cons c s ih => rw [List.cons_append, stays_cons, stays_cons, run_cons, ih, and_assoc]

/-- What holds wherever the reading stops holds at the end. -/
theorem Stays.run (h : Stays P r s) : P (r.run s).depth := h s List.prefix_rfl

/-- Characters that change nothing one by one change nothing together. -/
theorem run_eq_self (h : ∀ c ∈ s, r.step c = r) : r.run s = r := by
  induction s with
  | nil => rfl
  | cons c s ih =>
    rw [List.forall_mem_cons] at h
    rw [run_cons, h.1, ih h.2]

theorem stays_of_step_eq (h : ∀ c ∈ s, r.step c = r) : Stays P r s ↔ P r.depth := by
  refine ⟨fun hs => hs [] List.nil_prefix, fun hr p hp => ?_⟩
  rw [run_eq_self fun c hc => h c (hp.subset hc)]
  exact hr

end Reading

/-! ## Neutral texts -/

/-- The character opens, closes and protects nothing. -/
def isNeutral (c : Char) : Bool := c != '\x7b' && c != '\x7d' && c != '"' && c != '\\'

/-- No character of the text opens, closes or protects anything. -/
def IsNeutral (s : Text) : Prop := ∀ c ∈ s, isNeutral c = true

instance (s : Text) : Decidable (IsNeutral s) := List.decidableBAll _ s

theorem isNeutral_append {s t : Text} : IsNeutral (s ++ t) ↔ IsNeutral s ∧ IsNeutral t :=
  List.forall_mem_append

namespace Reading

theorem step_of_isNeutral {r : Reading} {c : Char} (hr : r.escaped = false)
    (hc : isNeutral c = true) : r.step c = r := by
  simp only [isNeutral, Bool.and_eq_true, bne_iff_ne] at hc
  obtain ⟨⟨⟨hopen, hclose⟩, hquote⟩, hescape⟩ := hc
  simp [step, hr, hopen, hclose, hquote, hescape]

/-- A neutral text changes nothing. -/
theorem run_of_isNeutral {r : Reading} {s : Text} (hr : r.escaped = false) (hs : IsNeutral s) :
    r.run s = r := run_eq_self fun c hc => step_of_isNeutral hr (hs c hc)

theorem stays_of_isNeutral {P : Int → Prop} {r : Reading} {s : Text} (hr : r.escaped = false)
    (hs : IsNeutral s) : Stays P r s ↔ P r.depth :=
  stays_of_step_eq fun c hc => step_of_isNeutral hr (hs c hc)

/-- Behind a semicolon nothing is protected. -/
theorem escaped_run_semicolon (r : Reading) (s : Text) : (r.run (s ++ [';'])).escaped = false := by
  rw [run_append, run_cons, run_nil, step]
  split
  · rfl
  · rename_i h
    simpa using h

/-- Where braces are open, one that closes the last of them stands outside of quotations. -/
theorem eq_outside_of_step {r : Reading} (hr : 0 < r.depth)
    (h : r.step '\x7d' = outside 0) : r = outside 1 := by
  obtain ⟨depth, quoted, escaped⟩ := r
  cases escaped <;> cases quoted <;> simp [step, outside] at h hr ⊢ <;> omega

end Reading

/-! ## Blocks -/

/-- The text is a header and a body in braces: the header opens nothing, inside the braces at
least one is open, and the last character closes it with no quotation open. -/
def IsBlock (s : Text) : Prop :=
  ∃ header body, s = header ++ '\x7b' :: (body ++ ['\x7d']) ∧
    Reading.Stays (· = 0) (.outside 0) header ∧
    Reading.Stays (0 < ·) ((Reading.outside 0).run (header ++ ['\x7b'])) body ∧
    (Reading.outside 0).run s = .outside 0

/-- Nothing is opened or closed on the way, and nothing is open or protected at the end. -/
def IsFlat (header : Text) : Prop :=
  Reading.Stays (· = 0) (.outside 0) header ∧ (Reading.outside 0).run header = .outside 0

/-- Inside one pair of braces the text closes what it opens and nothing else. -/
def IsInner (body : Text) : Prop :=
  Reading.Stays (0 < ·) (.outside 1) body ∧ (Reading.outside 1).run body = .outside 1

theorem IsFlat.append {s t : Text} (hs : IsFlat s) (ht : IsFlat t) : IsFlat (s ++ t) := by
  rw [IsFlat, Reading.stays_append, Reading.run_append, hs.2]
  exact ⟨⟨hs.1, ht.1⟩, ht.2⟩

/-- A neutral text is flat. -/
theorem IsNeutral.isFlat {s : Text} (h : IsNeutral s) : IsFlat s :=
  ⟨(Reading.stays_of_isNeutral rfl h).mpr rfl, Reading.run_of_isNeutral rfl h⟩

/-- Behind a flat header the first brace opens the block. -/
theorem IsFlat.run_brace {header : Text} (h : IsFlat header) :
    (Reading.outside 0).run (header ++ ['\x7b']) = .outside 1 := by
  rw [Reading.run_append, h.2]
  rfl

/-- Texts that are inner one by one are inner together. -/
theorem IsInner.append {s t : Text} (hs : IsInner s) (ht : IsInner t) : IsInner (s ++ t) := by
  rw [IsInner, Reading.stays_append, Reading.run_append, hs.2]
  exact ⟨⟨hs.1, ht.1⟩, ht.2⟩

/-- A neutral text is inner. -/
theorem IsNeutral.isInner {s : Text} (h : IsNeutral s) : IsInner s :=
  ⟨(Reading.stays_of_isNeutral rfl h).mpr Int.one_pos, Reading.run_of_isNeutral rfl h⟩

/-- Inside of quotation marks braces do not count. -/
theorem isInner_inQuotes {s : Text} (h : ∀ c ∈ s, c ≠ '"' ∧ c ≠ '\\') : IsInner (inQuotes s) := by
  have hstep : ∀ c ∈ s, Reading.step ⟨1, true, false⟩ c = ⟨1, true, false⟩ := by
    intro c hc
    simp [Reading.step, h c hc]
  have hopen : (Reading.outside 1).step '"' = ⟨1, true, false⟩ := by decide
  have hclose : Reading.step ⟨1, true, false⟩ '"' = .outside 1 := by decide
  rw [inQuotes, IsInner, Reading.stays_append, List.cons_append, Reading.stays_cons,
    Reading.run_cons, Reading.run_cons, Reading.run_append, hopen, Reading.run_eq_self hstep,
    Reading.stays_of_step_eq hstep]
  exact ⟨⟨⟨Int.one_pos, Int.one_pos⟩, by simp [hclose, Reading.outside]⟩, hclose⟩

/-- Inner texts that are joined by single spaces are inner. -/
theorem isInner_spaced {parts : List Text} (h : ∀ s ∈ parts, IsInner s) :
    IsInner (spaced parts) := by
  have hspace : IsInner [' '] := IsNeutral.isInner (by decide)
  induction parts with
  | nil => exact IsNeutral.isInner (by decide)
  | cons s parts ih =>
    rw [List.forall_mem_cons] at h
    cases parts with
    | nil => simpa [spaced] using h.1
    | cons t parts =>
      rw [spaced, List.intercalate_cons_cons]
      exact (h.1.append hspace).append (ih h.2)

/-- A block ends its header with the first brace that its reading counts. -/
theorem eq_of_stays {header other : Text} {body rest : Text} (h : IsFlat header)
    (hs : header ++ '\x7b' :: body = other ++ '\x7b' :: rest)
    (hother : Reading.Stays (· = 0) (.outside 0) other)
    (hopen : 0 < ((Reading.outside 0).run (other ++ ['\x7b'])).depth) : other = header := by
  -- If one header went on behind the brace of the other, it would hold an open brace.
  rcases List.append_eq_append_iff.mp hs with ⟨u, rfl, hu⟩ | ⟨u, rfl, hu⟩
  · cases u with
    | nil => exact List.append_nil header
    | cons c u =>
      obtain ⟨rfl, -⟩ := List.cons.inj hu
      have hzero := hother (header ++ ['\x7b']) ⟨u, by simp⟩
      rw [h.run_brace] at hzero
      cases hzero
  · cases u with
    | nil => exact (List.append_nil other).symm
    | cons c u =>
      obtain ⟨rfl, -⟩ := List.cons.inj hu
      have hzero := h.1 (other ++ ['\x7b']) ⟨u, by simp⟩
      exact absurd hzero (Int.ne_of_gt hopen)

/-- Behind a flat header a text in braces is a block exactly if it closes what it opens. -/
theorem isBlock_iff {header : Text} (h : IsFlat header) (body : Text) :
    IsBlock (header ++ '\x7b' :: (body ++ ['\x7d'])) ↔ IsInner body := by
  have hrun : (Reading.outside 0).run (header ++ '\x7b' :: (body ++ ['\x7d'])) =
      ((Reading.outside 1).run body).step '\x7d' := by
    rw [List.append_cons, Reading.run_append, h.run_brace, Reading.run_append]
    rfl
  constructor
  · rintro ⟨other, inner, hs, hother, hinner, hend⟩
    obtain rfl := eq_of_stays h hs hother (hinner [] List.nil_prefix)
    obtain rfl : inner = body := by simpa using hs.symm
    rw [h.run_brace] at hinner
    rw [hrun] at hend
    exact ⟨hinner, Reading.eq_outside_of_step hinner.run hend⟩
  · rintro ⟨hinner, hend⟩
    refine ⟨header, body, rfl, h.1, by rwa [h.run_brace], ?_⟩
    rw [hrun, hend]
    rfl

/-! ## Selectors -/

/-- No character that stands for itself in an identifier opens, closes or protects. -/
theorem isNeutral_of_isPlain {c : Char} (h : Identifier.isPlain c = true) :
    isNeutral c = true := by
  simp only [isNeutral, Bool.and_eq_true, bne_iff_ne]
  refine ⟨⟨⟨?_, ?_⟩, ?_⟩, ?_⟩ <;> rintro rfl <;> exact absurd h (by decide)

/-- One character inside an identifier is flat. -/
theorem isFlat_escapedChar (c : Char) : IsFlat (Identifier.escapedChar c) := by
  rw [Identifier.escapedChar]
  split
  · rename_i hplain
    refine IsNeutral.isFlat fun d hd => ?_
    rw [List.mem_singleton.mp hd]
    exact isNeutral_of_isPlain hplain
  · simp [IsFlat, Reading.step, Reading.outside]

/-- One character where an identifier begins is flat. -/
theorem isFlat_escapedLead (c : Char) : IsFlat (Identifier.escapedLead c) := by
  rw [Identifier.escapedLead]
  split
  · rename_i hdigit
    obtain ⟨hne, hall, -, -⟩ := Identifier.hexNumber_hex hdigit
    obtain ⟨d, digits, hdigits⟩ := List.exists_cons_of_ne_nil hne
    rw [hdigits] at hall ⊢
    -- The backslash protects the first digit, and what follows needs no protection.
    have htail : IsNeutral (digits ++ [' ']) := by
      refine isNeutral_append.mpr ⟨fun e he => ?_, by decide⟩
      exact isNeutral_of_isPlain (Identifier.isPlain_of_isHexDigit
        (List.all_eq_true.mp hall e (List.mem_cons_of_mem d he)))
    have hlead : IsFlat ['\\', d] := by simp [IsFlat, Reading.step, Reading.outside]
    exact hlead.append htail.isFlat
  · exact isFlat_escapedChar c

/-- Characters inside an identifier are flat. -/
theorem isFlat_flatMap_escapedChar (s : Text) : IsFlat (s.flatMap Identifier.escapedChar) := by
  induction s with
  | nil => exact IsNeutral.isFlat (by decide)
  | cons c s ih =>
    rw [List.flatMap_cons]
    exact (isFlat_escapedChar c).append ih

/-- An identifier is flat. -/
theorem isFlat_escape (s : Text) : IsFlat (Identifier.escape s) := by
  unfold Identifier.escape
  split
  · exact IsNeutral.isFlat (by decide)
  · exact IsNeutral.isFlat (by decide)
  · have hhyphen : IsFlat ['-'] := IsNeutral.isFlat (by decide)
    exact hhyphen.append ((isFlat_escapedLead _).append (isFlat_flatMap_escapedChar _))
  · exact (isFlat_escapedLead _).append (isFlat_flatMap_escapedChar _)

/-- A selector of a class is written flat, unless it has a space and is not flat itself. -/
theorem isFlat_writtenSelector {className : Text}
    (h : ' ' ∈ selectorOf className → IsFlat (selectorOf className)) :
    IsFlat (writtenSelector (selectorOf className)) := by
  have hdot : IsFlat ['.'] := IsNeutral.isFlat (by decide)
  rw [selectorOf, writtenSelector]
  split
  · rename_i hspace
    exact h (List.mem_cons_of_mem _ (by simpa using hspace))
  · exact hdot.append (isFlat_escape className)

/-! ## Rules -/

/-- Values one after the other, each with its semicolon. -/
def terminated (values : List Text) : Text := values.flatMap (· ++ [';'])

/-- Values that are inner one by one are inner with their semicolons. -/
theorem isInner_terminated {values : List Text} (h : ∀ v ∈ values, IsInner v) :
    IsInner (terminated values) := by
  induction values with
  | nil => exact IsNeutral.isInner (by decide)
  | cons v values ih =>
    rw [List.forall_mem_cons] at h
    have hsemicolon : IsInner [';'] := IsNeutral.isInner (by decide)
    exact (h.1.append hsemicolon).append (ih h.2)

/-- The lines of properties, each with its line feed. -/
def propertyLines (properties : List (Text × Text)) : Text :=
  properties.flatMap fun p => indent 1 ++ p.1 ++ ": ".toList ++ p.2 ++ [';'] ++ ['\n']

/-- The lines of a body of properties. -/
theorem lines_ofProperties (depth : Nat) (properties : Properties) :
    Body.lines depth (Body.ofProperties properties) = properties.entries.map fun p =>
      indent depth ++ p.1 ++ ": ".toList ++ p.2 ++ [';'] := by
  rw [Body.ofProperties]
  induction properties.entries with
  | nil => rfl
  | cons p entries ih => rw [List.map_cons, List.map_cons, Body.lines, ih]; rfl

/-- The text of a rule of properties, cut at its braces. -/
theorem renderRule_ofProperties (selector : Text) (properties : Properties) :
    renderRule selector (Body.ofProperties properties) =
      (writtenSelector selector ++ [' ']) ++
        '\x7b' :: (('\n' :: propertyLines properties.entries) ++ ['\x7d']) := by
  rw [renderRule, lines_ofProperties, ← List.cons_append, intercalate_concat, List.flatMap_cons,
    List.flatMap_map, propertyLines]
  simp only [List.append_assoc, List.cons_append, List.nil_append]

/-- Between neutral names only the values are read. -/
theorem run_propertyLines {P : Int → Prop} {properties : List (Text × Text)}
    (h : ∀ p ∈ properties, IsNeutral p.1) {r : Reading} (hr : r.escaped = false) :
    r.run (propertyLines properties) = r.run (terminated (properties.map Prod.snd)) ∧
      (Reading.Stays P r (propertyLines properties) ↔
        Reading.Stays P r (terminated (properties.map Prod.snd))) := by
  induction properties generalizing r with
  | nil => exact ⟨rfl, Iff.rfl⟩
  | cons p properties ih =>
    obtain ⟨hname, hrest⟩ := List.forall_mem_cons.mp h
    have hlead : IsNeutral (indent 1 ++ p.1 ++ ": ".toList) :=
      isNeutral_append.mpr ⟨isNeutral_append.mpr ⟨by decide, hname⟩, by decide⟩
    have hfeed : IsNeutral ['\n'] := by decide
    have hvalue := Reading.escaped_run_semicolon r p.2
    obtain ⟨hrun, hstays⟩ := ih hrest hvalue
    have hline : propertyLines (p :: properties) =
        (indent 1 ++ p.1 ++ ": ".toList) ++ ((p.2 ++ [';']) ++
          (['\n'] ++ propertyLines properties)) := by
      simp only [propertyLines, List.flatMap_cons, List.append_assoc]
    have hterminated : terminated ((p :: properties).map Prod.snd) =
        (p.2 ++ [';']) ++ terminated (properties.map Prod.snd) := rfl
    rw [hline, hterminated]
    generalize p.2 ++ [';'] = value at hvalue hrun hstays
    constructor
    · rw [Reading.run_append, Reading.run_of_isNeutral hr hlead, Reading.run_append,
        Reading.run_append, Reading.run_of_isNeutral hvalue hfeed, Reading.run_append, hrun]
    · rw [Reading.stays_append, Reading.stays_of_isNeutral hr hlead,
        Reading.run_of_isNeutral hr hlead, Reading.stays_append, Reading.stays_append,
        Reading.stays_of_isNeutral hvalue hfeed, Reading.run_of_isNeutral hvalue hfeed,
        Reading.stays_append, hstays]
      exact ⟨fun h => ⟨h.2.1, h.2.2.2⟩, fun h => ⟨h.1 [] List.nil_prefix, h.1, h.1.run, h.2⟩⟩

/-- **A rule of properties is a block** behind a flat selector exactly if its values close
what they open. -/
theorem isBlock_renderRule_iff {selector : Text} {properties : Properties}
    (hflat : IsFlat (writtenSelector selector)) (h : ∀ p ∈ properties.entries, IsNeutral p.1) :
    IsBlock (renderRule selector (Body.ofProperties properties)) ↔
      IsInner (terminated properties.values) := by
  have hheader : IsFlat (writtenSelector selector ++ [' ']) :=
    hflat.append (IsNeutral.isFlat (by decide))
  have hfeed : (Reading.outside 1).step '\n' = .outside 1 := by decide
  obtain ⟨hrun, hstays⟩ :=
    run_propertyLines (P := (0 < ·)) h (rfl : (Reading.outside 1).escaped = _)
  rw [renderRule_ofProperties, isBlock_iff hheader, IsInner, IsInner, Reading.stays_cons,
    Reading.run_cons, hfeed, hrun, hstays]
  exact and_congr_left fun _ => and_iff_right (by decide)

end NamedGrid
