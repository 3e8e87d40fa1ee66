import Mathlib.Data.List.Basic
import Mathlib.Tactic.Tauto
import NamedGrid.Css.Bracketed
import NamedGrid.Operation.Listing

/-!
# Class names

Every class name is a lead followed by a free text: a stem and a hyphen before the name of
a static class, a stem and the opening bracket before a bracketed value. No lead begins
another one of its kind, so a class name determines its lead and what follows it, whatever
characters that is made of. No lead starts with a dot, so what is read as a bracketed class is
its name with at most a dot before it and a line feed behind it.
-/

namespace NamedGrid

/-- No lead begins another one. -/
def PrefixFree (leads : List Text) : Prop :=
  ∀ a ∈ leads, ∀ b ∈ leads, a.isPrefixOf b = true → a = b

instance (leads : List Text) : Decidable (PrefixFree leads) :=
  inferInstanceAs (Decidable (∀ a ∈ leads, ∀ b ∈ leads, a.isPrefixOf b = true → a = b))

/-- A text begins with at most one lead. -/
theorem PrefixFree.append_inj {leads : List Text} (h : PrefixFree leads) {a b s t : Text}
    (ha : a ∈ leads) (hb : b ∈ leads) (he : a ++ s = b ++ t) : a = b ∧ s = t := by
  have hab : a = b := by
    rcases List.prefix_or_prefix_of_prefix (List.prefix_append a s)
      (he ▸ List.prefix_append b t) with hp | hp
    · exact h a ha b hb (List.isPrefixOf_iff_prefix.mpr hp)
    · exact (h b hb a ha (List.isPrefixOf_iff_prefix.mpr hp)).symm
  subst hab
  exact ⟨rfl, List.append_cancel_left he⟩

/-! ## Static classes -/

/-- The stems of the line classes. -/
def lineStems : List Text := areaStems.tail

/-- The stems of all static classes. -/
def staticStems : List Text := layoutStem :: areaStem :: lineStems

theorem mem_staticStems_of_mem_lineStems {stem : Text} (h : stem ∈ lineStems) :
    stem ∈ staticStems := List.mem_cons_of_mem _ (List.mem_cons_of_mem _ h)

/-- The leads of static classes are prefix-free; the two that share nine characters part at
the tenth. -/
theorem prefixFree_staticLeads : PrefixFree (staticStems.map (· ++ ['-'])) := by decide

theorem joined_eq_append (stem name : Text) : joined stem name = (stem ++ ['-']) ++ name := by
  rw [joined, List.append_assoc, List.singleton_append]

/-- A static class name determines its stem and its name. -/
theorem joined_inj {stem stem' name name' : Text} (hs : stem ∈ staticStems)
    (hs' : stem' ∈ staticStems) (he : joined stem name = joined stem' name') :
    stem = stem' ∧ name = name' := by
  rw [joined_eq_append, joined_eq_append] at he
  obtain ⟨hstem, hname⟩ := prefixFree_staticLeads.append_inj (List.mem_map_of_mem hs)
    (List.mem_map_of_mem hs') he
  exact ⟨List.append_cancel_right hstem, hname⟩

/-! ## Bracketed classes -/

/-- The leads of bracketed classes are prefix-free. -/
theorem prefixFree_bracketLeads : PrefixFree (bracketStems.map (· ++ opening)) := by decide

/-- A lead is read exactly where it stands, whatever follows it. -/
theorem stem?_eq_some_iff {s stem rest : Text} :
    stem? s = some (stem, rest) ↔ stem ∈ bracketStems ∧ s = stem ++ opening ++ rest := by
  constructor
  · intro h
    obtain ⟨found, hm, he⟩ := List.exists_of_findSome?_eq_some h
    obtain ⟨tail, htail, hpair⟩ := Option.map_eq_some_iff.mp he
    obtain ⟨rfl, rfl⟩ := Prod.mk.inj hpair
    exact ⟨hm, Text.eq_append_of_after? htail⟩
  · rintro ⟨hm, rfl⟩
    cases h : stem? (stem ++ opening ++ rest) with
    | none =>
      have hn := List.findSome?_eq_none_iff.mp h stem hm
      rw [Text.after?_append] at hn
      cases hn
    | some found =>
      obtain ⟨found, tail⟩ := found
      obtain ⟨other, ho, he⟩ := List.exists_of_findSome?_eq_some h
      obtain ⟨tail', htail, hpair⟩ := Option.map_eq_some_iff.mp he
      obtain ⟨rfl, rfl⟩ := Prod.mk.inj hpair
      have hsplit := Text.eq_append_of_after? htail
      obtain ⟨hlead, hrest⟩ := prefixFree_bracketLeads.append_inj (List.mem_map_of_mem hm)
        (List.mem_map_of_mem ho) hsplit
      rw [List.append_cancel_right hlead, hrest]

theorem BracketedClass.className_eq_append (c : BracketedClass) :
    c.className = (c.stem ++ opening) ++ (c.value ++ [']']) := by
  rw [className, List.append_assoc]

/-- A class with a known stem is determined by its name. -/
theorem BracketedClass.className_inj {c d : BracketedClass} (hc : c.stem ∈ bracketStems)
    (hd : d.stem ∈ bracketStems) (he : c.className = d.className) : c = d := by
  rw [className_eq_append, className_eq_append] at he
  obtain ⟨hlead, hvalue⟩ := prefixFree_bracketLeads.append_inj (List.mem_map_of_mem hc)
    (List.mem_map_of_mem hd) he
  cases c
  cases d
  exact congrArg₂ _ (List.append_cancel_right hlead) (List.append_cancel_right hvalue)

/-- A class with a known stem is determined by its selector. -/
theorem BracketedClass.selector_inj {c d : BracketedClass} (hc : c.stem ∈ bracketStems)
    (hd : d.stem ∈ bracketStems) (he : c.selector = d.selector) : c = d :=
  className_inj hc hd (List.cons.inj he).2

/-- A class whose name does not end with a bracket is no bracketed one. -/
theorem BracketedClass.className_ne {c : BracketedClass} {className : Text}
    (h : className.getLast? ≠ some ']') : className ≠ c.className := by
  rintro rfl
  exact h (by rw [className, List.getLast?_append, List.getLast?_singleton, Option.some_or])

/-! ## Leading dots -/

theorem without_dot_of_ne {c : Char} (h : c ≠ '.') (s : Text) :
    Text.without ['.'] (c :: s) = c :: s := by
  have hnone : Text.after? ['.'] (c :: s) = none := by
    rw [Text.after?_cons_cons, if_neg (by simpa using h.symm)]
  change (Text.after? ['.'] (c :: s)).getD (c :: s) = _
  rw [hnone, Option.getD_none]

/-- No class name starts with a dot, so none is taken off. -/
theorem without_dot {stem : Text} (hs : stem ∈ staticStems ++ bracketStems) (s : Text) :
    Text.without ['.'] (stem ++ s) = stem ++ s := by
  have hall : ∀ stem ∈ staticStems ++ bracketStems, stem.head?.any (· != '.') = true := by decide
  have hhead := hall stem hs
  cases stem with
  | nil => simp at hhead
  | cons c stem => exact without_dot_of_ne (by simpa using hhead) (stem ++ s)

/-- A name with its dot taken off begins with a stem exactly if a dot stands before the stem or
nothing does. -/
theorem without_dot_eq_iff {stem : Text} (hs : stem ∈ staticStems ++ bracketStems)
    {rest name : Text} :
    Text.without ['.'] name = stem ++ rest ↔
      name = stem ++ rest ∨ name = '.' :: (stem ++ rest) := by
  constructor
  · intro h
    cases name with
    | nil => exact Or.inl h
    | cons c s =>
      by_cases hc : c = '.'
      · subst hc
        exact Or.inr (congrArg ('.' :: ·) h)
      · exact Or.inl ((without_dot_of_ne hc s).symm.trans h)
  · rintro (rfl | rfl)
    · exact without_dot hs rest
    · rfl

theorem BracketedClass.without_dot_className {c : BracketedClass} (hs : c.stem ∈ bracketStems) :
    Text.without ['.'] c.className = c.className := by
  rw [className_eq_append, List.append_assoc]
  exact without_dot (List.mem_append_right _ hs) _

/-! ## Reading bracketed names -/

/-- A value without a line feed is read up to a bracket at the end, behind which one line feed may
stand. -/
theorem closedValue?_eq_some_iff {s value : Text} :
    closedValue? s = some value ↔
      '\n' ∉ value ∧ (s = value ++ [']'] ∨ s = value ++ [']', '\n']) := by
  have hbody : ∀ body : Text,
      (if body.getLast? = some ']' && !Text.hasNewline body.dropLast then some body.dropLast
        else none) = some value ↔ '\n' ∉ value ∧ body = value ++ [']'] := by
    intro body
    rw [Option.ite_none_right_eq_some]
    simp only [Bool.and_eq_true, decide_eq_true_eq, Bool.not_eq_true', Text.hasNewline,
      List.contains_eq_mem, decide_eq_false_iff_not, Option.some.injEq]
    constructor
    · rintro ⟨⟨hbracket, hnewline⟩, rfl⟩
      exact ⟨hnewline, (List.dropLast_append_getLast? _ hbracket).symm⟩
    · rintro ⟨hnewline, rfl⟩
      rw [List.dropLast_concat, List.getLast?_concat]
      exact ⟨⟨rfl, hnewline⟩, rfl⟩
  unfold closedValue?
  by_cases hfeed : s.getLast? = some '\n'
  · have hs := List.dropLast_append_getLast? _ hfeed
    have hshort : s ≠ value ++ [']'] := by
      rintro rfl
      rw [List.getLast?_concat] at hfeed
      exact absurd hfeed (by decide)
    rw [if_pos hfeed, hbody, or_iff_right hshort]
    refine and_congr_right fun _ => ⟨fun h => ?_, fun h => ?_⟩
    · rw [← hs, h, List.append_assoc]
      rfl
    · rw [h, List.dropLast_append_of_ne_nil (List.cons_ne_nil _ _)]
      rfl
  · have hlong : s ≠ value ++ [']', '\n'] := by
      rintro rfl
      rw [List.getLast?_append] at hfeed
      exact hfeed rfl
    rw [if_neg hfeed, hbody, or_iff_left hlong]

namespace BracketedClass

/-- The name of a bracketed class stands in the text, with nothing around it but a dot before it
and a line feed behind it. -/
def IsWrittenAs (c : BracketedClass) (s : Text) : Prop :=
  ∃ dot ∈ [[], ['.']], ∃ feed ∈ [[], ['\n']], s = dot ++ c.className ++ feed

theorem isWrittenAs_className (c : BracketedClass) : c.IsWrittenAs c.className :=
  ⟨[], by simp, [], by simp, by simp⟩

theorem className_append (c : BracketedClass) (s : Text) :
    c.className ++ s = c.stem ++ (opening ++ (c.value ++ ']' :: s)) := by
  simp [className]

/-- With the dot taken off, a class stands at the front and at most a line feed behind it. -/
theorem isWrittenAs_iff {c : BracketedClass} (hs : c.stem ∈ bracketStems) {s : Text} :
    c.IsWrittenAs s ↔
      Text.without ['.'] s = c.className ∨ Text.without ['.'] s = c.className ++ ['\n'] := by
  have hfeed : ∀ feed : Text, Text.without ['.'] s = c.className ++ feed ↔
      s = c.className ++ feed ∨ s = '.' :: (c.className ++ feed) := by
    intro feed
    rw [className_append]
    exact without_dot_eq_iff (List.mem_append_right _ hs)
  have hnone := hfeed []
  rw [List.append_nil] at hnone
  rw [hnone, hfeed]
  simp only [IsWrittenAs, List.mem_cons, List.not_mem_nil, or_false, exists_eq_or_imp,
    exists_eq_left, List.nil_append, List.append_nil, List.cons_append]
  tauto

/-- What is read: a class with a known stem and a value on one line, whose escapes are taken
away. -/
theorem parse?_eq_some_iff {s : Text} {c : BracketedClass} :
    parse? s = some c ↔
      ∃ raw : BracketedClass, raw.stem ∈ bracketStems ∧ '\n' ∉ raw.value ∧ raw.IsWrittenAs s ∧
        c = ⟨raw.stem, unescape raw.value⟩ := by
  -- Behind the stem of a class the rest is its value and a bracket, where the line feed is left.
  have hread : ∀ (raw : BracketedClass) (rest : Text),
      Text.without ['.'] s = raw.stem ++ opening ++ rest →
        ((rest = raw.value ++ [']'] ∨ rest = raw.value ++ [']', '\n']) ↔
          (Text.without ['.'] s = raw.className ∨
            Text.without ['.'] s = raw.className ++ ['\n'])) := by
    intro raw rest hrest
    rw [hrest, className, List.append_assoc (raw.stem ++ opening),
      List.append_assoc (raw.stem ++ opening), List.append_right_inj, List.append_right_inj,
      List.append_assoc]
    rfl
  constructor
  · intro h
    unfold parse? at h
    split at h
    · cases h
    · rename_i stem rest hstem
      obtain ⟨value, hclosed, rfl⟩ := Option.map_eq_some_iff.mp h
      obtain ⟨hs, hwithout⟩ := stem?_eq_some_iff.mp hstem
      obtain ⟨hvalue, hrest⟩ := closedValue?_eq_some_iff.mp hclosed
      exact ⟨⟨stem, value⟩, hs, hvalue,
        (isWrittenAs_iff hs).mpr ((hread ⟨stem, value⟩ rest hwithout).mp hrest), rfl⟩
  · rintro ⟨raw, hs, hvalue, hwritten, rfl⟩
    have hsplit := (isWrittenAs_iff hs).mp hwritten
    obtain ⟨rest, hwithout⟩ : ∃ rest, Text.without ['.'] s = raw.stem ++ opening ++ rest := by
      rcases hsplit with h | h
      · exact ⟨_, h.trans raw.className_eq_append⟩
      · exact ⟨_, h.trans ((raw.className_append _).trans (List.append_assoc ..).symm)⟩
    have hclosed : closedValue? rest = some raw.value :=
      closedValue?_eq_some_iff.mpr ⟨hvalue, (hread raw rest hwithout).mpr hsplit⟩
    rw [parse?, stem?_eq_some_iff.mpr ⟨hs, hwithout⟩]
    dsimp only
    rw [hclosed]
    rfl

end BracketedClass

end NamedGrid
