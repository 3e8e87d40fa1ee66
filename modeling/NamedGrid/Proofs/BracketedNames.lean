import NamedGrid.Proofs.Scanner

/-!
# Names of bracketed classes

A name on one line is read exactly if it is that of a bracketed class, with at most one dot before
it. A stem and its value are then found in one way only, whatever brackets and stems the value
itself holds, since no lead begins another one and the last bracket closes the value. Reading
takes one level of escapes away and the name of what was read does not put it back. So a class is
read back from its own name just where its value is its own reading: where no backslash in it
protects a character.
-/

namespace NamedGrid

namespace BracketedClass

/-! ## The grammar of names -/

/-- The text is the name of the class, with at most one dot before it. -/
def Spells (c : BracketedClass) (s : Text) : Prop := s = c.className ∨ s = '.' :: c.className

theorem spells_iff {c : BracketedClass} (hs : c.stem ∈ bracketStems) {s : Text} :
    c.Spells s ↔ Text.without ['.'] s = c.className := by
  have hname : c.className = c.stem ++ (opening ++ (c.value ++ [']'])) := by
    simp [className]
  rw [Spells, hname]
  exact (without_dot_eq_iff (List.mem_append_right _ hs)).symm

/-- On one line there is no line feed behind a name. -/
theorem isWrittenAs_iff_spells {c : BracketedClass} {s : Text} (h : '\n' ∉ s) :
    c.IsWrittenAs s ↔ c.Spells s := by
  constructor
  · rintro ⟨dot, hdot, feed, hfeed, rfl⟩
    simp only [List.mem_cons, List.not_mem_nil, or_false] at hdot hfeed
    rcases hfeed with rfl | rfl
    · rcases hdot with rfl | rfl
      · exact Or.inl (by simp)
      · exact Or.inr (by simp)
    · simp at h
  · rintro (rfl | rfl)
    · exact c.isWrittenAs_className
    · exact ⟨['.'], by simp, [], by simp, by simp⟩

/-- The value of a class whose name is on one line is on one line. -/
theorem Spells.notMem_value {c : BracketedClass} {s : Text} (hc : c.Spells s) (h : '\n' ∉ s) :
    '\n' ∉ c.value := by
  intro hm
  have hname : '\n' ∈ c.className := by simp [className, hm]
  rcases hc with rfl | rfl
  · exact h hname
  · exact h (List.mem_cons_of_mem _ hname)

/-- A text is the name of at most one class. -/
theorem Spells.inj {c d : BracketedClass} {s : Text} (hc : c.Spells s) (hd : d.Spells s)
    (hcs : c.stem ∈ bracketStems) (hds : d.stem ∈ bracketStems) : c = d :=
  className_inj hcs hds (((spells_iff hcs).mp hc).symm.trans ((spells_iff hds).mp hd))

/-- What is read on one line. -/
theorem parse?_eq_some_iff_spells {s : Text} (h : '\n' ∉ s) {c : BracketedClass} :
    parse? s = some c ↔
      ∃ raw : BracketedClass, raw.stem ∈ bracketStems ∧ raw.Spells s ∧ c = raw.unescaped := by
  rw [parse?_eq_some_iff]
  refine exists_congr fun raw => and_congr_right fun _ => ?_
  rw [isWrittenAs_iff_spells h]
  exact ⟨fun ⟨_, hspells, hc⟩ => ⟨hspells, hc⟩,
    fun ⟨hspells, hc⟩ => ⟨hspells.notMem_value h, hspells, hc⟩⟩

/-- The stems are prefix-free also where a hyphen follows them. -/
theorem prefixFree_hyphenatedStems : PrefixFree (bracketStems.map (· ++ ['-'])) := by decide

/-- A name begins with the stem of its class and with no other. -/
theorem Spells.stem_eq {c : BracketedClass} {s stem : Text} (hc : c.Spells s)
    (hcs : c.stem ∈ bracketStems) (hs : stem ∈ bracketStems)
    (hlead : stem ++ ['-'] <+: Text.without ['.'] s) : c.stem = stem := by
  obtain ⟨rest, hrest⟩ := hlead
  have hname : c.className = (c.stem ++ ['-']) ++ ('[' :: c.value ++ [']']) := by
    simp [className, opening]
  rw [(spells_iff hcs).mp hc, hname] at hrest
  obtain ⟨hstems, -⟩ := prefixFree_hyphenatedStems.append_inj (List.mem_map_of_mem hs)
    (List.mem_map_of_mem hcs) hrest
  exact (List.append_cancel_right hstems).symm

/-- **The reader accepts exactly its grammar.** A name on one line is read if and only if it is a
stem, a hyphen and any text in brackets, with at most one dot before it; stem and text are then
determined, and what is read is the stem and the text with its escapes taken away. No other stem
is read where one stands in front with its hyphen. -/
theorem parse?_grammar {s : Text} (h : '\n' ∉ s) :
    ((parse? s).isSome = true ↔
        ∃ raw : BracketedClass, raw.stem ∈ bracketStems ∧ raw.Spells s) ∧
      (∀ raw : BracketedClass, raw.stem ∈ bracketStems → raw.Spells s →
        parse? s = some ⟨raw.stem, unescape raw.value⟩ ∧
        ∀ other : BracketedClass, other.stem ∈ bracketStems → other.Spells s → other = raw) ∧
      ∀ c, parse? s = some c → ∀ stem ∈ bracketStems,
        stem ++ ['-'] <+: Text.without ['.'] s → c.stem = stem := by
  have hread := fun c => parse?_eq_some_iff_spells h (c := c)
  refine ⟨?_, fun raw hs hspells => ⟨?_, fun other ho hother => ?_⟩, fun c hc stem hs hlead => ?_⟩
  · rw [Option.isSome_iff_exists]
    constructor
    · rintro ⟨c, hc⟩
      obtain ⟨raw, hs, hspells, -⟩ := (hread c).mp hc
      exact ⟨raw, hs, hspells⟩
    · rintro ⟨raw, hs, hspells⟩
      exact ⟨raw.unescaped, (hread _).mpr ⟨raw, hs, hspells, rfl⟩⟩
  · exact (hread _).mpr ⟨raw, hs, hspells, rfl⟩
  · exact hother.inj hspells ho hs
  · obtain ⟨raw, hraw, hspells, rfl⟩ := (hread c).mp hc
    exact hspells.stem_eq hraw hs hlead

/-- A name whose value holds brackets and the name of another class. -/
def nestedName : Text := ".grid-areas-[a]-[grid-area-[b\\]\\,c]]".toList

/-- The name is read from its first opening to its last bracket, and not as one of a placement. -/
theorem parse?_grammar_nestedName :
    '\n' ∉ nestedName ∧
      parse? nestedName = some ⟨"grid-areas".toList, "a]-[grid-area-[b],c]".toList⟩ ∧
      (∀ raw : BracketedClass, raw.stem ∈ bracketStems → raw.Spells nestedName →
        raw = ⟨"grid-areas".toList, "a]-[grid-area-[b\\]\\,c]".toList⟩) ∧
      ¬("grid-area".toList ++ ['-'] <+: Text.without ['.'] nestedName) := by
  have hline : '\n' ∉ nestedName := by decide
  have hspells : Spells ⟨"grid-areas".toList, "a]-[grid-area-[b\\]\\,c]".toList⟩ nestedName :=
    Or.inr rfl
  obtain ⟨-, hunique, hstems⟩ := parse?_grammar hline
  obtain ⟨hread, hother⟩ := hunique _ (by decide) hspells
  exact ⟨hline, hread, hother, fun hlead => absurd (hstems _ hread _ (by decide) hlead) (by decide)⟩

/-! ## Reading a class again -/

/-- Every class that is read or reported has a known stem and a value on one line. -/
theorem stem_mem_and_value_of_read {c : BracketedClass}
    (h : (∃ s, parse? s = some c) ∨ ∃ markup, c ∈ bracketedClasses markup) :
    c.stem ∈ bracketStems ∧ '\n' ∉ c.value := by
  rcases h with ⟨s, hs⟩ | ⟨markup, hm⟩
  · obtain ⟨raw, hstem, hvalue, -, rfl⟩ := parse?_eq_some_iff.mp hs
    exact ⟨hstem, fun hm => hvalue (unescape_subset _ hm)⟩
  · exact ⟨stem_mem_of_mem_bracketedClasses hm,
      fun hfeed => absurd (isBlank_of_mem_value hm '\n' hfeed) (by decide)⟩

/-- **Reading a class from its own name.** The name of a class that was read or reported is read
as the class with one more level of escapes taken away. That is the class itself exactly if its
value has no backslash but at its end. -/
theorem parse?_className_of_read {c : BracketedClass}
    (h : (∃ s, parse? s = some c) ∨ ∃ markup, c ∈ bracketedClasses markup) :
    parse? c.className = some ⟨c.stem, unescape c.value⟩ ∧
      (parse? c.className = some c ↔ '\\' ∉ c.value.dropLast) := by
  obtain ⟨hstem, hvalue⟩ := stem_mem_and_value_of_read h
  have hread : parse? c.className = some ⟨c.stem, unescape c.value⟩ :=
    parse?_eq_some_iff.mpr ⟨c, hstem, hvalue, c.isWrittenAs_className, rfl⟩
  refine ⟨hread, ?_⟩
  rw [hread, Option.some_inj, ← unescape_eq_self_iff hvalue]
  exact ⟨congrArg value, fun heq => congrArg (mk c.stem) heq⟩

/-- A class whose value ends with a backslash is read back, and one that is reported with a
backslash inside is not. -/
theorem parse?_className_of_read_backslashes :
    let trailing : BracketedClass := ⟨"row-end".toList, "a,b\\".toList⟩
    let inner : BracketedClass := ⟨"row-end".toList, "a\\b".toList⟩
    parse? "row-end-[a\\,b\\]".toList = some trailing ∧
      parse? trailing.className = some trailing ∧
      inner ∈ bracketedClasses "<p class='row-end-[a\\\\b]'>".toList ∧
      parse? inner.className = some ⟨"row-end".toList, "ab".toList⟩ := by
  intro trailing inner
  have htrailing : parse? "row-end-[a\\,b\\]".toList = some trailing := by decide
  have hinner : inner ∈ bracketedClasses "<p class='row-end-[a\\\\b]'>".toList := by
    decide +kernel
  exact ⟨htrailing, (parse?_className_of_read (.inl ⟨_, htrailing⟩)).2.mpr (by decide), hinner,
    (parse?_className_of_read (.inr ⟨_, hinner⟩)).1⟩

/-- A name in whose value a backslash is escaped. -/
def escapedName : Text := "row-start-[a\\\\b]".toList

/-- The class that is read from this name, and that is reported where it stands in markup, is not
read from its own name. -/
theorem parse?_className_ne_self :
    ∃ c, parse? escapedName = some c ∧ c ∈ bracketedClasses escapedName ∧
      parse? c.className ≠ some c :=
  ⟨⟨"row-start".toList, "a\\b".toList⟩, by decide, by decide +kernel, by decide⟩

end BracketedClass

end NamedGrid
