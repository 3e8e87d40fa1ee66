import NamedGrid.Proofs.Agreement

/-!
# What a look-up accepts

A look-up takes one dot off a class as it is written and looks for a static class of that name.
Where there is none the name is read as that of a bracketed class, and the reader takes off a dot
of its own and overlooks one line feed at the end. So the accepted names are those of the static
classes and those of bracketed classes with a value on one line, the latter also with a dot before
them or a line feed behind them.
-/

namespace NamedGrid

/-! ## Bracketed names -/

/-- A text that is read as a bracketed class. -/
def IsBracketedName (s : Text) : Prop :=
  ∃ c : BracketedClass, c.stem ∈ bracketStems ∧ '\n' ∉ c.value ∧ c.IsWrittenAs s

theorem isBracketedName_iff {s : Text} :
    IsBracketedName s ↔ (BracketedClass.parse? s).isSome = true := by
  rw [Option.isSome_iff_exists]
  constructor
  · rintro ⟨raw, hs, hvalue, hwritten⟩
    exact ⟨_, BracketedClass.parse?_eq_some_iff.mpr ⟨raw, hs, hvalue, hwritten, rfl⟩⟩
  · rintro ⟨c, hc⟩
    obtain ⟨raw, hs, hvalue, hwritten, -⟩ := BracketedClass.parse?_eq_some_iff.mp hc
    exact ⟨raw, hs, hvalue, hwritten⟩

instance (s : Text) : Decidable (IsBracketedName s) := decidable_of_iff' _ isBracketedName_iff

/-! ## Accepted names -/

namespace UtilitySet

/-- A class name that a look-up accepts: that of a static class, or a bracketed one. -/
def Accepts (set : UtilitySet) (className : Text) : Prop :=
  (∃ u ∈ set.staticUtilities, u.className = className) ∨ IsBracketedName className

instance (set : UtilitySet) (className : Text) : Decidable (set.Accepts className) :=
  inferInstanceAs (Decidable (_ ∨ _))

/-- Every accepted name is declared, and no other. -/
theorem lookUp?_isSome_iff {set : UtilitySet} (h : set.families = resolverFamilies)
    {className : Text} : (set.lookUp? className).isSome = true ↔ set.Accepts className := by
  have hstatic : (set.find? className).isSome = true ↔
      ∃ u ∈ set.staticUtilities, u.className = className := by
    simp [find?]
  unfold Accepts lookUp?
  rw [← hstatic, isBracketedName_iff]
  cases set.find? className with
  | some u => simp
  | none =>
    cases hparse : BracketedClass.parse? className with
    | none => simp
    | some c =>
      obtain ⟨raw, hs, -, -, rfl⟩ := BracketedClass.parse?_eq_some_iff.mp hparse
      obtain ⟨resolver, hr⟩ := exists_resolver? h hs
      simp [resolve, hr]

/-- The outcome for a class as it is written: its name without one leading dot is resolved if it
is accepted, and unknown otherwise. -/
def Answers (set : UtilitySet) (written : Text) (outcome : Except Text ResolvedClass) : Prop :=
  (set.Accepts (Text.without ['.'] written) ∧
      ∃ properties, outcome = .ok ⟨Text.without ['.'] written, properties⟩) ∨
    (¬set.Accepts (Text.without ['.'] written) ∧ outcome = .error (Text.without ['.'] written))

theorem answers_lookUpWritten {set : UtilitySet} (h : set.families = resolverFamilies)
    (written : Text) : set.Answers written (set.lookUpWritten written) := by
  rw [Answers, ← lookUp?_isSome_iff h, lookUpWritten]
  cases set.lookUp? (Text.without ['.'] written) with
  | none => exact Or.inr ⟨Bool.false_ne_true, rfl⟩
  | some properties => exact Or.inl ⟨rfl, properties, rfl⟩

end UtilitySet

/-! ## The surface of look-ups -/

/-- **Every class that is looked up has one outcome**, in order: it is an item if its name without
one leading dot is accepted, and an unknown class in a warning otherwise. -/
theorem resolve_outcomes {session : Session} {generation : Generation}
    (hg : session.generate.result = .ok (.ok generation)) (classes : List Text) :
    ∃ outcomes : List (Except Text ResolvedClass),
      List.Forall₂ generation.set.Answers classes outcomes ∧
      (session.resolve classes).result =
        .ok (.report
          (outcomes.filterMap fun
            | .ok resolved => some resolved
            | .error _ => none)
          (generation.warnings ++ outcomes.filterMap fun
            | .ok _ => none
            | .error className => some (unknownClassWarning className))) := by
  obtain ⟨-, collected, -, hset, -⟩ := Session.generate_eq_ok_iff.mp hg
  have hfamilies := UtilitySet.families_of_generate hset
  refine ⟨classes.map generation.set.lookUpWritten, ?_, Session.result_resolve hg classes⟩
  rw [List.forall₂_map_right_iff, List.forall₂_same]
  exact fun written _ => UtilitySet.answers_lookUpWritten hfamilies written

/-- A page with one layout of one area. -/
def headPage : Session := pageSession ["head".toList] .empty []

/-- A class with a dot, one of no area, a bracketed one with two dots and a static one with two:
the first and the third are items, the others are reported in order. -/
theorem resolve_outcomes_headPage :
    ∃ generation items, headPage.generate.result = .ok (.ok generation) ∧
      (headPage.resolve [".grid-area-head".toList, "grid-area-foot".toList,
          "..row-start-[x]".toList, "..grid-area-head".toList]).result =
        .ok (.report items (generation.warnings ++
          [unknownClassWarning "grid-area-foot".toList,
            unknownClassWarning ".grid-area-head".toList])) ∧
      items.map ResolvedClass.className =
        ["grid-area-head".toList, ".row-start-[x]".toList] := by
  obtain ⟨generation, hg, hcheck⟩ := headPage.exists_generation
    (fun generation => decide (generation.set.Accepts "grid-area-head".toList ∧
      ¬generation.set.Accepts "grid-area-foot".toList ∧
      generation.set.Accepts ".row-start-[x]".toList ∧
      ¬generation.set.Accepts ".grid-area-head".toList)) (by decide +kernel)
  obtain ⟨hhead, hfoot, hbracketed, hdotted⟩ := of_decide_eq_true hcheck
  obtain ⟨outcomes, hall, hresult⟩ := resolve_outcomes hg
    [".grid-area-head".toList, "grid-area-foot".toList, "..row-start-[x]".toList,
      "..grid-area-head".toList]
  simp only [List.forall₂_cons_left_iff, List.forall₂_nil_left_iff] at hall
  obtain ⟨_, _, hfirst, ⟨_, _, hsecond, ⟨_, _, hthird, ⟨_, _, hfourth, rfl, rfl⟩, rfl⟩, rfl⟩,
    rfl⟩ := hall
  obtain ⟨-, properties, rfl⟩ := hfirst.resolve_right fun h => h.1 hhead
  obtain ⟨-, rfl⟩ := hsecond.resolve_left fun h => hfoot h.1
  obtain ⟨-, bracketed, rfl⟩ := hthird.resolve_right fun h => h.1 hbracketed
  obtain ⟨-, rfl⟩ := hfourth.resolve_left fun h => hdotted h.1
  exact ⟨generation, _, hg, hresult, rfl⟩

/-- Two dots before a bracketed class, and a line feed behind one. -/
def looseClasses : List Text := ["..row-start-[x]".toList, "row-start-[x]\n".toList]

/-- Both are items, although neither is the name of a static class or of a bracketed one when one
dot is taken off. -/
theorem resolve_accepts_loose :
    ∃ generation items, headPage.generate.result = .ok (.ok generation) ∧
      (headPage.resolve looseClasses).result = .ok (.report items generation.warnings) ∧
      items.map ResolvedClass.className = looseClasses.map (Text.without ['.']) ∧
      ∀ item ∈ items,
        (∀ u ∈ generation.set.staticUtilities, u.className ≠ item.className) ∧
        ∀ c : BracketedClass, c.stem ∈ bracketStems → c.className ≠ item.className := by
  obtain ⟨generation, hg, hcheck⟩ := headPage.exists_generation
    (fun generation => looseClasses.all fun written =>
      (generation.set.lookUp? (Text.without ['.'] written)).isSome &&
        generation.set.staticUtilities.all fun u => u.className != Text.without ['.'] written)
    (by decide +kernel)
  simp only [looseClasses, List.all_cons, List.all_nil, Bool.and_true, Bool.and_eq_true,
    Option.isSome_iff_exists, List.all_eq_true, bne_iff_ne] at hcheck
  obtain ⟨⟨⟨dotted, hdotted⟩, hstatic⟩, ⟨fed, hfed⟩, hstatic'⟩ := hcheck
  have hfound : ∀ {written : Text} {properties : Properties},
      generation.set.lookUp? (Text.without ['.'] written) = some properties →
        generation.set.lookUpWritten written =
          .ok ⟨Text.without ['.'] written, properties⟩ := by
    intro written properties h
    rw [UtilitySet.lookUpWritten, h]
  have hitems : looseClasses.map generation.set.lookUpWritten =
      [ResolvedClass.mk (Text.without ['.'] "..row-start-[x]".toList) dotted,
        ⟨Text.without ['.'] "row-start-[x]\n".toList, fed⟩].map .ok := by
    rw [looseClasses, List.map_cons, List.map_singleton, hfound hdotted, hfound hfed,
      List.map_cons, List.map_singleton]
  refine ⟨generation, _, hg, Session.result_resolve_of_found hg hitems, rfl, ?_⟩
  · simp only [List.forall_mem_cons, List.not_mem_nil, false_implies, implies_true, and_true]
    refine ⟨⟨hstatic, fun c hs he => ?_⟩, hstatic', fun c _ => ?_⟩
    · have hdot := BracketedClass.without_dot_className hs
      rw [he] at hdot
      exact absurd hdot (by decide)
    · exact (BracketedClass.className_ne (by decide)).symm

end NamedGrid
