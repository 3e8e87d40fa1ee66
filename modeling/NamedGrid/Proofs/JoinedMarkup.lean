import NamedGrid.Proofs.Sheet
import NamedGrid.Proofs.SheetRuns

/-!
# Joined markup

Behind a delimiter markup is scanned as if it began there, so joining texts by delimiters joins
their occurrences. What is reported of joined texts are the classes of the first and behind them
the new ones of each later text. A sheet that meets a class again stays as it is, and so it is the
same whether it scans texts one by one or joined.
-/

namespace NamedGrid

/-! ## Occurrences -/

/-- Only whether a class may follow it matters of the character before markup. -/
theorem occurrences_congr {previous other : Option Char}
    (h : previous.all isBoundary = other.all isBoundary) (markup : Text) :
    occurrences previous markup = occurrences other markup := by
  cases markup with
  | nil => rw [occurrences, occurrences]
  | cons c rest =>
    by_cases hp : previous.all isBoundary = true
    · have ho : other.all isBoundary = true := h ▸ hp
      cases hw : written? (c :: rest) with
      | none => rw [occurrences_cons_of_none fun _ => hw, occurrences_cons_of_none fun _ => hw]
      | some found =>
        obtain ⟨stem, raw, after⟩ := found
        rw [occurrences_cons_of_written? hp hw, occurrences_cons_of_written? ho hw]
    · have ho : ¬other.all isBoundary = true := h ▸ hp
      rw [occurrences_cons_of_none fun hb => absurd hb hp,
        occurrences_cons_of_none fun hb => absurd hb ho]

/-- Texts with a delimiter between them have the occurrences of both. -/
theorem occurrences_join {d : Char} (hd : isDelimiter d = true) (a b : Text) :
    occurrences none (a ++ d :: b) = occurrences none a ++ occurrences none b := by
  have hboundary : (some d).all isBoundary = (none : Option Char).all isBoundary :=
    isBoundary_of_isDelimiter hd
  rw [occurrences_append_delimiter hd, occurrences_congr hboundary]

/-! ## Reported classes -/

/-- What is reported of two joined texts is what is reported of both, without repetition. -/
theorem bracketedClasses_join {d : Char} (hd : isDelimiter d = true) (a b : Text) :
    bracketedClasses (a ++ d :: b) = (bracketedClasses a ++ bracketedClasses b).eraseDups := by
  rw [bracketedClasses, occurrences_join hd, List.map_append, List.filter_append,
    ← eraseDups_eraseDups_append, ← eraseDups_append_eraseDups]
  rfl

/-- What is reported of joined texts is what is reported of each, without repetition. -/
theorem bracketedClasses_intercalate {d : Char} (hd : isDelimiter d = true) (texts : List Text) :
    bracketedClasses ([d].intercalate texts) = (texts.flatMap bracketedClasses).eraseDups := by
  induction texts with
  | nil => simp [bracketedClasses, occurrences]
  | cons text texts ih =>
    cases texts with
    | nil =>
      rw [List.intercalate_singleton, List.flatMap_singleton]
      exact (eraseDups_of_nodup (nodup_eraseDups _)).symm
    | cons next texts =>
      rw [List.intercalate_cons_cons, List.append_assoc, List.singleton_append,
        bracketedClasses_join hd, ih, eraseDups_append_eraseDups, ← List.flatMap_cons]

/-! ## Sheets -/

namespace Sheet

/-- A class for which no resolver is run leaves the sheet as it is. -/
theorem resolve_of_resolverFor? {sheet : Sheet} {c : BracketedClass}
    (h : sheet.resolverFor? c = none) : (sheet.resolve c).2 = sheet := by
  rw [resolve_eq, h]

/-- Once a class has been met no resolver is run for it. -/
theorem resolverFor?_resolve_self (sheet : Sheet) (c : BracketedClass) :
    (sheet.resolve c).2.resolverFor? c = none := by
  cases hr : sheet.resolverFor? c with
  | none => rwa [resolve_of_resolverFor? hr]
  | some resolver =>
    rw [resolve_eq, hr, resolverFor?]
    exact if_pos (by simp [noted])

/-- Another class does not change that. -/
theorem resolverFor?_resolve_of_none {sheet : Sheet} {c : BracketedClass}
    (h : sheet.resolverFor? c = none) (other : BracketedClass) :
    (sheet.resolve other).2.resolverFor? c = none := by
  cases ho : sheet.resolverFor? other with
  | none => rwa [resolve_of_resolverFor? ho]
  | some resolver =>
    rw [resolve_eq, ho]
    unfold resolverFor? at h ⊢
    by_cases hc : sheet.resolved.contains c.selector = true
    · refine if_pos ?_
      rw [List.contains_iff_mem] at hc ⊢
      exact List.mem_append_left _ hc
    · rw [if_neg hc] at h
      exact (congrArg (ite _ none) h).trans (ite_self none)

theorem resolveAll_concat (sheet : Sheet) (classes : List BracketedClass) (c : BracketedClass) :
    sheet.resolveAll (classes ++ [c]) = ((sheet.resolveAll classes).resolve c).2 := by
  rw [resolveAll, List.foldl_append]
  rfl

/-- After a run no resolver is run for a class of the run. -/
theorem resolverFor?_resolveAll {sheet : Sheet} {classes : List BracketedClass}
    {c : BracketedClass} (h : c ∈ classes) : (sheet.resolveAll classes).resolverFor? c = none := by
  induction classes using List.reverseRecOn with
  | nil => cases h
  | append_singleton classes other ih =>
    rw [resolveAll_concat]
    rcases List.mem_append.mp h with h | h
    · exact resolverFor?_resolve_of_none (ih h) other
    · rw [List.mem_singleton.mp h]
      exact resolverFor?_resolve_self _ other

/-- A run is that of its first occurrences. -/
theorem resolveAll_eraseDups (sheet : Sheet) (classes : List BracketedClass) :
    sheet.resolveAll classes.eraseDups = sheet.resolveAll classes := by
  induction classes using List.reverseRecOn with
  | nil => rfl
  | append_singleton classes c ih =>
    rw [eraseDups_concat, resolveAll_concat]
    split
    · rename_i hmem
      rw [ih, resolve_of_resolverFor? (resolverFor?_resolveAll hmem)]
    · rw [resolveAll_concat, ih]

end Sheet

/-- **Scanning distributes over delimiters.** Of two texts with a delimiter between them the classes
of the first are reported and behind them those of the second that are new; of any number of texts
that are joined by a delimiter, the classes of each in turn without repetition; and a sheet that
scans texts one by one is the sheet that scans them joined. -/
theorem bracketedClasses_distributes {d : Char} (hd : isDelimiter d = true) (a b : Text)
    (texts : List Text) (sheet : Sheet) :
    bracketedClasses (a ++ d :: b) =
        bracketedClasses a ++
          (bracketedClasses b).filter (fun c => !(bracketedClasses a).contains c) ∧
      bracketedClasses ([d].intercalate texts) = (texts.flatMap bracketedClasses).eraseDups ∧
      texts.foldl Sheet.scan sheet = sheet.scan ([d].intercalate texts) := by
  have hdistinct : ∀ markup, (bracketedClasses markup).eraseDups = bracketedClasses markup :=
    fun markup => eraseDups_of_nodup (nodup_eraseDups _)
  refine ⟨?_, bracketedClasses_intercalate hd texts, ?_⟩
  · rw [bracketedClasses_join hd, eraseDups_append_eq_filter, hdistinct, hdistinct]
  · rw [Sheet.foldl_scan, Sheet.scan, bracketedClasses_intercalate hd, Sheet.resolveAll_eraseDups]

/-- Markup that ends inside the brackets of a class. -/
def unfinishedMarkup : Text := "row-start-[a] row-end-[b".toList

/-- Markup that goes on with a bracket and has a class again. -/
def resumedMarkup : Text := "x] 'row-start-[a]' col-end-[c\\,d] col-end-[c,d]".toList

/-- The brackets are not joined over a line break, and the class that comes again is reported and
resolved once. -/
theorem bracketedClasses_distributes_unfinished :
    let sheet := (UtilitySet.assemble [] []).receivedSheet
    let joined := unfinishedMarkup ++ '\n' :: resumedMarkup
    isDelimiter '\n' = true ∧
      bracketedClasses joined =
        [⟨"row-start".toList, "a".toList⟩, ⟨"col-end".toList, "c,d".toList⟩] ∧
      [unfinishedMarkup, resumedMarkup].foldl Sheet.scan sheet = sheet.scan joined ∧
      (sheet.scan joined).resolvedCount = 2 := by
  intro sheet joined
  have hd : isDelimiter '\n' = true := by decide
  obtain ⟨hjoin, -, hsheet⟩ := bracketedClasses_distributes hd unfinishedMarkup resumedMarkup
    [unfinishedMarkup, resumedMarkup] sheet
  exact ⟨hd, hjoin.trans (by decide +kernel), hsheet, by decide +kernel⟩

end NamedGrid
