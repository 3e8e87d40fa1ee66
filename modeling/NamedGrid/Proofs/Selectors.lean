import NamedGrid.Proofs.Blocks
import NamedGrid.Proofs.LookUps

/-!
# The selector of a rule

A selector of one class is a dot and an identifier, and what it selects is the name that a
reader of style sheets finds in the identifier. The reader here goes by the rules for tokens:
an identifier begins with a letter, an escape or two hyphens and goes on as long as there are
characters for it, a null character counts as the replacement character, and a backslash before
a line break is no escape. An escaped class name is read back to its end, if it has neither
line breaks nor null characters.
-/

namespace NamedGrid

namespace Identifier

/-- Does the character break a line? -/
def isLineBreak (c : Char) : Bool := c == '\n' || c == '\r' || c == '\x0c'

/-- What stands for characters that style sheets cannot have. -/
def replacement : Char := '\uFFFD'

/-- A character as it is read. -/
def taken (c : Char) : Char := if c = '\x00' then replacement else c

/-- The character that an escape gives by number. -/
def numbered (n : Nat) : Char := if n.isValidChar ∧ n ≠ 0 then Char.ofNat n else replacement

/-- The name at the front of a text, and what is left behind it. -/
def read : Text → Text × Text
  | [] => ([], [])
  | '\\' :: [] => ([replacement], [])
  | '\\' :: c :: s =>
    if isHexDigit c then
      let digits := ((c :: s).takeWhile isHexDigit).take 6
      let (name, rest) := read (afterNumber ((c :: s).drop digits.length))
      (numbered (hexNumber digits) :: name, rest)
    else if isLineBreak c then ([], '\\' :: c :: s)
    else
      let (name, rest) := read s
      (taken c :: name, rest)
  | c :: s =>
    if isPlain (taken c) then
      let (name, rest) := read s
      (taken c :: name, rest)
    else ([], c :: s)
termination_by s => s.length
decreasing_by
  · have hle := length_afterNumber_le
      ((c :: s).drop (((c :: s).takeWhile isHexDigit).take 6).length)
    simp only [List.length_drop, List.length_cons] at hle ⊢
    omega
  · exact Nat.lt_succ_of_lt (Nat.lt_succ_self _)
  · exact Nat.lt_succ_self _

/-- Can a name begin with the character? -/
def isLead (c : Char) : Bool := isPlain (taken c) && !c.isDigit && c != '-'

/-- Does a letter or an escape stand at the front? -/
def beginsPlainly : Text → Bool
  | [] => false
  | '\\' :: [] => true
  | '\\' :: c :: _ => !isLineBreak c
  | c :: _ => isLead c

/-- Does a name stand at the front? Behind a hyphen there may be another one. -/
def begins (s : Text) : Bool :=
  beginsPlainly s ||
    match s with
    | '-' :: s => s.head?.any (· == '-') || beginsPlainly s
    | _ => false

/-- The name of a selector of one class at the front of a text, and what is left behind it. -/
def classSelector? : Text → Option (Text × Text)
  | '.' :: s => if begins s then some (read s) else none
  | _ => none

/-- Is the character read as itself wherever an escaped name has it? -/
def isReadable (c : Char) : Bool := !isLineBreak c && c != '\x00'

/-! ## Escaped names -/

theorem taken_of_isReadable {c : Char} (h : isReadable c = true) : taken c = c := by
  rw [isReadable, Bool.and_eq_true, bne_iff_ne] at h
  exact if_neg h.2

/-- A character that stands for itself is read. -/
theorem read_cons {c : Char} (hr : isReadable c = true) (hp : isPlain c = true) (s : Text) :
    read (c :: s) = (c :: (read s).1, (read s).2) := by
  have hslash : c ≠ '\\' := ne_backslash_of_isPlain hp
  rw [read, taken_of_isReadable hr, if_pos hp]
  · rintro rfl
    exact absurd rfl hslash
  · rintro d t rfl
    exact absurd rfl hslash

/-- A character behind a backslash is read. -/
theorem read_backslash {c : Char} (hr : isReadable c = true) (hc : isHexDigit c = false)
    (s : Text) : read ('\\' :: c :: s) = (c :: (read s).1, (read s).2) := by
  have hbreak : isLineBreak c = false := by
    rw [isReadable, Bool.and_eq_true, Bool.not_eq_true'] at hr
    exact hr.1
  rw [read, if_neg (by simp [hc]), if_neg (by simp [hbreak]), taken_of_isReadable hr]

/-- A number with a space behind it is read. -/
theorem read_number {digits : Text} (hne : digits ≠ []) (hall : digits.all isHexDigit = true)
    (hlen : digits.length ≤ 6) (s : Text) :
    read ('\\' :: (digits ++ ' ' :: s)) =
      (numbered (hexNumber digits) :: (read s).1, (read s).2) := by
  have htake := take_digits hall hlen s
  obtain ⟨c, tail, rfl⟩ := List.exists_cons_of_ne_nil hne
  have hc : isHexDigit c = true := List.all_eq_true.mp hall c List.mem_cons_self
  rw [List.cons_append] at htake ⊢
  rw [read, if_pos hc, htake]
  dsimp only
  rw [← List.cons_append, List.drop_left]
  rfl

/-- A name ends before a space. -/
theorem read_space (s : Text) : read (' ' :: s) = ([], ' ' :: s) := by
  rw [read, if_neg (by decide)]
  · rintro h
    exact absurd h (by decide)
  · rintro d t h
    exact absurd h (by decide)

/-- The number of a digit in base ten is that of the digit. -/
theorem numbered_hex {c : Char} (h : c.isDigit = true) :
    numbered (hexNumber (Text.hex 1 c.toNat)) = c := by
  have hall : ∀ n < 58, 48 ≤ n → numbered (hexNumber (Text.hex 1 n)) = Char.ofNat n := by
    decide +kernel
  obtain ⟨hlo, hhi⟩ := Char.isDigit_iff_toNat.mp h
  rw [hall c.toNat (Nat.lt_succ_of_le hhi) hlo, Char.ofNat_toNat]

/-- One character inside an escaped name is read. -/
theorem read_escapedChar {c : Char} (hr : isReadable c = true) (s : Text) :
    read (escapedChar c ++ s) = (c :: (read s).1, (read s).2) := by
  rw [escapedChar]
  split
  · rename_i hplain
    exact read_cons hr hplain s
  · rename_i hplain
    exact read_backslash hr (isHexDigit_eq_false hplain) s

/-- One character where an escaped name begins is read. -/
theorem read_escapedLead {c : Char} (hr : isReadable c = true) (s : Text) :
    read (escapedLead c ++ s) = (c :: (read s).1, (read s).2) := by
  rw [escapedLead]
  split
  · rename_i hdigit
    obtain ⟨hne, hall, hlen, -⟩ := hexNumber_hex hdigit
    rw [List.cons_append, List.cons_append, List.append_assoc, List.singleton_append,
      read_number hne hall hlen, numbered_hex hdigit]
  · exact read_escapedChar hr s

/-- Characters inside an escaped name are read. -/
theorem read_flatMap_escapedChar {s : Text} (hr : ∀ c ∈ s, isReadable c = true) (t : Text) :
    read (s.flatMap escapedChar ++ t) = (s ++ (read t).1, (read t).2) := by
  induction s with
  | nil => rfl
  | cons c s ih =>
    rw [List.forall_mem_cons] at hr
    rw [List.flatMap_cons, List.append_assoc, read_escapedChar hr.1, ih hr.2]
    rfl

/-- An escaped name is read to its end. -/
theorem read_escape {s : Text} (hr : ∀ c ∈ s, isReadable c = true) (t : Text) :
    read (escape s ++ t) = (s ++ (read t).1, (read t).2) := by
  unfold escape
  split
  · rfl
  · exact read_cons (by decide) (by decide) t
  · rename_i c s
    simp only [List.forall_mem_cons] at hr
    rw [List.cons_append, List.cons_append, List.append_assoc, read_cons hr.1 (by decide),
      read_escapedLead hr.2.1, read_flatMap_escapedChar hr.2.2]
    rfl
  · rename_i c s _ _
    rw [List.forall_mem_cons] at hr
    rw [List.append_assoc, read_escapedLead hr.1, read_flatMap_escapedChar hr.2]
    rfl

/-- No digit breaks a line. -/
theorem isLineBreak_of_isHexDigit {c : Char} (h : isHexDigit c = true) :
    isLineBreak c = false := by
  rw [isLineBreak, Bool.or_eq_false_iff, Bool.or_eq_false_iff, beq_eq_false_iff_ne,
    beq_eq_false_iff_ne, beq_eq_false_iff_ne]
  refine ⟨⟨?_, ?_⟩, ?_⟩ <;> rintro rfl <;> exact absurd h (by decide)

/-- A name begins with what is written for a character where a name begins. -/
theorem beginsPlainly_escapedLead {c : Char} (hr : isReadable c = true) (hc : c ≠ '-')
    (s : Text) : beginsPlainly (escapedLead c ++ s) = true := by
  rw [escapedLead]
  split
  · rename_i hdigit
    obtain ⟨hne, hall, -, -⟩ := hexNumber_hex hdigit
    obtain ⟨d, digits, hdigits⟩ := List.exists_cons_of_ne_nil hne
    have hd : isHexDigit d = true :=
      List.all_eq_true.mp hall d (hdigits ▸ List.mem_cons_self)
    rw [hdigits]
    exact congrArg (!·) (isLineBreak_of_isHexDigit hd)
  · rename_i hdigit
    rw [escapedChar]
    split
    · rename_i hplain
      have hlead : isLead c = true := by
        rw [isLead, taken_of_isReadable hr, hplain]
        simpa [hc] using hdigit
      have hslash : c ≠ '\\' := ne_backslash_of_isPlain hplain
      rw [List.singleton_append, beginsPlainly, hlead]
      · exact fun h => absurd h hslash
      · exact fun _ _ h => absurd h hslash
    · rw [isReadable, Bool.and_eq_true] at hr
      exact hr.1

/-- A name begins with an escaped name, unless that is empty or a single hyphen. -/
theorem begins_escape {s : Text} (hr : ∀ c ∈ s, isReadable c = true) (hne : s ≠ [])
    (hhyphen : s ≠ ['-']) (t : Text) : begins (escape s ++ t) = true := by
  unfold escape
  split
  · exact absurd rfl hne
  · exact absurd rfl hhyphen
  · rename_i c s
    simp only [List.forall_mem_cons] at hr
    by_cases hc : c = '-'
    · subst hc
      rfl
    · have hbegins := beginsPlainly_escapedLead hr.2.1 hc (s.flatMap escapedChar ++ t)
      rw [List.cons_append, List.cons_append, List.append_assoc]
      simp only [begins, hbegins, Bool.or_true]
  · rename_i c s hsingle hlong
    rw [List.forall_mem_cons] at hr
    have hc : c ≠ '-' := by
      rintro rfl
      cases s with
      | nil => exact hsingle rfl rfl
      | cons d s => exact hlong d s rfl rfl
    have hbegins := beginsPlainly_escapedLead hr.1 hc (s.flatMap escapedChar ++ t)
    rw [List.append_assoc]
    unfold begins
    rw [hbegins, Bool.true_or]

/-- **A dot and an escaped name select the name.** What stands behind a space is no part of it. -/
theorem classSelector?_escape {s : Text} (hr : ∀ c ∈ s, isReadable c = true) (hne : s ≠ [])
    (hhyphen : s ≠ ['-']) (t : Text) :
    classSelector? ('.' :: (escape s ++ ' ' :: t)) = some (s, ' ' :: t) := by
  rw [classSelector?, if_pos (begins_escape hr hne hhyphen _), read_escape hr, read_space,
    List.append_nil]

end Identifier

/-! ## Rules -/

/-- The rule is that of the class: its selector is a dot and the escaped name, and if the name is
readable, a reader finds the name there and then the brace that opens the rule. -/
def Selects (className css : Text) : Prop :=
  ∃ rest, css = '.' :: (Identifier.escape className ++ ' ' :: '\x7b' :: rest) ∧
    ((∀ c ∈ className, Identifier.isReadable c = true) →
      Identifier.classSelector? css = some (className, ' ' :: '\x7b' :: rest))

/-- The rule starts with the class name as it stands. -/
def StartsAsStored (className css : Text) : Prop :=
  ∃ rest, css = '.' :: (className ++ ' ' :: '\x7b' :: rest)

/-- A rule of a name without a space is that of the class, if the name has two characters. -/
theorem selects_renderRule {className : Text} {properties : Properties}
    (hspace : ' ' ∉ className) (hlong : 2 ≤ className.length) :
    Selects className (renderRule (selectorOf className) (Body.ofProperties properties)) := by
  have hwritten : writtenSelector (selectorOf className) = '.' :: Identifier.escape className := by
    rw [selectorOf, writtenSelector, if_neg (by simpa using hspace)]
  have hne : className ≠ [] := by
    rintro rfl
    exact absurd hlong (by decide)
  have hhyphen : className ≠ ['-'] := by
    rintro rfl
    exact absurd hlong (by decide)
  rw [renderRule_ofProperties, hwritten, List.append_assoc, List.cons_append,
    List.singleton_append]
  exact ⟨_, rfl, fun hr => Identifier.classSelector?_escape hr hne hhyphen _⟩

/-- A rule of a name with a space starts with the name. -/
theorem startsAsStored_renderRule {className : Text} (properties : Properties)
    (hspace : ' ' ∈ className) :
    StartsAsStored className
      (renderRule (selectorOf className) (Body.ofProperties properties)) := by
  have hwritten : writtenSelector (selectorOf className) = '.' :: className := by
    rw [selectorOf, writtenSelector, if_pos (by simpa using hspace)]
  rw [renderRule_ofProperties, hwritten, List.append_assoc, List.cons_append,
    List.singleton_append]
  exact ⟨_, rfl⟩

/-! ## Names -/

/-- A static class has a stem in front. -/
theorem StaticClass.two_le_length {layouts : List Layout} {className : Text}
    {declaration : Declaration} (h : StaticClass layouts className declaration) :
    2 ≤ className.length := by
  have hlayout : "grid-areas-".toList.length = 11 := by decide
  have harea : "grid-area-".toList.length = 10 := by decide
  have hhyphen : "-".toList.length = 1 := by decide
  rcases UtilitySet.exists_staticClass_iff.mp ⟨declaration, h⟩ with
    ⟨name, -, rfl⟩ | ⟨area, -, rfl⟩ | ⟨area, -, axis, -, edge, -, rfl⟩ <;>
  · simp only [List.length_append]
    omega

/-- A bracketed class has brackets. -/
theorem BracketedClass.two_le_length (c : BracketedClass) : 2 ≤ c.className.length := by
  simp only [className, opening, List.length_append, List.length_cons, List.length_nil]
  omega

namespace UtilitySet

variable {sources : LayoutSources} {set : UtilitySet}

/-- An accepted name has two characters, and a space in it comes from the name of a layout or
from a value in brackets. -/
theorem Accepts.name_cases (h : generate sources = .ok set) {className : Text}
    (ha : set.Accepts className) :
    2 ≤ className.length ∧ (' ' ∈ className →
      (∃ layout ∈ set.layouts, ' ' ∈ layout.name ∧
        className = "grid-areas-".toList ++ layout.name) ∨
      ∃ c : BracketedClass, c.stem ∈ bracketStems ∧ ' ' ∈ c.value ∧
        c.IsWrittenAs className) := by
  obtain ⟨layouts, -, -, rfl⟩ := generate_eq_ok_iff.mp h
  rcases ha with ⟨u, hu, rfl⟩ | ⟨c, hs, -, hwritten⟩
  · have hstatic := mem_staticUtilities_assemble.mp hu
    refine ⟨hstatic.two_le_length, fun hspace => Or.inl ?_⟩
    obtain ⟨layout, hl, he, hname⟩ := hstatic.exists_layout_of_space hspace
    exact ⟨layout, hl, hname, he⟩
  · obtain ⟨dot, hdot, feed, hfeed, rfl⟩ := hwritten
    refine ⟨?_, fun hspace => Or.inr ⟨c, hs, ?_, dot, hdot, feed, hfeed, rfl⟩⟩
    · have hlong := c.two_le_length
      simp only [List.length_append]
      omega
    · have hdots : ∀ dot ∈ ([[], ['.']] : List Text), ' ' ∉ dot := by decide
      have hfeeds : ∀ feed ∈ ([[], ['\n']] : List Text), ' ' ∉ feed := by decide
      have hlead : ∀ stem ∈ bracketStems, ' ' ∉ stem ++ opening := by decide
      rw [List.mem_append, List.mem_append, BracketedClass.className, List.mem_append,
        List.mem_append] at hspace
      rcases hspace with (hspace | (hspace | hspace) | hspace) | hspace
      · exact absurd hspace (hdots dot hdot)
      · exact absurd hspace (hlead c.stem hs)
      · exact hspace
      · exact absurd hspace (by decide)
      · exact absurd hspace (hfeeds feed hfeed)

/-- A rule of a sheet belongs to a name of two characters, and a space in it comes from the name
of a layout. -/
theorem rule_name_cases (h : generate sources = .ok set) {texts : List Text} {rule : Text × Body}
    (hr : rule ∈ (set.sheetOn texts).rules.entries) :
    ∃ (className : Text) (properties : Properties),
      rule = (selectorOf className, Body.ofProperties properties) ∧ 2 ≤ className.length ∧
      (' ' ∈ className → ∃ layout ∈ set.layouts, ' ' ∈ layout.name ∧
        className = "grid-areas-".toList ++ layout.name) := by
  have hfamilies := families_of_generate h
  obtain ⟨layouts, -, -, rfl⟩ := generate_eq_ok_iff.mp h
  obtain ⟨className, declaration, rfl, hsource⟩ := mem_entries_sheetOn hfamilies hr
  refine ⟨className, declaration.toTable, rfl, ?_⟩
  rcases hsource with hu | ⟨c, hc, rfl, -⟩
  · have hstatic := mem_staticUtilities_assemble.mp hu
    refine ⟨hstatic.two_le_length, fun hspace => ?_⟩
    obtain ⟨layout, hl, he, hname⟩ := hstatic.exists_layout_of_space hspace
    exact ⟨layout, hl, hname, he⟩
  · obtain ⟨text, -, htext⟩ := List.mem_flatMap.mp hc
    exact ⟨c.two_le_length, fun hspace => absurd hspace (space_notMem_className htext)⟩

end UtilitySet

/-! ## What a session writes -/

/-- A joined list shows each of its texts. -/
theorem infix_intercalate (sep : Text) {parts : List Text} {s : Text} (h : s ∈ parts) :
    s <:+: sep.intercalate parts := by
  obtain ⟨front, back, rfl⟩ := List.append_of_mem h
  have hback : s <:+: sep.intercalate (s :: back) := by
    cases back with
    | nil => rw [List.intercalate_singleton]
    | cons t back =>
      rw [List.intercalate_cons_cons, List.append_assoc]
      exact (List.prefix_append s _).isInfix
  cases front with
  | nil => exact hback
  | cons t front =>
    rw [intercalate_append sep (List.cons_ne_nil t front) (List.cons_ne_nil s back)]
    exact hback.trans (List.suffix_append _ _).isInfix

/-- A rule stands in the text of its table. -/
theorem infix_render {rules : RuleTable} {rule : Text × Body} (h : rule ∈ rules.entries) :
    renderRule rule.1 rule.2 <:+: rules.render := by
  unfold RuleTable.render
  split
  · rename_i hnil
    rw [hnil] at h
    cases h
  · have hmem : renderRule rule.1 rule.2 ∈ rules.entries.map fun r => renderRule r.1 r.2 :=
      List.mem_map.mpr ⟨rule, h, rfl⟩
    exact (infix_intercalate _ hmem).trans (List.prefix_append _ _).isInfix

/-- Every item of a look-up is a class that the set accepts. -/
theorem accepts_of_result_resolve {session : Session} {generation : Generation}
    (hg : session.generate.result = .ok (.ok generation)) {classes : List Text}
    {items : List ResolvedClass} {warnings : List Text}
    (h : (session.resolve classes).result = .ok (.report items warnings)) :
    ∀ item ∈ items, generation.set.Accepts item.className := by
  obtain ⟨-, collected, -, hset, -⟩ := Session.generate_eq_ok_iff.mp hg
  rw [Session.result_resolve hg] at h
  obtain ⟨rfl, -⟩ := Answer.report.inj (Except.ok.inj h)
  intro item hitem
  obtain ⟨outcome, houtcome, hitem⟩ := List.mem_filterMap.mp hitem
  obtain ⟨written, -, rfl⟩ := List.mem_map.mp houtcome
  rcases UtilitySet.answers_lookUpWritten (UtilitySet.families_of_generate hset) written with
    ⟨haccepts, properties, hok⟩ | ⟨-, herror⟩
  · rw [hok] at hitem
    obtain rfl := Option.some.inj hitem
    exact haccepts
  · rw [herror] at hitem
    cases hitem

/-- **A rule selects the class it is for.** Whatever class a look-up reports and whatever rule a
build writes, the selector is a dot and the escaped class name, unless the name has a space; and
if the name has no line breaks and null characters, a reader finds just this class there. A name
with a space is taken for something other than a single class and stands as it is. Only a layout
whose name has a space gives such a name, and in a look-up a bracketed value with one. -/
theorem rules_select_classes {session : Session} {generation : Generation}
    (hr : session.registry.Reachable)
    (hg : session.generate.result = .ok (.ok generation)) :
    (∀ (classes : List Text) (items : List ResolvedClass) (warnings : List Text),
      (session.resolve classes).result = .ok (.report items warnings) →
      ∀ item ∈ items,
        (' ' ∉ item.className → Selects item.className item.css) ∧
        (' ' ∈ item.className → StartsAsStored item.className item.css ∧
          ((∃ layout ∈ generation.set.layouts, ' ' ∈ layout.name ∧
              item.className = "grid-areas-".toList ++ layout.name) ∨
            ∃ c : BracketedClass, c.stem ∈ bracketStems ∧ ' ' ∈ c.value ∧
              c.IsWrittenAs item.className))) ∧
    ∀ (output : Option Path) (content : Option (List Text)) (report : BuildReport)
      (warnings : List Text),
      (session.build output content).result = .ok (.report report warnings) →
      ∃ (files : List Path) (rules : RuleTable),
        session.contentFiles (content.getD session.settings.build.content) = .ok files ∧
        rules = (generation.set.sheetOn (files.map session.contentText)).rules ∧
        (session.deposit rules.render output).2 = .ok report.destination ∧
        ∀ rule ∈ rules.entries, renderRule rule.1 rule.2 <:+: rules.render ∧
          ∃ className, rule.1 = selectorOf className ∧
            (' ' ∉ className → Selects className (renderRule rule.1 rule.2)) ∧
            (' ' ∈ className → StartsAsStored className (renderRule rule.1 rule.2) ∧
              ∃ layout ∈ generation.set.layouts, ' ' ∈ layout.name ∧
                className = "grid-areas-".toList ++ layout.name) := by
  obtain ⟨-, collected, -, hset, -⟩ := Session.generate_eq_ok_iff.mp hg
  constructor
  · intro classes items warnings h item hitem
    obtain ⟨hlong, hcases⟩ := (accepts_of_result_resolve hg h item hitem).name_cases hset
    exact ⟨fun hspace => selects_renderRule hspace hlong,
      fun hspace => ⟨startsAsStored_renderRule item.properties hspace, hcases hspace⟩⟩
  · intro output content report warnings h
    obtain ⟨generation', files, hg', hfiles, hdeposit, -⟩ := Session.of_result_build hr.sound h
    obtain rfl := Session.generation_unique hg hg'
    refine ⟨files, _, hfiles, rfl, hdeposit, fun rule hrule => ⟨infix_render hrule, ?_⟩⟩
    obtain ⟨className, properties, rfl, hlong, hcases⟩ :=
      UtilitySet.rule_name_cases hset hrule
    exact ⟨className, rfl, fun hspace => selects_renderRule hspace hlong,
      fun hspace => ⟨startsAsStored_renderRule properties hspace, hcases hspace⟩⟩

/-- Classes that are all found under their own names are the items of their look-up. -/
theorem exists_items {set : UtilitySet} {classes : List Text}
    (h : (classes.all fun written =>
      match set.lookUpWritten written with
      | .ok item => item.className == written
      | .error _ => false) = true) :
    ∃ items : List ResolvedClass, classes.map set.lookUpWritten = items.map .ok ∧
      items.map ResolvedClass.className = classes := by
  induction classes with
  | nil => exact ⟨[], rfl, rfl⟩
  | cons written classes ih =>
    rw [List.all_cons, Bool.and_eq_true] at h
    obtain ⟨items, hfound, hnames⟩ := ih h.2
    have hfirst := h.1
    split at hfirst
    · rename_i item hitem
      refine ⟨item :: items, ?_, ?_⟩
      · rw [List.map_cons, List.map_cons, hitem, hfound]
      · rw [List.map_cons, hnames, beq_iff_eq.mp hfirst]
    · cases hfirst

/-- A static class and a bracketed one with a dot in its value. -/
def plainClasses : List Text := ["grid-areas-page".toList, "row-start-[1.5]".toList]

/-- On a page without such names a reader finds the class of every item and of every rule. -/
theorem rules_select_classes_rowsPage :
    ∃ generation items report, rowsPage.generate.result = .ok (.ok generation) ∧
      (rowsPage.resolve plainClasses).result = .ok (.report items generation.warnings) ∧
      items.map ResolvedClass.className = plainClasses ∧
      (∀ item ∈ items, ∃ rest,
        Identifier.classSelector? item.css = some (item.className, rest)) ∧
      (rowsPage.build none none).result = .ok (.report report generation.warnings) ∧
      ∀ rule ∈ (generation.set.sheetOn [rowsMarkup]).rules.entries, ∃ className rest,
        rule.1 = selectorOf className ∧
        Identifier.classSelector? (renderRule rule.1 rule.2) = some (className, rest) := by
  have hfiles : rowsPage.contentFiles
      ((none : Option (List Text)).getD rowsPage.settings.build.content) =
      .ok [Path.ofText "/p.html".toList] := by decide +kernel
  have htexts : [Path.ofText "/p.html".toList].map rowsPage.contentText = [rowsMarkup] := by
    decide +kernel
  obtain ⟨generation, hg, hcheck⟩ := rowsPage.exists_generation
    (fun generation =>
      plainClasses.all (fun written =>
        match generation.set.lookUpWritten written with
        | .ok item => item.className == written
        | .error _ => false) &&
      (generation.set.sheetOn [rowsMarkup]).rules.keys.all fun selector =>
        !selector.contains ' ' && selector.all Identifier.isReadable)
    (by decide +kernel)
  rw [Bool.and_eq_true] at hcheck
  obtain ⟨hitems, hrules⟩ := hcheck
  have hbuild := Session.result_build_none Registry.Reachable.empty.sound hg (by decide +kernel)
    (by decide +kernel) hfiles
  obtain ⟨hresolved, hbuilt⟩ := rules_select_classes Registry.Reachable.empty hg
  obtain ⟨files, rules, hfiles', rfl, -, hall⟩ := hbuilt _ _ _ _ hbuild
  obtain rfl : [Path.ofText "/p.html".toList] = files := by
    rw [hfiles] at hfiles'
    exact Except.ok.inj hfiles'
  rw [htexts] at hall
  obtain ⟨items, hfound, hnames⟩ := exists_items hitems
  have hresult := Session.result_resolve_of_found hg hfound
  refine ⟨generation, items, _, hg, hresult, hnames, fun item hitem => ?_, hbuild,
    fun rule hrule => ?_⟩
  · have hplain : ∀ written ∈ plainClasses, ' ' ∉ written ∧
        written.all Identifier.isReadable = true := by decide
    have hmem : item.className ∈ plainClasses := by
      rw [← hnames]
      exact List.mem_map_of_mem hitem
    obtain ⟨hspace, hreadable⟩ := hplain item.className hmem
    obtain ⟨rest, -, hselector⟩ := (hresolved _ _ _ hresult item hitem).1 hspace
    exact ⟨_, hselector (List.all_eq_true.mp hreadable)⟩
  · obtain ⟨-, className, hselector, hselects, -⟩ := hall rule hrule
    have hplain := List.all_eq_true.mp hrules rule.1 (List.mem_map_of_mem hrule)
    rw [hselector, selectorOf, Bool.and_eq_true, Bool.not_eq_true', List.all_cons,
      Bool.and_eq_true, List.all_eq_true] at hplain
    have hspace : ' ' ∉ className := by
      intro hmem
      exact absurd hplain.1 (by simp [hmem])
    obtain ⟨rest, -, hselector'⟩ := hselects hspace
    exact ⟨className, _, hselector, hselector' hplain.2.2⟩

/-- A page with a layout whose name has a space. -/
def spacedPage : Session :=
  let page := pageSession [] .empty []
  { page with
    settings :=
      { page.settings with layouts := Table.ofList [("a b".toList, .rows ["x".toList])] } }

/-- The class of the layout. -/
def spacedClass : Text := "grid-areas-a b".toList

/-- Neither the item nor the rule of the class starts with its escaped name. -/
theorem rules_do_not_escape_spaces :
    ∃ generation item report, spacedPage.generate.result = .ok (.ok generation) ∧
      (spacedPage.resolve [spacedClass]).result = .ok (.report [item] generation.warnings) ∧
      item.className = spacedClass ∧ ¬('.' :: Identifier.escape spacedClass <+: item.css) ∧
      (spacedPage.build none none).result = .ok (.report report generation.warnings) ∧
      report.destination = .report (generation.set.sheetOn [[]]).rules.render ∧
      ∃ rule ∈ (generation.set.sheetOn [[]]).rules.entries,
        rule.1 = selectorOf spacedClass ∧
        ¬('.' :: Identifier.escape spacedClass <+: renderRule rule.1 rule.2) := by
  have hfiles : spacedPage.contentFiles
      ((none : Option (List Text)).getD spacedPage.settings.build.content) =
      .ok [Path.ofText "/p.html".toList] := by decide +kernel
  have htexts : [Path.ofText "/p.html".toList].map spacedPage.contentText = [[]] := by
    decide +kernel
  obtain ⟨generation, hg, hcheck⟩ := spacedPage.exists_generation
    (fun generation =>
      (match generation.set.lookUpWritten spacedClass with
        | .ok item => item.className == spacedClass &&
          !('.' :: Identifier.escape spacedClass).isPrefixOf item.css
        | .error _ => false) &&
      (generation.set.sheetOn [[]]).rules.entries.any fun rule =>
        rule.1 == selectorOf spacedClass &&
          !('.' :: Identifier.escape spacedClass).isPrefixOf (renderRule rule.1 rule.2))
    (by decide +kernel)
  have hbuild := Session.result_build_none Registry.Reachable.empty.sound hg (by decide +kernel)
    (by decide +kernel) hfiles
  rw [htexts] at hbuild
  rw [Bool.and_eq_true] at hcheck
  obtain ⟨hitem, hrule⟩ := hcheck
  cases hfound : generation.set.lookUpWritten spacedClass with
  | error className =>
    rw [hfound] at hitem
    cases hitem
  | ok item =>
    rw [hfound] at hitem
    simp only [Bool.and_eq_true, beq_iff_eq, Bool.not_eq_true', ← Bool.not_eq_true,
      List.isPrefixOf_iff_prefix] at hitem
    obtain ⟨rule, hmem, hrule⟩ := List.any_eq_true.mp hrule
    simp only [Bool.and_eq_true, beq_iff_eq, Bool.not_eq_true', ← Bool.not_eq_true,
      List.isPrefixOf_iff_prefix] at hrule
    refine ⟨generation, item, _, hg,
      Session.result_resolve_of_found hg (by rw [List.map_singleton, hfound]; rfl), hitem.1,
      hitem.2, hbuild, rfl, rule, hmem, hrule⟩

end NamedGrid
