import NamedGrid.Project.FileTree
import NamedGrid.Proofs.Table

/-!
# Files that are written and read back

To write a file makes the directories on the way to it, which only adds to a tree, and then
puts a file where none or another file was. So every way that could be walked before can be
walked afterwards (`Keeps`), all other files are as they were, and the file is found with its
content. To write the same again finds every directory made and changes nothing.
-/

namespace NamedGrid.FileTree

variable {tree later : FileTree} {location here : Location} {entry : Entry} {cwd : Location}
  {path : Path} {content : Utf8.Bytes}

/-! ## Trees that have more -/

/-- The later tree has everything that the first one has. -/
def Extends (tree later : FileTree) : Prop :=
  ∀ location entry, tree.entry? location = some entry → later.entry? location = some entry

/-- The later tree has a directory wherever the first one has one, and something wherever the
first one has something. -/
structure Keeps (tree later : FileTree) : Prop where
  directory : ∀ location, tree.isDirectoryAt location = true →
    later.isDirectoryAt location = true
  present : ∀ location, (tree.entry? location).isSome = true →
    (later.entry? location).isSome = true

theorem Extends.refl (tree : FileTree) : tree.Extends tree := fun _ _ h => h

theorem Extends.trans {last : FileTree} (h : tree.Extends later) (hlast : later.Extends last) :
    tree.Extends last :=
  fun location entry he => hlast location entry (h location entry he)

theorem Extends.keeps (h : tree.Extends later) : tree.Keeps later where
  directory location hd := by
    rw [isDirectoryAt, beq_iff_eq] at hd ⊢
    exact h location _ hd
  present location hp := by
    obtain ⟨entry, he⟩ := Option.isSome_iff_exists.mp hp
    rw [h location entry he]
    rfl

theorem Keeps.trans {last : FileTree} (h : tree.Keeps later) (hlast : later.Keeps last) :
    tree.Keeps last where
  directory location hd := hlast.directory location (h.directory location hd)
  present location hp := hlast.present location (h.present location hp)

/-! ## Ways -/

/-- Where a single name leads, if the step is possible. -/
def next? (tree : FileTree) (here : Location) (name : Text) : Option Location :=
  if tree.isDirectoryAt here then
    if name = ['.'] then some here
    else if name = ['.', '.'] then some here.dropLast
    else if (tree.entry? (here ++ [name])).isSome then some (here ++ [name])
    else none
  else none

/-- Names are walked one after the other. -/
theorem walk_cons (tree : FileTree) (here : Location) (name : Text) (rest : List Text) :
    tree.walk here (name :: rest) =
      (tree.next? here name).bind fun next => tree.walk next rest := by
  rw [walk, next?]
  split
  · split
    · rfl
    · split
      · rfl
      · split <;> rfl
  · rfl

theorem walk_append (tree : FileTree) (here : Location) (names more : List Text) :
    tree.walk here (names ++ more) =
      (tree.walk here names).bind fun next => tree.walk next more := by
  induction names generalizing here with
  | nil => rfl
  | cons name names ih =>
    rw [List.cons_append, walk_cons, walk_cons, Option.bind_assoc]
    simp only [ih]

/-- A path leads where its last name leads from where its parent leads. -/
theorem locate_of_parent {directory : Location} (hne : path.names ≠ [])
    (hparent : tree.locate cwd path.parent = some directory) :
    tree.locate cwd path = tree.next? directory path.name := by
  have hnames : path.names = path.parent.names ++ [path.name] := by
    rw [Path.parent, Path.name, List.getLast?_eq_some_getLast hne, Option.getD_some,
      List.dropLast_concat_getLast]
  rw [locate] at hparent ⊢
  rw [hnames, walk_append]
  change (tree.walk (if path.parent.isAbsolute then [] else cwd) path.parent.names).bind _ = _
  rw [hparent, Option.bind_some, walk_cons]
  exact Option.bind_fun_some _

/-- Where a name leads nowhere from a directory, nothing is in its place. -/
theorem next?_eq_none_iff {name : Text} (hd : tree.isDirectoryAt here = true) :
    tree.next? here name = none ↔
      name ≠ ['.'] ∧ name ≠ ['.', '.'] ∧ tree.entry? (here ++ [name]) = none := by
  rw [next?, if_pos hd]
  by_cases hdot : name = ['.']
  · simp [hdot]
  by_cases hup : name = ['.', '.']
  · simp [hup]
  rw [if_neg hdot, if_neg hup]
  cases hentry : tree.entry? (here ++ [name]) with
  | none => simp [hdot, hup]
  | some entry => simp

/-- A step that was possible is still possible, and leads to the same place. -/
theorem Keeps.next? (h : tree.Keeps later) {name : Text}
    (hnext : tree.next? here name = some location) : later.next? here name = some location := by
  unfold FileTree.next? at hnext ⊢
  split at hnext
  · rename_i hd
    rw [if_pos (h.directory here hd)]
    by_cases hdot : name = ['.']
    · rwa [if_pos hdot] at hnext ⊢
    · by_cases hup : name = ['.', '.']
      · rwa [if_neg hdot, if_pos hup] at hnext ⊢
      · rw [if_neg hdot, if_neg hup] at hnext ⊢
        split at hnext
        · rename_i hp
          rwa [if_pos (h.present _ hp)]
        · cases hnext
  · cases hnext

/-- A way that could be walked can still be walked, and leads to the same place. -/
theorem Keeps.walk (h : tree.Keeps later) {names : List Text}
    (hw : tree.walk here names = some location) : later.walk here names = some location := by
  induction names generalizing here with
  | nil => exact hw
  | cons name names ih =>
    rw [walk_cons, Option.bind_eq_some_iff] at hw ⊢
    obtain ⟨next, hnext, hw⟩ := hw
    exact ⟨next, h.next? hnext, ih hw⟩

theorem Keeps.locate (h : tree.Keeps later) (hl : tree.locate cwd path = some location) :
    later.locate cwd path = some location := h.walk hl

/-! ## Single entries -/

/-- Nothing but a directory is at the root. -/
theorem ne_nil_of_not_isDirectoryAt (h : tree.isDirectoryAt location = false) :
    location ≠ [] := by
  rintro rfl
  cases h

/-- What a location holds once an entry was put somewhere below the root. -/
theorem entry?_put (h : location ≠ []) (entry : Entry) (other : Location) :
    FileTree.entry? (tree.put location entry) other =
      if location = other then some entry else tree.entry? other := by
  rw [FileTree.entry?, FileTree.entry?, put, Table.get?_insert]
  cases other with
  | nil => simp [h]
  | cons name rest => rfl

/-- To put what is there already changes nothing. -/
theorem put_eq_self (h : location ≠ []) (he : tree.entry? location = some entry) :
    tree.put location entry = tree := by
  rw [FileTree.entry?, if_neg (by simpa using h)] at he
  rw [put, Table.insert_of_get? he]

/-- An entry that is put where nothing was adds to the tree. -/
theorem extends_put (h : tree.entry? location = none) (entry : Entry) :
    tree.Extends (tree.put location entry) := by
  intro other found he
  have hne : location ≠ [] := by
    rintro rfl
    cases h
  rw [entry?_put hne, if_neg, he]
  rintro rfl
  rw [h] at he
  cases he

/-- A file in the place of what is no directory leaves the directories as they are. -/
theorem isDirectoryAt_put_file (h : tree.isDirectoryAt location = false)
    (content : Utf8.Bytes) (other : Location) :
    (tree.put location (.file content)).isDirectoryAt other = tree.isDirectoryAt other := by
  rw [isDirectoryAt, isDirectoryAt, entry?_put (ne_nil_of_not_isDirectoryAt h)]
  split
  · rename_i he
    subst he
    rw [isDirectoryAt] at h
    rw [h]
    rfl
  · rfl

theorem keeps_put_file (h : tree.isDirectoryAt location = false) (content : Utf8.Bytes) :
    tree.Keeps (tree.put location (.file content)) where
  directory other hd := by rwa [isDirectoryAt_put_file h]
  present other hp := by
    rw [entry?_put (ne_nil_of_not_isDirectoryAt h)]
    split
    · rfl
    · exact hp

/-! ## Making directories -/

/-- To make directories adds to the tree. -/
theorem extends_makeFrom (tree : FileTree) (here : Location) (hasMade : Bool)
    (names : List Text) : tree.Extends (tree.makeFrom here hasMade names).tree := by
  fun_induction makeFrom tree here hasMade names with
  | case1 => exact .refl _
  | case2 => exact .refl _
  | case3 => assumption
  | case4 => exact .refl _
  | case5 tree here hasMade name rest hd hup hlong entry he ih => exact ih
  | case6 tree here hasMade name rest hd hup hlong he ih => exact (extends_put he _).trans ih

/-- Where directories were made nothing is left to be made. -/
theorem makeFrom_again {hasMade : Bool} {names : List Text}
    (h : (tree.makeFrom here hasMade names).error = none)
    (hkeeps : (tree.makeFrom here hasMade names).tree.Keeps later) (hasMadeNow : Bool) :
    later.makeFrom here hasMadeNow names = ⟨later, none⟩ := by
  fun_induction makeFrom tree here hasMade names generalizing hasMadeNow with
  | case1 tree here hasMade =>
    have hd : tree.isDirectoryAt here = true := by
      by_contra hd
      rw [if_neg hd] at h
      cases h
    rw [makeFrom, if_pos (hkeeps.directory here hd)]
  | case2 => cases h
  | case3 tree here hasMade rest hd ih =>
    have hhere := ((extends_makeFrom tree here.dropLast hasMade rest).keeps.trans hkeeps).directory
      here (by simpa using hd)
    rw [makeFrom, if_neg (by simp [hhere]), if_pos rfl, ih h hkeeps]
  | case4 => cases h
  | case5 tree here hasMade name rest hd hup hlong entry he ih =>
    have hbetween := (extends_makeFrom tree (here ++ [name]) hasMade rest).keeps.trans hkeeps
    have hhere := hbetween.directory here (by simpa using hd)
    obtain ⟨found, hfound⟩ := Option.isSome_iff_exists.mp
      (hbetween.present (here ++ [name]) (by rw [he]; rfl))
    rw [makeFrom, if_neg (by simp [hhere]), if_neg hup, if_neg hlong, hfound]
    exact ih h hkeeps hasMadeNow
  | case6 tree here hasMade name rest hd hup hlong he ih =>
    have hbetween := (extends_makeFrom (tree.put (here ++ [name]) .directory) (here ++ [name])
      true rest).keeps.trans hkeeps
    have hhere := ((extends_put he .directory).keeps.trans hbetween).directory here
      (by simpa using hd)
    obtain ⟨found, hfound⟩ := Option.isSome_iff_exists.mp
      (hbetween.present (here ++ [name]) (by
        rw [entry?_put (List.concat_ne_nil _ _), if_pos rfl]
        rfl))
    rw [makeFrom, if_neg (by simp [hhere]), if_neg hup, if_neg hlong, hfound]
    exact ih h hkeeps hasMadeNow

theorem extends_makeDirectory (tree : FileTree) (cwd : Location) (path : Path) :
    tree.Extends (tree.makeDirectory cwd path).tree := by
  unfold makeDirectory
  split
  · exact .refl tree
  · split
    · exact .refl tree
    · exact extends_makeFrom tree _ false path.names

/-- A directory that was made with all above it is not made again. -/
theorem makeDirectory_again (h : (tree.makeDirectory cwd path).error = none)
    (hkeeps : (tree.makeDirectory cwd path).tree.Keeps later) :
    later.makeDirectory cwd path = ⟨later, none⟩ := by
  unfold makeDirectory at h hkeeps ⊢
  split
  · rename_i hunusable
    rw [if_pos hunusable] at h
    cases h
  · rename_i husable
    rw [if_neg husable] at h hkeeps
    split
    · rename_i hlong
      rw [if_pos hlong] at h
      cases h
    · rename_i hshort
      rw [if_neg hshort] at h hkeeps
      exact makeFrom_again h hkeeps false

/-! ## Writing -/

/-- Which ways come to a name that is too long depends on the directories alone. -/
theorem meetsLongName_congr
    (h : ∀ location, later.isDirectoryAt location = tree.isDirectoryAt location)
    (here : Location) (names : List Text) :
    later.meetsLongName here names = tree.meetsLongName here names := by
  induction names generalizing here with
  | nil => rfl
  | cons name names ih => rw [meetsLongName, meetsLongName, h, ih, ih]

/-- A file that is written stands at a place below the root that was no directory, and its path
leads there. -/
theorem writeBytes_eq_ok (h : tree.writeBytes cwd path content = .ok later) :
    isUnusable path = false ∧ tree.isOverlong cwd path = false ∧
      ∃ location, tree.isDirectoryAt location = false ∧
        later = tree.put location (.file content) ∧
        later.locate cwd path = some location := by
  unfold writeBytes at h
  split at h
  · cases h
  rename_i husable
  split at h
  · cases h
  rename_i hshort
  refine ⟨by simpa using husable, by simpa using hshort, ?_⟩
  split at h
  · rename_i location hl
    split at h
    · cases h
    · rename_i hd
      have hd : tree.isDirectoryAt location = false := by simpa using hd
      obtain rfl := Except.ok.inj h
      exact ⟨location, hd, rfl, (keeps_put_file hd content).locate hl⟩
  · rename_i hnone
    split at h
    · cases h
    · rename_i directory hparent
      have hne : path.names ≠ [] := by
        intro hnames
        have hself : path.parent = path := by
          cases path
          simp_all [Path.parent]
        rw [hself, hnone] at hparent
        cases hparent
      split at h
      · rename_i hd
        obtain rfl := Except.ok.inj h
        obtain ⟨hdot, hup, hnew⟩ :=
          (next?_eq_none_iff hd).mp (locate_of_parent hne hparent ▸ hnone)
        have hfree : tree.isDirectoryAt (directory ++ [path.name]) = false := by
          rw [isDirectoryAt, hnew]
          rfl
        have hkeeps := keeps_put_file hfree content
        refine ⟨directory ++ [path.name], hfree, rfl, ?_⟩
        rw [locate_of_parent hne (hkeeps.locate hparent), next?,
          if_pos (hkeeps.directory _ hd), if_neg hdot, if_neg hup,
          entry?_put (List.concat_ne_nil _ _), if_pos rfl, Option.isSome_some, if_pos rfl]
      · cases h

/-- To write the same file again changes nothing. -/
theorem writeBytes_again (h : tree.writeBytes cwd path content = .ok later) :
    later.writeBytes cwd path content = .ok later := by
  obtain ⟨husable, hshort, location, hfree, rfl, hlocate⟩ := writeBytes_eq_ok h
  have hne := ne_nil_of_not_isDirectoryAt hfree
  have hdirectories := isDirectoryAt_put_file hfree content
  have hfile : FileTree.entry? (tree.put location (.file content)) location =
      some (.file content) := by
    rw [entry?_put hne, if_pos rfl]
  have hoverlong : (tree.put location (.file content)).isOverlong cwd path = false := by
    rw [isOverlong, meetsLongName_congr hdirectories]
    exact hshort
  rw [writeBytes, if_neg (by simp [husable]), if_neg (by simp [hoverlong]), hlocate]
  dsimp only
  rw [if_neg (by simp [hdirectories, hfree]), put_eq_self hne hfile]

/-- A file is written once the directories on the way to it are made. -/
theorem writeDeep_eq_ok (h : (tree.writeDeep cwd path content).error = none) :
    (tree.makeDirectory cwd path.parent).error = none ∧
      (tree.makeDirectory cwd path.parent).tree.writeBytes cwd path content =
        .ok (tree.writeDeep cwd path content).tree := by
  unfold writeDeep at h ⊢
  dsimp only at h ⊢
  split at h
  · rename_i error hmade
    rw [hmade] at h
    cases h
  · rename_i hmade
    split at h
    · rename_i later hwritten
      rw [hmade, hwritten]
      exact ⟨rfl, rfl⟩
    · cases h

/-- What is there after a file was written with the directories on the way to it: the path leads
to the file, everything else is as it was, and to write the file again changes nothing. -/
structure Written (tree : FileTree) (cwd : Location) (path : Path) (content : Utf8.Bytes)
    (later : FileTree) (location : Location) : Prop where
  keeps : tree.Keeps later
  locate : later.locate cwd path = some location
  file : later.entry? location = some (.file content)
  others : ∀ other entry, other ≠ location → tree.entry? other = some entry →
    later.entry? other = some entry
  again : later.writeDeep cwd path content = ⟨later, none⟩

/-- **A file that is written is there.** -/
theorem exists_written (h : (tree.writeDeep cwd path content).error = none) :
    ∃ location, Written tree cwd path content (tree.writeDeep cwd path content).tree location := by
  obtain ⟨hmade, hwritten⟩ := writeDeep_eq_ok h
  have hextends := extends_makeDirectory tree cwd path.parent
  have hagain := writeBytes_again hwritten
  obtain ⟨-, -, location, hfree, hlater, hlocate⟩ := writeBytes_eq_ok hwritten
  generalize (tree.writeDeep cwd path content).tree = later at hwritten hagain hlater hlocate ⊢
  have hne := ne_nil_of_not_isDirectoryAt hfree
  have hkeeps := hlater ▸ keeps_put_file hfree content
  refine ⟨location, hextends.keeps.trans hkeeps, hlocate, ?_, fun other entry hother he => ?_, ?_⟩
  · rw [hlater, entry?_put hne, if_pos rfl]
  · rw [hlater, entry?_put hne, if_neg hother.symm]
    exact hextends other entry he
  · rw [writeDeep, makeDirectory_again hmade hkeeps]
    dsimp only
    rw [hagain]

/-- A path leads to a file that is where it leads. -/
theorem bytes?_eq_some_iff :
    tree.bytes? cwd path = some content ↔
      ∃ location, tree.locate cwd path = some location ∧
        tree.entry? location = some (.file content) := by
  unfold bytes?
  cases tree.locate cwd path with
  | none => simp
  | some location =>
    simp only [Option.bind_eq_bind, Option.bind_some, Option.some.injEq, exists_eq_left']
    cases tree.entry? location with
    | none => simp
    | some entry =>
      cases entry with
      | directory => simp
      | file found => simp

namespace Written

/-- Whatever leads to the written file is read with its content. -/
theorem bytes?_of_eq (h : Written tree cwd path content later location) {other : Path}
    (hother : later.locate cwd other = some location) : later.bytes? cwd other = some content :=
  bytes?_eq_some_iff.mpr ⟨location, hother, h.file⟩

/-- Every other file is read as it was. -/
theorem bytes?_of_ne (h : Written tree cwd path content later location) {other : Path}
    {found : Utf8.Bytes} (hother : tree.bytes? cwd other = some found)
    (hne : later.locate cwd other ≠ some location) : later.bytes? cwd other = some found := by
  obtain ⟨place, hplace, hfound⟩ := bytes?_eq_some_iff.mp hother
  have hlater := h.keeps.locate hplace
  refine bytes?_eq_some_iff.mpr ⟨place, hlater, h.others place _ ?_ hfound⟩
  rintro rfl
  exact hne hlater

end Written

end NamedGrid.FileTree
