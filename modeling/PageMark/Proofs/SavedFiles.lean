import PageMark.Storage.Tree

/-!
# Files that were written

A file that was written is found at its path, with all that was written.
-/

namespace PageMark.FileTree

/-- The place that a single name leads to. -/
def onward (place : Place) (name : Text) : Place :=
  if name = ['.', '.'] then above place else place ++ [name]

theorem follow_cons_eq_some_iff {tree : FileTree} {place target : Place} {name : Text}
    {rest : List Text} :
    tree.follow place (name :: rest) = some target ↔
      tree.isFolder place = true ∧ tree.follow (onward place name) rest = some target := by
  rw [follow, onward]
  by_cases down : name = ['.', '.'] <;> cases tree.isFolder place <;> simp [down]

/-- Every folder of the one tree is a folder of the other. -/
def IsExtendedBy (tree later : FileTree) : Prop :=
  ∀ place, tree.isFolder place = true → later.isFolder place = true

namespace IsExtendedBy

theorem refl (tree : FileTree) : tree.IsExtendedBy tree :=
  fun _ folder => folder

theorem trans {tree later last : FileTree} (first : tree.IsExtendedBy later)
    (second : later.IsExtendedBy last) : tree.IsExtendedBy last :=
  fun place folder => second place (first place folder)

/-- A way through folders stays open. -/
theorem follow {tree later : FileTree} (extended : tree.IsExtendedBy later) {names : List Text}
    {place target : Place} (reached : tree.follow place names = some target) :
    later.follow place names = some target := by
  induction names generalizing place with
  | nil => exact reached
  | cons name rest ih =>
      rw [follow_cons_eq_some_iff] at reached ⊢
      exact ⟨extended place reached.1, ih reached.2⟩

end IsExtendedBy

/-! ## Folders -/

section

variable {tree : FileTree} {place : Place}

theorem isFolder_iff :
    tree.isFolder place = true ↔
      place = [] ∨ place = [['/']] ∨ (∃ folder ∈ tree.folders, place <+: folder) ∨
        ∃ file ∈ tree.files, place <+: file.place ∧ place ≠ file.place := by
  simp [isFolder, or_assoc]

theorem isFolder_above (folder : tree.isFolder place = true) :
    tree.isFolder (above place) = true := by
  unfold above
  split
  · exact folder
  · have shorter : place.dropLast <+: place := List.dropLast_prefix place
    rw [isFolder_iff] at folder ⊢
    obtain rfl | rfl | ⟨wider, listed, within⟩ | ⟨file, stored, within, -⟩ := folder
    · exact .inl rfl
    · exact .inl rfl
    · exact .inr (.inr (.inl ⟨wider, listed, shorter.trans within⟩))
    · cases empty : place with
      | nil => exact .inl rfl
      | cons name rest =>
          rw [empty] at shorter within
          refine .inr (.inr (.inr ⟨file, stored, shorter.trans within, ?_⟩))
          intro same
          have count := within.length_le
          rw [← same, List.length_dropLast, List.length_cons] at count
          omega

theorem isExtendedBy_addFolder : tree.IsExtendedBy (tree.addFolder place) := by
  intro other folder
  unfold addFolder
  split
  · exact folder
  · rw [isFolder_iff] at folder ⊢
    simp only [List.mem_append]
    obtain empty | root | ⟨wider, listed, within⟩ | below := folder
    · exact .inl empty
    · exact .inr (.inl root)
    · exact .inr (.inr (.inl ⟨wider, .inl listed, within⟩))
    · exact .inr (.inr (.inr below))

theorem isFolder_addFolder : (tree.addFolder place).isFolder place = true := by
  unfold addFolder
  split
  · assumption
  · rw [isFolder_iff]
    exact .inr (.inr (.inl ⟨place, by simp, List.prefix_refl place⟩))

theorem isExtendedBy_putFile {content : Bytes} :
    tree.IsExtendedBy (tree.putFile place content) := by
  intro other folder
  rw [isFolder_iff] at folder ⊢
  obtain empty | root | below | ⟨file, stored, within, proper⟩ := folder
  · exact .inl empty
  · exact .inr (.inl root)
  · exact .inr (.inr (.inl below))
  · by_cases same : file.place = place
    · refine .inr (.inr (.inr ⟨{ place := place, content := content }, ?_, ?_, ?_⟩))
      · simp [putFile]
      · exact same ▸ within
      · exact same ▸ proper
    · refine .inr (.inr (.inr ⟨file, ?_, within, proper⟩))
      simp [putFile, stored, same]

theorem file?_putFile {content : Bytes} :
    (tree.putFile place content).file? place = some { place := place, content := content } := by
  unfold file? putFile
  rw [List.find?_append]
  have gone : (tree.files.filter fun file => file.place != place).find?
      (fun file => file.place == place) = none := by
    simp
  simp [gone]

end

/-! ## Writing -/

theorem follow_concat {tree : FileTree} {names : List Text} {name : Text} {place folder : Place}
    (reached : tree.follow place names = some folder) (isFolder : tree.isFolder folder = true) :
    tree.follow place (names ++ [name]) = some (onward folder name) := by
  induction names generalizing place with
  | nil =>
      cases reached
      exact follow_cons_eq_some_iff.2 ⟨isFolder, rfl⟩
  | cons first rest ih =>
      rw [follow_cons_eq_some_iff] at reached
      rw [List.cons_append, follow_cons_eq_some_iff]
      exact ⟨reached.1, ih reached.2⟩

/-- The folders that were made lead to the place that is told. -/
theorem makeFolders_eq_ok {later tree : FileTree} {names : List Text} {place folder : Place}
    (isFolder : tree.isFolder place = true)
    (made : tree.makeFolders place names = (later, .ok folder)) :
    tree.IsExtendedBy later ∧ later.follow place names = some folder ∧
      later.isFolder folder = true := by
  induction names generalizing tree place with
  | nil =>
      cases made
      exact ⟨.refl later, rfl, isFolder⟩
  | cons name rest ih =>
      rw [follow_cons_eq_some_iff, onward]
      rw [makeFolders] at made
      split at made
      · next up =>
          obtain ⟨extended, reached, last⟩ := ih (isFolder_above isFolder) made
          rw [if_pos up]
          exact ⟨extended, ⟨extended place isFolder, reached⟩, last⟩
      · next down =>
          split at made
          · cases made
          · split at made
            · cases made
            · obtain ⟨extended, reached, last⟩ := ih isFolder_addFolder made
              have whole := isExtendedBy_addFolder.trans extended
              rw [if_neg down]
              exact ⟨whole, ⟨whole place isFolder, reached⟩, last⟩

theorem files_addFolder (tree : FileTree) (place : Place) :
    (tree.addFolder place).files = tree.files := by
  unfold addFolder
  split <;> rfl

theorem files_makeFolders (tree : FileTree) (place : Place) (names : List Text) :
    (tree.makeFolders place names).1.files = tree.files := by
  induction names generalizing tree place with
  | nil => rfl
  | cons name rest ih =>
      rw [makeFolders]
      split
      · exact ih tree _
      · split
        · rfl
        · split
          · rfl
          · exact (ih _ _).trans (files_addFolder tree _)

theorem writeIn_eq_ok {tree later : FileTree} {folder : Place} {name : Text} {content : Bytes}
    (written : tree.writeIn folder name content = .ok later) :
    later = tree.putFile (onward folder name) content := by
  change (if isLongName name = true then _
    else if tree.isFolder (onward folder name) = true then _ else _) = _ at written
  split at written
  · cases written
  · split at written
    · cases written
    · exact (Except.ok.inj written).symm

/-- What stands behind a file that was written: its name, and its folder on a tree with
the same files. -/
theorem exists_of_write {tree later : FileTree} {path : Text} {content : Bytes}
    (written : tree.write path content = (later, none)) :
    ∃ name grown folder, (FilePath.steps path).getLast? = some name ∧
      tree.makeFolders [] (FilePath.steps path).dropLast = (grown, .ok folder) ∧
      later = grown.putFile (onward folder name) content := by
  unfold write at written
  split at written
  · cases written
  · next name last =>
      split at written
      · cases written
      · next grown folder made =>
          split at written
          · cases written
          · split at written
            · cases written
            · next stored =>
                cases written
                exact ⟨name, grown, folder, last, made, writeIn_eq_ok stored⟩

/-- What was written to a path is found there. -/
theorem fileAt?_write {tree later : FileTree} {path : Text} {content : Bytes}
    (written : tree.write path content = (later, none)) :
    later.fileAt? path = some content := by
  obtain ⟨name, grown, folder, last, made, stored⟩ := exists_of_write written
  obtain ⟨-, reached, isFolder⟩ := makeFolders_eq_ok (isFolder_iff.2 (.inl rfl)) made
  have found : later.placeOf? path = some (onward folder name) := by
    obtain ⟨front, whole⟩ := List.getLast?_eq_some_iff.1 last
    rw [whole, List.dropLast_concat] at reached
    rw [placeOf?, whole, stored]
    exact follow_concat (isExtendedBy_putFile.follow reached)
      (isExtendedBy_putFile folder isFolder)
  rw [fileAt?, found, Option.bind_some, stored, file?_putFile]
  rfl

/-- Where nothing is written, the files are as they were. -/
theorem files_write_of_some {tree later : FileTree} {path : Text} {content : Bytes}
    {error : StorageError} (failed : tree.write path content = (later, some error)) :
    later.files = tree.files := by
  have kept := files_makeFolders tree [] (FilePath.steps path).dropLast
  unfold write at failed
  split at failed
  · cases failed
    rfl
  · split at failed
    · next made =>
        cases failed
        rw [made] at kept
        exact kept
    · next grown folder made =>
        rw [made] at kept
        split at failed
        · cases failed
          exact kept
        · split at failed
          · cases failed
            exact kept
          · cases failed

end PageMark.FileTree
