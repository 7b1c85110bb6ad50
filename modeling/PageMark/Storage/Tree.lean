import PageMark.Storage.Path
import PageMark.Text.Bytes

/-!
# Files and folders

The files and folders that a run can reach.  A place is the list of names on the
way to it from the working directory, which is the empty list and has nothing
above it; the way of a path from the root begins with a slash.
-/

namespace PageMark

abbrev Place := List Text

structure StoredFile where
  place : Place
  content : Bytes
deriving DecidableEq, Repr

/-- The folders of files need not be listed. -/
structure FileTree where
  files : List StoredFile
  folders : List Place
deriving DecidableEq, Repr

/-- Why a file was not found or not written. -/
inductive StorageError where
  /-- A file stands where its folder should be. -/
  | fileInPlaceOfFolder
  /-- A file stands where a folder on the way should be. -/
  | fileOnTheWay
  | isFolder
  /-- A name is longer than names can be, or the whole path is. -/
  | nameTooLong
deriving DecidableEq, Repr

namespace FileTree

def file? (tree : FileTree) (place : Place) : Option StoredFile :=
  tree.files.find? fun file => file.place == place

def isFile (tree : FileTree) (place : Place) : Bool :=
  (tree.file? place).isSome

/-- The root is the folder above it. -/
def above (place : Place) : Place :=
  if place = [['/']] then place else place.dropLast

def isFolder (tree : FileTree) (place : Place) : Bool :=
  place.isEmpty || place == [['/']] || tree.folders.any (fun folder => place.isPrefixOf folder) ||
    tree.files.any fun file => place.isPrefixOf file.place && place != file.place

/-- The place that names lead to, seen from another place; every place on the way
has to be a folder. -/
def follow (tree : FileTree) (place : Place) : List Text → Option Place
  | [] => some place
  | name :: rest =>
      if !tree.isFolder place then none
      else if name = ['.', '.'] then follow tree (above place) rest
      else follow tree (place ++ [name]) rest

/-- The bytes that a name may take. -/
def nameLimit : Nat :=
  255

/-- The bytes that a path may take. -/
def pathLimit : Nat :=
  4095

def isLongName (name : Text) : Bool :=
  decide (nameLimit < (Utf8.encode name).length)

def isLongPath (path : Text) : Bool :=
  decide (pathLimit < (Utf8.encode (FilePath.normal path)).length)

/-- Whether a name that is too long is looked for in a folder on the way. -/
def meetsLongName (tree : FileTree) (place : Place) : List Text → Bool
  | [] => false
  | name :: rest =>
      tree.isFolder place &&
        (isLongName name ||
          meetsLongName tree (if name = ['.', '.'] then above place else place ++ [name]) rest)

/-- Whether it is an error to look for the path at all. -/
def refuses (tree : FileTree) (path : Text) : Bool :=
  isLongPath path || tree.meetsLongName [] (FilePath.steps path)

def placeOf? (tree : FileTree) (path : Text) : Option Place :=
  tree.follow [] (FilePath.steps path)

def isFolderPath (tree : FileTree) (path : Text) : Bool :=
  (tree.placeOf? path).any tree.isFolder

def fileAt? (tree : FileTree) (path : Text) : Option Bytes :=
  ((tree.placeOf? path).bind tree.file?).map StoredFile.content

/-! ## Writing -/

def putFile (tree : FileTree) (place : Place) (content : Bytes) : FileTree :=
  { tree with
    files := tree.files.filter (fun file => file.place != place) ++
      [{ place := place, content := content }] }

def addFolder (tree : FileTree) (place : Place) : FileTree :=
  if tree.isFolder place then tree else { tree with folders := tree.folders ++ [place] }

/-- The tree with the folders on a way, and the place it leads to.  Folders before the one
that cannot be made stay. -/
def makeFolders (tree : FileTree) (place : Place) :
    List Text → FileTree × Except StorageError Place
  | [] => (tree, .ok place)
  | name :: rest =>
      if name = ['.', '.'] then makeFolders tree (above place) rest
      else if isLongName name then (tree, .error .nameTooLong)
      else if tree.isFile (place ++ [name]) then
        (tree, .error (if rest.isEmpty then .fileInPlaceOfFolder else .fileOnTheWay))
      else makeFolders (tree.addFolder (place ++ [name])) (place ++ [name]) rest

/-- A file of the given name in a folder. -/
def writeIn (tree : FileTree) (folder : Place) (name : Text) (content : Bytes) :
    Except StorageError FileTree :=
  let place := if name = ['.', '.'] then above folder else folder ++ [name]
  if isLongName name then .error .nameTooLong
  else if tree.isFolder place then .error .isFolder
  else .ok (tree.putFile place content)

/-- The tree after a file is written together with the folders that it needs, and why it is
not written. -/
def write (tree : FileTree) (path : Text) (content : Bytes) : FileTree × Option StorageError :=
  match (FilePath.steps path).getLast? with
  | none => (tree, some .isFolder)
  | some name =>
      match tree.makeFolders [] (FilePath.steps path).dropLast with
      | (made, .error error) => (made, some error)
      | (made, .ok folder) =>
          if isLongPath path then (made, some .nameTooLong)
          else
            match made.writeIn folder name content with
            | .error error => (made, some error)
            | .ok written => (written, none)

end FileTree

end PageMark
