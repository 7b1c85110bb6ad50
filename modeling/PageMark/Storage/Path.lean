import PageMark.Text.Basic

/-!
# Paths of files

A path names a file by the folders on the way to it, with slashes between them.
Names of a single point say nothing.
-/

namespace PageMark

namespace FilePath

/-- The parts of a path that name something. -/
def segments (path : Text) : List Text :=
  (Text.pieces (· == '/') path).filter (· != ['.'])

def name (path : Text) : Text :=
  ((segments path).getLast?).getD []

/-- The name without its last extension.  A name that starts or ends with its
only point has none. -/
def stem (path : Text) : Text :=
  let name := name path
  let extension := (name.reverse.takeWhile (· != '.')).reverse
  let base := name.take (name.length - extension.length - 1)
  if name.contains '.' && !extension.isEmpty && !base.isEmpty then base else name

def isRooted (path : Text) : Bool :=
  path.head? == some '/'

def rootOf (path : Text) : Text :=
  let slashes := path.takeWhile (· == '/')
  if slashes.length = 2 then slashes else slashes.take 1

/-- The names on the way that a path describes. -/
def steps (path : Text) : List Text :=
  if isRooted path then ['/'] :: segments path else segments path

/-- A path without what says nothing in it. -/
def normal (path : Text) : Text :=
  let written := rootOf path ++ Text.joinWith ['/'] (segments path)
  if written.isEmpty then ['.'] else written

end FilePath

end PageMark
