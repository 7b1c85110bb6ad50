import PageMark.Url.Basic

/-!
# Relative addresses

An address without a scheme is understood from the place of another one.
-/

namespace PageMark.Url

/-- The last segment of a path may have parameters after a semicolon. -/
def cutParameters (path : Text) : Text × Text :=
  let (folder, last) := cutLast '/' path
  let (name, parameters) := cutOff ';' last
  (if path.contains '/' then folder ++ '/' :: name else name, parameters.getD [])

def withParameters (path parameters : Text) : Text :=
  if parameters.isEmpty then path else path ++ ';' :: parameters

/-- Segments with those of one or two points resolved; after such a segment the
path ends in a slash. -/
def resolveDots : List Text → List Text → List Text
  | done, [] => done.reverse
  | done, [['.']] => ([] :: done).reverse
  | done, [['.', '.']] => ([] :: done.drop 1).reverse
  | done, ['.'] :: rest => resolveDots done rest
  | done, ['.', '.'] :: rest => resolveDots (done.drop 1) rest
  | done, segment :: rest => resolveDots (segment :: done) rest

/-- Empty segments inside a path are dropped. -/
def dropInnerEmpty : List Text → List Text
  | [] => []
  | first :: rest => first :: (rest.dropLast.filter fun segment => !segment.isEmpty) ++
      rest.getLast?.toList

/-- The segments of the folder that a path lies in. -/
def folderSegments (path : Text) : List Text :=
  let segments := Text.parts '/' path
  if segments.getLast? == some [] then segments else segments.dropLast

/-- The result begins with a slash, even if more folders are left than there are. -/
def joinPath (base path : Text) : Text :=
  let segments :=
    if path.head? == some '/' then Text.parts '/' path
    else dropInnerEmpty (folderSegments base ++ Text.parts '/' path)
  let resolved := Text.joinWith ['/'] (resolveDots [] segments)
  if resolved.head? == some '/' then resolved else '/' :: resolved

def nonEmpty (part : Option Text) : Option Text :=
  part.filter fun text => !text.isEmpty

/-- The written form of an address that `target` means, seen from `base`. -/
def joined (base target : Url) : Text :=
  let (basePath, baseParameters) := cutParameters base.path
  let (path, parameters) := cutParameters target.path
  let start := if base.scheme.isEmpty then [] else base.scheme ++ "://".toList
  if !target.authority.isEmpty then
    start ++ target.authority ++ withParameters path parameters ++
      optionalPart '?' (nonEmpty target.query) ++ optionalPart '#' (nonEmpty target.fragment)
  else if path.isEmpty && parameters.isEmpty then
    start ++ base.authority ++ withParameters basePath baseParameters ++
      optionalPart '?' (nonEmpty target.query <|> nonEmpty base.query) ++
      optionalPart '#' (nonEmpty target.fragment)
  else
    start ++ base.authority ++ withParameters (joinPath basePath path) parameters ++
      optionalPart '?' (nonEmpty target.query) ++ optionalPart '#' (nonEmpty target.fragment)

/-- The address that `target` means, seen from `base`. -/
def join (base target : Url) : Except UrlError Url :=
  if target.written.isEmpty then .ok base else read (joined base target)

end PageMark.Url
