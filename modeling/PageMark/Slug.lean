import PageMark.Storage.Path
import PageMark.Url.Split

/-!
# Slugs

A file name made from the address or the path of a page: letters, digits and
single underscores, at most a hundred of them.
-/

namespace PageMark

namespace Slug

def isKept (character : Char) : Bool :=
  ('a' ≤ character && character ≤ 'z') || ('A' ≤ character && character ≤ 'Z') ||
    ('0' ≤ character && character ≤ '9')

def limit : Nat := 100

def fallback : Text :=
  "page".toList

/-- The kept pieces of a text, joined by underscores and cut to the limit. -/
def ofText (text : Text) : Text :=
  let joined := Text.joinWith ['_'] (Text.pieces (fun character => !isKept character) text)
  if joined.isEmpty then fallback else joined.take limit

def ofSource (source : Text) : Except AddressError Text :=
  match networkAddress? source with
  | some rest => do
      let parts ← AddressParts.ofRest rest
      return ofText (parts.location ++ parts.path)
  | none => .ok (ofText (FilePath.stem source))

end Slug

end PageMark
