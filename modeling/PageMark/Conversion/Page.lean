import PageMark.Html.Build
import PageMark.Conversion.Document

/-!
# Converting pages

The Markdown of a page of HTML.  A number with a point and a space after it
would read as the start of a list, so the point is escaped before the page is
parsed.
-/

namespace PageMark

/-- `afterDigit` tells that the character before is a decimal digit. -/
def escapeNumbersAfter (afterDigit : Bool) : Text → Text
  | [] => []
  | '.' :: ' ' :: rest =>
      if afterDigit then '\\' :: '.' :: ' ' :: escapeNumbersAfter false rest
      else '.' :: ' ' :: escapeNumbersAfter false rest
  | character :: rest =>
      character :: escapeNumbersAfter (Text.isDecimalDigit character) rest

def escapeNumbers (page : Text) : Text :=
  escapeNumbersAfter false page

/-- The document that is converted for a page, or nothing for a blank page. -/
def pageDocument? (page : Text) : Option Document :=
  if Text.isAllBlank page then none else some (Document.ofHtml (escapeNumbers page))

def convertPage (page : Text) (flavor : Flavor) (definitions : List Definition) :
    Except Failure Text :=
  match pageDocument? page with
  | none => .ok []
  | some document => do
      let conversion ← document.convert flavor definitions
      return conversion.markdown

end PageMark
