import PageMark.Document.Markup
import PageMark.Html.Build
import PageMark.Selector.Match
import PageMark.Selector.Read

/-!
# Excerpts

The part of a page that is worth converting.  Elements that a selector selects
come first; without any, the page is summarised if that is wanted, and taken as
a whole otherwise.
-/

namespace PageMark

inductive Excerpt where
  | nothing
  | elements (nodes : List Node)
  | summary
  | page
deriving Repr

namespace Excerpt

def unselected (summarised : Bool) : Excerpt :=
  if summarised then summary else page

/-- The excerpt of a page that is not blank. -/
def ofContent (content : Text) (selector : Text) (summarised : Bool) :
    Except SelectorError Excerpt :=
  if selector.isEmpty then .ok (unselected summarised)
  else do
    let selector ← Selector.read selector
    match ← (Document.ofHtml content).select selector with
    | [] => return unselected summarised
    | selected => return elements (selected.map Spot.node)

def ofPage (content : Text) (selector : Text) (summarised : Bool) :
    Except SelectorError Excerpt :=
  if Text.isAllBlank content then .ok nothing else ofContent content selector summarised

/-- The written form of an excerpt, given the page and its summary. -/
def html (content summary : Text) : Excerpt → Text
  | nothing => []
  | elements nodes => Text.joinWith ['\n'] (nodes.map Node.markup)
  | .summary => summary
  | page => content

def isSummary : Excerpt → Bool
  | summary => true
  | _ => false

end Excerpt

end PageMark
