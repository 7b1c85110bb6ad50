import PageMark.Selector.Basic

/-!
# Named states

The traits that a selector asks for by a name after a colon.  States that only a
displayed page has are never met.
-/

namespace PageMark.Selector

/-! ## Places -/

/-- The first element among its siblings, or the last. -/
def atEdge (ofType fromEnd : Bool) : Selector :=
  counted
    { progression := .single 1, ofType := ofType, fromEnd := fromEnd, leavesOutLast := false }
    always

def alone (ofType : Bool) : Selector :=
  both (atEdge ofType false) (atEdge ofType true)

/-! ## Traits of form controls -/

def namedAny (names : List String) : Selector :=
  anyOf (names.map fun name => having (.named name.toList))

def present (name : String) : Selector :=
  having (.attribute { name := name.toList, comparison := none, ignoresCase := false })

/-- The type of an element is compared without case. -/
def ofKind (kind : String) : Selector :=
  having (.attribute
    { name := "type".toList, comparison := some (.equal, kind.toList), ignoresCase := true })

def emptyValue (name : String) : Selector :=
  having (.attribute
    { name := name.toList, comparison := some (.equal, []), ignoresCase := false })

def link : Selector :=
  both (namedAny ["a", "area"]) (present "href")

def checked : Selector :=
  either
    (allOf [namedAny ["input"], either (ofKind "checkbox") (ofKind "radio"), present "checked"])
    (both (namedAny ["option"]) (present "selected"))

/-- Controls that a disabled group of fields disables. -/
def fieldControl : Selector :=
  either (both (namedAny ["input"]) (negation (ofKind "hidden")))
    (namedAny ["button", "select", "textarea", "fieldset"])

def control : Selector :=
  either fieldControl (namedAny ["optgroup", "option"])

def disabledGroup : Selector :=
  both (namedAny ["fieldset"]) (present "disabled")

def firstLegend : Selector :=
  both (namedAny ["legend"])
    (atEdge true false)

/-- A control in the first legend of a disabled group stays enabled. -/
def disabled : Selector :=
  anyOf [both control (present "disabled"),
    both (namedAny ["option"]) (toward .parent (both (namedAny ["optgroup"]) (present "disabled"))),
    both fieldControl (toward .parent disabledGroup),
    both fieldControl
      (toward .ancestors (both (negation firstLegend) (toward .parent disabledGroup)))]

def enabled : Selector :=
  both control (negation disabled)

def fillable : Selector :=
  namedAny ["input", "select", "textarea"]

def required : Selector :=
  both fillable (present "required")

def optional : Selector :=
  both fillable (negation (present "required"))

/-- An input that has no type, an empty one, or one of these. -/
def inputOf (kinds : List String) : Selector :=
  both (namedAny ["input"]) (either (negation (present "type")) (anyOf (kinds.map ofKind)))

def hasPlaceholder : Selector :=
  both (present "placeholder") (negation (emptyValue "placeholder"))

def placeholderShown : Selector :=
  either
    (allOf [inputOf ["", "text", "search", "url", "tel", "email", "password", "number"],
      hasPlaceholder, either (negation (present "value")) (emptyValue "value")])
    (allOf [namedAny ["textarea"], hasPlaceholder, having .unfilled])

def typedInput : Selector :=
  inputOf ["", "date", "datetime-local", "email", "month", "number", "password", "search",
    "tel", "text", "time", "url", "week"]

def editable : Selector :=
  having (.attribute
    { name := "contenteditable".toList, comparison := some (.equal, "true".toList),
      ignoresCase := true })

def readWrite : Selector :=
  either
    (both (either (namedAny ["textarea"]) typedInput)
      (negation (either (present "readonly") disabled)))
    (either (emptyValue "contenteditable") editable)

def isDefault : Selector :=
  either checked
    (allOf [namedAny ["button", "input"], ofKind "submit",
      toward .ancestors (namedAny ["form"]), having .submitsByDefault])

def unchecked : Selector :=
  negation (present "checked")

def unnamed : Selector :=
  either (negation (present "name")) (emptyValue "name")

def indeterminate : Selector :=
  anyOf [allOf [namedAny ["input"], ofKind "checkbox", present "indeterminate"],
    allOf [namedAny ["input"], ofKind "radio", unnamed, unchecked],
    both (namedAny ["progress"]) (negation (present "value")),
    allOf [namedAny ["input"], ofKind "radio", negation unnamed, unchecked,
      having .inUnsetGroup]]

/-- An input whose type has values in an order, with the least or the greatest
one given. -/
def inRange (inside : Bool) : Selector :=
  allOf [namedAny ["input"], having (.ranged inside),
    anyOf (["date", "month", "week", "time", "datetime-local", "number", "range"].map ofKind),
    either (present "min") (present "max")]

/-! ## Names -/

def states : List (String × Selector) :=
  [("any-link", link), ("checked", checked), ("default", isDefault), ("defined", having .defined),
    ("disabled", disabled), ("empty", having .empty), ("enabled", enabled),
    ("first-child", atEdge false false), ("first-of-type", atEdge true false),
    ("in-range", inRange true), ("indeterminate", indeterminate),
    ("last-child", atEdge false true), ("last-of-type", atEdge true true), ("link", link),
    ("muted", both (namedAny ["audio", "video"]) (present "muted")),
    ("only-child", alone false), ("only-of-type", alone true),
    ("open", both (namedAny ["details", "dialog"]) (present "open")), ("optional", optional),
    ("out-of-range", inRange false), ("placeholder-shown", placeholderShown),
    ("read-only", negation readWrite), ("read-write", readWrite), ("required", required),
    ("root", having .root), ("scope", having .first)]

/-- States of a page on display. -/
def displayStates : List String :=
  ["active", "autofill", "buffering", "current", "focus", "focus-visible", "focus-within",
    "fullscreen", "future", "host", "hover", "local-link", "modal", "past", "paused",
    "picture-in-picture", "playing", "popover-open", "seeking", "stalled", "target",
    "target-within", "user-invalid", "visited", "volume-locked"]

/-- States of a page on display that are asked for with a selector. -/
def displayFunctions : List String :=
  ["current", "host", "host-context"]

def ofState? (name : Text) : Option Selector :=
  match states.find? fun entry => entry.1.toList == name with
  | some (_, selector) => some selector
  | none => if displayStates.any fun state => state.toList == name then some never else none

end PageMark.Selector
