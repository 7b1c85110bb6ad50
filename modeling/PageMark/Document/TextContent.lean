import PageMark.Document.Build

/-!
# Text content

The running text of an element: its plain texts and character data sections in
document order.  An element that gives its texts a kind of its own has exactly
the texts of that kind.
-/

namespace PageMark

/-- Whether a text of this kind counts for an element asked for `wanted`. -/
def TextKind.counts (wanted : Option TextKind) (kind : TextKind) : Bool :=
  kind == wanted.getD .plain

/-- A character data section counts as plain text. -/
def MarkKind.counts (wanted : Option TextKind) (kind : MarkKind) : Bool :=
  wanted.isNone && kind == .cdata

mutual

def Node.textsOf (wanted : Option TextKind) : Node → Text
  | .text kind content => if kind.counts wanted then content else []
  | .mark kind content => if kind.counts wanted then content else []
  | .element _ children => textsOfAll wanted children

def textsOfAll (wanted : Option TextKind) : List Node → Text
  | [] => []
  | node :: rest => node.textsOf wanted ++ textsOfAll wanted rest

end

def textContentOf (tag : Tag) (children : List Node) : Text :=
  textsOfAll (TextKind.ofContainer? tag.name) children

/-- The text content of an element; another node has its text if that counts as
plain. -/
def Node.textContent : Node → Text
  | .element tag children => textContentOf tag children
  | node => node.textsOf none

end PageMark
