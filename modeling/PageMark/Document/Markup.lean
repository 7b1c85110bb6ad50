import PageMark.Document.Classify

/-!
# Markup of nodes

Nodes written as markup.  Attributes are written in the order of their names;
`&`, `<` and `>` are escaped, in attribute values and in all texts but those
directly inside a script or style element.
-/

namespace PageMark

/-- Elements written as one self-closing tag when they have no children. -/
def selfClosingNames : List String :=
  ["area", "base", "br", "col", "embed", "hr", "img", "input", "keygen", "link", "menuitem",
    "meta", "param", "source", "track", "wbr", "basefont", "bgsound", "command", "frame",
    "image", "isindex", "nextid", "spacer"]

/-- Elements whose direct texts are written as they are. -/
def rawTextNames : List String :=
  ["script", "style"]

def escapeChar : Char → Text
  | '&' => "&amp;".toList
  | '<' => "&lt;".toList
  | '>' => "&gt;".toList
  | character => [character]

def escapeMarkup (text : Text) : Text :=
  text.flatMap escapeChar

/-- Double quotes, unless the value has a double quote and no single quote; a
value with both has its double quotes escaped. -/
def quoteValue (value : Text) : Text :=
  if value.contains '"' then
    if value.contains '\'' then
      '"' :: (value.flatMap fun character =>
        if character == '"' then "&quot;".toList else [character]) ++ ['"']
    else '\'' :: value ++ ['\'']
  else '"' :: value ++ ['"']

/-! ## The declared encoding

Markup is written for UTF-8, so the encoding that a `meta` element declares is
replaced. -/

def writtenEncoding : Text :=
  "utf-8".toList

def charsetKey : Text :=
  "charset=".toList

/-- Each `charset=` at the start of a line or after white space or a semicolon
has its value replaced.  In `skipping` mode an old value is being left out;
`lineStart` tells whether a line starts here. -/
def replaceCharsets (skipping lineStart : Bool) : Text → Text
  | [] => []
  | character :: rest =>
      if skipping && character != ';' then replaceCharsets true false rest
      else if lineStart && charsetKey.isPrefixOf (character :: rest) then
        charsetKey ++ writtenEncoding ++ replaceCharsets true false rest
      else if (Text.isBlank character || character == ';') && charsetKey.isPrefixOf rest then
        character :: (charsetKey ++ writtenEncoding ++ replaceCharsets true false rest)
      else character :: replaceCharsets false (character == '\n') rest

def Tag.declaresContentType (tag : Tag) : Bool :=
  !tag.has "charset" && tag.has "http-equiv" &&
    Text.lower (tag.textOf "http-equiv") == "content-type".toList

/-- The value of an attribute as it is written, before escaping. -/
def Tag.writtenValue (tag : Tag) (entry : Attribute) : Text :=
  let value := entry.value.toText
  if tag.name == "meta" then
    if entry.name == "charset" then writtenEncoding
    else if entry.name == "content" && tag.declaresContentType then
      replaceCharsets false true value
    else value
  else value

/-! ## Tags -/

def Attribute.precedes (left right : Attribute) : Bool :=
  left.name < right.name || left.name == right.name

def Tag.sortedAttributes (tag : Tag) : List Attribute :=
  tag.attributes.mergeSort Attribute.precedes

def Tag.attributeMarkup (tag : Tag) (entry : Attribute) : Text :=
  ' ' :: entry.name.toList ++
    '=' :: quoteValue (escapeMarkup (tag.writtenValue entry))

/-- The name and the attributes, as they stand in every form of the tag. -/
def Tag.heading (tag : Tag) : Text :=
  tag.name.toList ++ tag.sortedAttributes.flatMap tag.attributeMarkup

def Tag.opening (tag : Tag) : Text :=
  '<' :: tag.heading ++ ['>']

def Tag.closing (tag : Tag) : Text :=
  '<' :: '/' :: tag.name.toList ++ ['>']

def Tag.selfClosing (tag : Tag) : Text :=
  '<' :: tag.heading ++ ['/', '>']

/-! ## Nodes -/

def markMarkup : MarkKind → Text → Text
  | .comment, content => "<!--".toList ++ content ++ "-->".toList
  | .cdata, content => "<![CDATA[".toList ++ content ++ "]]>".toList
  | .instruction, content => "<?".toList ++ content ++ ">".toList
  | .declaration, content => "<?".toList ++ content ++ "?>".toList
  | .doctype, content => "<!DOCTYPE ".toList ++ content ++ ">\n".toList

mutual

/-- The markup of a node whose parent has the given name. -/
def Node.markupIn (parent : String) : Node → Text
  | .text _ content => if rawTextNames.contains parent then content else escapeMarkup content
  | .mark kind content => markMarkup kind content
  | .element tag children =>
      if children.isEmpty && selfClosingNames.contains tag.name then tag.selfClosing
      else tag.opening ++ markupOfAll tag.name children ++ tag.closing

def markupOfAll (parent : String) : List Node → Text
  | [] => []
  | node :: rest => node.markupIn parent ++ markupOfAll parent rest

end

/-- An element does not depend on its parent's name. -/
def Node.markup (node : Node) : Text :=
  node.markupIn ""

/-- The markup of an element's content. -/
def Node.innerMarkup : Node → Text
  | .element tag children => markupOfAll tag.name children
  | _ => []

/-- The element without children: a void element closes itself. -/
def Tag.shell (tag : Tag) : Text :=
  if tag.isVoid then tag.selfClosing else tag.opening ++ tag.closing

/-- The shell of a tag with `content` put at the first place where one bracket
closes and another opens. -/
def Tag.around (tag : Tag) (content : Text) : Text :=
  Text.replaceFirst ['>', '<'] ('>' :: content ++ ['<']) tag.shell

end PageMark
