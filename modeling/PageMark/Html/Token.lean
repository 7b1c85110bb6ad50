import PageMark.Html.Reference

/-!
# Tokens of HTML

A page is read as a list of tokens: stretches of text, start and end tags,
comments and document types.  The names of tags and attributes are in lower case
and of a limited size, and references are replaced.  Some elements change how
the text after their start tag is read.
-/

namespace PageMark.Html

structure StartTag where
  name : Text
  attributes : List (Text × Text)
  closesItself : Bool
deriving DecidableEq, Repr

/-- A start tag that the end of the page cuts off keeps nothing but its name. -/
inductive Token where
  | text (content : Text)
  | startTag (tag : StartTag)
  | cutStartTag (name : Text)
  | endTag (name : Text)
  | comment (content : Text)
  | doctype (content : Text)
deriving DecidableEq, Repr

/-! ## Characters -/

def isSpace (character : Char) : Bool :=
  character == ' ' || character == '\t' || character == '\n' || character == '\r' ||
    character == '\x0c'

def asciiLower (text : Text) : Text :=
  text.map Char.toLower

def skipSpace (text : Text) : Text :=
  text.dropWhile isSpace

/-- Line ends become line feeds, and the null character the replacement
character. -/
def normalizeLines : Text → Text
  | [] => []
  | '\r' :: '\n' :: rest => '\n' :: normalizeLines rest
  | '\r' :: rest => '\n' :: normalizeLines rest
  | character :: rest =>
      (if character = '\x00' then replacementCharacter else character) :: normalizeLines rest

/-- Up to two byte order marks in front of a page do not belong to it. -/
def withoutByteOrderMarks : Text → Text
  | '\uFEFF' :: '\uFEFF' :: rest => rest
  | '\uFEFF' :: rest => rest
  | text => text

/-! ## Names -/

/-- The bytes that a name may take. -/
def nameSize : Nat :=
  100

/-- The characters that find room in as many bytes; one that does not is left
out. -/
def fitName : Nat → Text → Text
  | _, [] => []
  | room, character :: rest =>
      if character.utf8Size ≤ room then character :: fitName (room - character.utf8Size) rest
      else fitName room rest

/-- The name that is written as the given characters. -/
def nameOf (written : Text) : Text :=
  fitName nameSize (asciiLower written)

/-! ## Tags -/

def endsTagName (character : Char) : Bool :=
  isSpace character || character == '/' || character == '>'

def endsAttributeName (character : Char) : Bool :=
  endsTagName character || character == '='

def endsUnquoted (character : Char) : Bool :=
  isSpace character || character == '>'

/-- A value and the text after it, or nothing if the value does not end. -/
def readValue : Text → Option (Text × Text)
  | '"' :: rest =>
      match rest.dropWhile (· != '"') with
      | [] => none
      | _ :: after => some (rest.takeWhile (· != '"'), after)
  | '\'' :: rest =>
      match rest.dropWhile (· != '\'') with
      | [] => none
      | _ :: after => some (rest.takeWhile (· != '\''), after)
  | text =>
      some (text.takeWhile fun character => !endsUnquoted character,
        text.dropWhile fun character => !endsUnquoted character)

/-- The first of equally named attributes counts. -/
def addAttribute (attributes : List (Text × Text)) (name value : Text) :
    List (Text × Text) :=
  if attributes.any fun entry => entry.1 == name then attributes
  else attributes ++ [(name, value)]

/-- Attributes up to the end of a tag, whether the tag closes itself, and the
text after it.  A tag that does not end is nothing. -/
def readAttributes : Nat → List (Text × Text) → Text →
    Option (List (Text × Text) × Bool × Text)
  | 0, _, _ => none
  | fuel + 1, attributes, text =>
      match skipSpace text with
      | [] => none
      | '>' :: rest => some (attributes, false, rest)
      | '/' :: '>' :: rest => some (attributes, true, rest)
      | '/' :: rest => readAttributes fuel attributes rest
      | first :: rest =>
          let name :=
            nameOf (first :: rest.takeWhile fun character => !endsAttributeName character)
          match skipSpace (rest.dropWhile fun character => !endsAttributeName character) with
          | '=' :: after =>
              match readValue (skipSpace after) with
              | some (value, after) =>
                  readAttributes fuel
                    (addAttribute attributes name (decodeReferences true value)) after
              | none => none
          | after => readAttributes fuel (addAttribute attributes name []) after

def readTagName (text : Text) : Text :=
  nameOf (text.takeWhile fun character => !endsTagName character)

/-- A tag and the text after it; nothing if the end of the page cuts it off. -/
def readTag (text : Text) : Option (StartTag × Text) :=
  let rest := text.dropWhile fun character => !endsTagName character
  (readAttributes (rest.length + 1) [] rest).map fun (attributes, closesItself, after) =>
    ({ name := readTagName text, attributes := attributes, closesItself := closesItself }, after)

/-! ## Comments -/

/-- The content up to the end of a comment and the text after it.  The two
dashes of an unfinished end do not belong to the content. -/
def readCommentBody : Text → Text × Text
  | [] => ([], [])
  | '-' :: '-' :: '>' :: rest => ([], rest)
  | '-' :: '-' :: '!' :: '>' :: rest => ([], rest)
  | ['-', '-', '!'] => ([], [])
  | ['-', '-'] => ([], [])
  | ['-'] => ([], [])
  | character :: rest =>
      let (content, after) := readCommentBody rest
      (character :: content, after)

/-- A comment may end right after its start. -/
def readComment : Text → Text × Text
  | '>' :: rest => ([], rest)
  | '-' :: '>' :: rest => ([], rest)
  | text => readCommentBody text

/-- Markup that is no comment by its form ends at the next bracket. -/
def readBogusComment (text : Text) : Text × Text :=
  (text.takeWhile (· != '>'), (text.dropWhile (· != '>')).drop 1)

/-! ## Document types -/

def hasPrefixIgnoringCase (small text : Text) : Bool :=
  small == asciiLower (text.take small.length)

/-- A quoted text; a bracket ends it too. -/
def readLiteral : Text → Option (Text × Text)
  | '"' :: rest =>
      let endsLiteral := fun character => character == '"' || character == '>'
      let after := rest.dropWhile fun character => !endsLiteral character
      some (rest.takeWhile fun character => !endsLiteral character,
        if after.head? == some '"' then after.drop 1 else after)
  | '\'' :: rest =>
      let endsLiteral := fun character => character == '\'' || character == '>'
      let after := rest.dropWhile fun character => !endsLiteral character
      some (rest.takeWhile fun character => !endsLiteral character,
        if after.head? == some '\'' then after.drop 1 else after)
  | _ => none

def quotedPart (text : Text) : Text :=
  ' ' :: '"' :: text ++ ['"']

/-- The identifiers after the name of a document type, in their written form,
and the text after them. -/
def readIdentifiers (text : Text) : Text × Text :=
  if hasPrefixIgnoringCase "public".toList text then
    match readLiteral (skipSpace (text.drop 6)) with
    | none => ([], text)
    | some (publicId, after) =>
        match readLiteral (skipSpace after) with
        | none => (" PUBLIC".toList ++ quotedPart publicId, after)
        | some (systemId, after) =>
            (" PUBLIC".toList ++ quotedPart publicId ++ quotedPart systemId, after)
  else if hasPrefixIgnoringCase "system".toList text then
    match readLiteral (skipSpace (text.drop 6)) with
    | none => ([], text)
    | some (systemId, after) => (" SYSTEM".toList ++ quotedPart systemId, after)
  else ([], text)

/-- The text stands right after the keyword.  The name stays as it is written. -/
def readDoctype (text : Text) : Text × Text :=
  let start := skipSpace text
  let name := start.takeWhile fun character => !endsUnquoted character
  let rest := skipSpace (start.dropWhile fun character => !endsUnquoted character)
  let identifiers := readIdentifiers rest
  (name ++ identifiers.1, (identifiers.2.dropWhile (· != '>')).drop 1)

/-! ## Text that is not markup -/

/-- How the text after a start tag is read. -/
inductive TextMode where
  | markup
  | withReferences
  | verbatim
  | script
  | toTheEnd
deriving DecidableEq, Repr

def TextMode.ofName (name : Text) : TextMode :=
  if name == "script".toList then .script
  else if ["title".toList, "textarea".toList].contains name then .withReferences
  else if ["style".toList, "xmp".toList, "iframe".toList, "noembed".toList,
      "noframes".toList].contains name then .verbatim
  else if name == "plaintext".toList then .toTheEnd
  else .markup

/-- Whether a tag of the given name begins here, after its opening bracket and
slash have been given in `start`. -/
def startsTag (start name text : Text) : Bool :=
  hasPrefixIgnoringCase (start ++ name) text &&
    (text.drop (start.length + name.length)).head?.any endsTagName

def startsEndTag (name text : Text) : Bool :=
  startsTag ['<', '/'] name text

/-- Everything before the end tag of the given name, and the rest. -/
def splitAtEndTag (name : Text) : Text → Text × Text
  | [] => ([], [])
  | character :: rest =>
      if startsEndTag name (character :: rest) then ([], character :: rest)
      else
        let (content, after) := splitAtEndTag name rest
        (character :: content, after)

/-- Inside a script a comment may hide a whole script element. -/
inductive ScriptState where
  | plain
  | comment
  | hidden
deriving DecidableEq, Repr

def scriptName : Text :=
  "script".toList

def ScriptState.next (state : ScriptState) (text : Text) : ScriptState :=
  match state with
  | .plain => if "<!--".toList.isPrefixOf text then .comment else .plain
  | .comment =>
      if "-->".toList.isPrefixOf text then .plain
      else if startsTag ['<'] scriptName text then .hidden
      else .comment
  | .hidden =>
      if "-->".toList.isPrefixOf text then .plain
      else if startsEndTag scriptName text then .comment
      else .hidden

def splitScript (state : ScriptState) : Text → Text × Text
  | [] => ([], [])
  | character :: rest =>
      if state != .hidden && startsEndTag scriptName (character :: rest) then
        ([], character :: rest)
      else
        let (content, after) := splitScript (state.next (character :: rest)) rest
        (character :: content, after)

/-- The text that belongs to an element by its name, and the rest. -/
def splitContent (name : Text) (text : Text) : Text × Text :=
  match TextMode.ofName name with
  | .markup => ([], text)
  | .withReferences =>
      let parts := splitAtEndTag name text
      (decodeReferences false parts.1, parts.2)
  | .verbatim => splitAtEndTag name text
  | .script => splitScript .plain text
  | .toTheEnd => (text, [])

/-! ## All tokens -/

def textToken (content : Text) : List Token :=
  if content.isEmpty then [] else [.text content]

/-- A text that has been read as characters, last character first. -/
def readText (collected : Text) : List Token :=
  textToken (decodeReferences false collected.reverse)

def startTokens (tag : StartTag) (text : Text) : List Token × Text :=
  let parts := if tag.closesItself then ([], text) else splitContent tag.name text
  (.startTag tag :: textToken parts.1, parts.2)

/-- What begins at a bracket, given the text after the bracket: the tokens that
are read and the text after them, or nothing if the bracket is a character. -/
def readMarkup : Text → Option (List Token × Text)
  | '!' :: '-' :: '-' :: rest =>
      let (content, after) := readComment rest
      some ([.comment content], after)
  | '!' :: rest =>
      if hasPrefixIgnoringCase "doctype".toList rest then
        let (content, after) := readDoctype (rest.drop 7)
        some ([.doctype content], after)
      else
        let (content, after) := readBogusComment rest
        some ([.comment content], after)
  | '?' :: rest =>
      let (content, after) := readBogusComment ('?' :: rest)
      some ([.comment content], after)
  | '/' :: '>' :: rest => some ([], rest)
  | '/' :: first :: rest =>
      if isAsciiLetter first then
        match readTag (first :: rest) with
        | some (tag, after) => some ([.endTag tag.name], after)
        | none => some ([], [])
      else
        let (content, after) := readBogusComment (first :: rest)
        some ([.comment content], after)
  | first :: rest =>
      if isAsciiLetter first then
        match readTag (first :: rest) with
        | some (tag, after) => some (startTokens tag after)
        | none => some ([.cutStartTag (readTagName (first :: rest))], [])
      else none
  | [] => none

/-- Tokens from the content of a page; `collected` is the text read so far, last
character first.  Every round uses up a character, so `fuel` is the length. -/
def readTokens : Nat → Text → Text → List Token
  | 0, collected, _ => readText collected
  | _, collected, [] => readText collected
  | fuel + 1, collected, '<' :: rest =>
      match readMarkup rest with
      | some (tokens, after) => readText collected ++ tokens ++ readTokens fuel [] after
      | none => readTokens fuel ('<' :: collected) rest
  | fuel + 1, collected, character :: rest => readTokens fuel (character :: collected) rest

/-- Tokens from the start of a page.  Until its content begins, space between
comments is skipped; one document type may come first. -/
def readPage : Nat → Bool → Text → List Token
  | 0, _, _ => []
  | fuel + 1, doctypeSeen, text =>
      match skipSpace text with
      | '<' :: '!' :: '-' :: '-' :: rest =>
          let (content, after) := readComment rest
          .comment content :: readPage fuel doctypeSeen after
      | '<' :: '?' :: rest =>
          let (content, after) := readBogusComment ('?' :: rest)
          .comment content :: readPage fuel doctypeSeen after
      | '<' :: '!' :: rest =>
          if hasPrefixIgnoringCase "doctype".toList rest && !doctypeSeen then
            let (content, after) := readDoctype (rest.drop 7)
            .doctype content :: readPage fuel true after
          else readTokens (rest.length + 2) [] ('<' :: '!' :: rest)
      | content => readTokens content.length [] content

def tokensOf (page : Text) : List Token :=
  let text := normalizeLines (withoutByteOrderMarks page)
  readPage (text.length + 1) false text

end PageMark.Html
