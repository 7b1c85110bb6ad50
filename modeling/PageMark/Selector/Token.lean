import PageMark.Html.Token
import PageMark.Selector.States
import PageMark.Text.Digits

/-!
# Tokens of selectors

The written form of a selector is read as a list of tokens: simple selectors,
combinators and the parentheses of functions.
-/

namespace PageMark

namespace Selector

/-- What the selectors between two parentheses are for. -/
inductive Purpose where
  | anyOf (forgiving : Bool)
  | noneOf
  | having
  | counting (counting : Counting)
  | ignored
deriving DecidableEq, Repr

inductive Token where
  | simple (selector : Selector)
  /-- A name or a star, which comes first in its part. -/
  | name (selector : Selector)
  | occurrence (occurrence : Occurrence)
  | opening (purpose : Purpose)
  | closing
  | combinator (combinator : Combinator)
  | comma
  | mistake (error : SelectorError)
deriving DecidableEq, Repr

/-- A token that cannot be made is a mistake. -/
def Token.ofOutcome : Except SelectorError Token → Token
  | .ok token => token
  | .error error => .mistake error

/-! ## Gaps -/

/-- The text after the end of a comment. -/
def afterComment? : Text → Option Text
  | [] => none
  | '*' :: '/' :: rest => some rest
  | _ :: rest => afterComment? rest

/-- The text after one space or one comment, and whether it is a space. -/
def gap? : Text → Option (Bool × Text)
  | '\r' :: '\n' :: rest => some (true, rest)
  | '/' :: '*' :: rest => (afterComment? rest).map fun after => (false, after)
  | character :: rest => if Html.isSpace character then some (true, rest) else none
  | [] => none

/-- The text after all spaces and comments, and whether there is a space. -/
def skipGapsWithin : Nat → Bool → Text → Bool × Text
  | 0, spaced, text => (spaced, text)
  | fuel + 1, spaced, text =>
      match gap? text with
      | some (isSpace, rest) => skipGapsWithin fuel (spaced || isSpace) rest
      | none => (spaced, text)

def skipGaps (text : Text) : Text :=
  (skipGapsWithin text.length false text).2

/-- The text after a gap with a space in it. -/
def afterSpace? (text : Text) : Option Text :=
  let (spaced, rest) := skipGapsWithin text.length false text
  if spaced then some rest else none

/-! ## Names and values -/

def startsName (character : Char) : Bool :=
  Html.isAsciiLetter character || character == '_' || 0xA0 ≤ character.toNat

def continuesName (character : Char) : Bool :=
  startsName character || Html.isAsciiDigit character || character == '-'

def isLineBreak (character : Char) : Bool :=
  character == '\n' || character == '\r' || character == '\x0c'

def hexValue (digit : Char) : Nat :=
  if digit.isDigit then digit.toNat - '0'.toNat else digit.toLower.toNat - 'a'.toNat + 10

/-- A number that is no character gives the null character, which no page has. -/
def characterOfHex (digits : Text) : Except SelectorError Char :=
  let number := digits.foldl (fun value digit => 16 * value + hexValue digit) 0
  if number = 0 then .ok Html.replacementCharacter
  else if 0x110000 ≤ number then .error .beyondCharacters
  else if number.isValidChar then .ok (Char.ofNat number)
  else .ok '\x00'

/-- One space after the digits of an escape belongs to it. -/
def dropSpace : Text → Text
  | '\r' :: '\n' :: rest => rest
  | character :: rest => if Html.isSpace character then rest else character :: rest
  | [] => []

def leadingHex (text : Text) : Text :=
  (text.takeWhile Html.isHexDigit).take 6

/-- The character that is escaped, given the text after the backslash. -/
def readEscape : Text → Option (Except SelectorError Char × Text)
  | [] => some (.ok Html.replacementCharacter, [])
  | ['\n'] => some (.ok Html.replacementCharacter, ['\n'])
  | first :: rest =>
      if Html.isHexDigit first then
        let digits := leadingHex (first :: rest)
        some (characterOfHex digits, dropSpace ((first :: rest).drop digits.length))
      else if isLineBreak first then none
      else some (.ok first, rest)

/-- The text after the characters that continue a name. -/
def skipNameWithin : Nat → Text → Text
  | 0, text => text
  | _, [] => []
  | fuel + 1, '\\' :: rest =>
      match readEscape rest with
      | some (_, after) => skipNameWithin fuel after
      | none => '\\' :: rest
  | fuel + 1, character :: rest =>
      if continuesName character then skipNameWithin fuel rest else character :: rest

def beginsName : Text → Bool
  | [] => false
  | '\\' :: rest => (readEscape rest).isSome
  | first :: _ => startsName first

/-- A name as it is written and the text after it.  A name may begin with a
dash, and two dashes are a name. -/
def readName? (text : Text) : Option (Text × Text) :=
  let begins := match text with
    | '-' :: '-' :: _ => true
    | '-' :: rest => beginsName rest
    | _ => beginsName text
  if begins then
    let after := skipNameWithin text.length text
    some (text.take (text.length - after.length), after)
  else none

/-- The written content of a quoted text and the text after it. -/
def readQuoted? (quote : Char) : Text → Option (Text × Text)
  | [] => none
  | '\\' :: '\r' :: '\n' :: rest =>
      (readQuoted? quote rest).map fun (content, after) =>
        ('\\' :: '\r' :: '\n' :: content, after)
  | '\\' :: character :: rest =>
      (readQuoted? quote rest).map fun (content, after) => ('\\' :: character :: content, after)
  | character :: rest =>
      if character = quote then some ([], rest)
      else if isLineBreak character then none
      else (readQuoted? quote rest).map fun (content, after) => (character :: content, after)

/-- What a text with escapes means.  An escaped line break, which only a quoted
text has, is nothing. -/
def meaningWithin : Nat → Text → Except SelectorError Text
  | 0, text => .ok text
  | _, [] => .ok []
  | fuel + 1, '\\' :: rest =>
      match readEscape rest with
      | some (meant, after) => do
          let character ← meant
          let others ← meaningWithin fuel after
          return character :: others
      | none => meaningWithin fuel (dropSpace rest)
  | fuel + 1, character :: rest => do
      let others ← meaningWithin fuel rest
      return character :: others

/-- What a name or a quoted text means, given how it is written. -/
def meaningOf (written : Text) : Except SelectorError Text :=
  meaningWithin written.length written

/-- A value is a quoted text or a name. -/
def readValue? : Text → Option (Text × Text)
  | '"' :: rest => readQuoted? '"' rest
  | '\'' :: rest => readQuoted? '\'' rest
  | text => readName? text

/-- Values with commas between them, up to the closing parenthesis. -/
def readValuesWithin : Nat → Text → Option (List Text × Text)
  | 0, _ => none
  | fuel + 1, text => do
      let (value, after) ← readValue? text
      match skipGaps after with
      | ')' :: rest => some ([value], rest)
      | ',' :: rest =>
          let (others, last) ← readValuesWithin fuel (skipGaps rest)
          some (value :: others, last)
      | _ => none

def readValues? (text : Text) : Option (List Text × Text) :=
  readValuesWithin text.length text

/-! ## Elements and attributes -/

/-- A star before the bar allows elements of all spaces of names. -/
def inSpace (space : Text) (selector : Selector) : Selector :=
  if space == ['*'] then selector else both (having (.ofSpace space)) selector

def ofName (name : Text) : Selector :=
  if name == ['*'] then always else having (.named name)

def readNameOrStar? : Text → Option (Text × Text)
  | '*' :: rest => some (['*'], rest)
  | text => readName? text

/-- The part before a bar, if a bar follows it. -/
def readSpace? (text : Text) : Option (Text × Text) :=
  match text with
  | '|' :: rest => some ([], rest)
  | _ => do
      let (space, after) ← readNameOrStar? text
      match after with
      | '|' :: rest => some (space, rest)
      | _ => none

/-- A name with or without a space before it. -/
def readSpacedName? (readLast? : Text → Option (Text × Text)) (text : Text) :
    Option (Option Text × Text × Text) :=
  let spaced := do
    let (space, rest) ← readSpace? text
    let (name, after) ← readLast? rest
    some (some space, name, after)
  spaced <|> (readLast? text).map fun (name, after) => (none, name, after)

/-- A comparison and whether it is denied. -/
def readComparison? : Text → Option (Comparison × Bool × Text)
  | '=' :: rest => some (.equal, false, rest)
  | '!' :: '=' :: rest => some (.equal, true, rest)
  | '~' :: '=' :: rest => some (.word, false, rest)
  | '|' :: '=' :: rest => some (.beforeDash, false, rest)
  | '^' :: '=' :: rest => some (.start, false, rest)
  | '$' :: '=' :: rest => some (.finish, false, rest)
  | '*' :: '=' :: rest => some (.part, false, rest)
  | _ => none

/-- Whether case is ignored, if that is said, up to the closing bracket. -/
def readCase? (text : Text) : Option (Option Bool × Text) :=
  match skipGaps text with
  | ']' :: rest => some (none, rest)
  | flag :: rest =>
      match flag.toLower, skipGaps rest with
      | 'i', ']' :: after => some (some true, after)
      | 's', ']' :: after => some (some false, after)
      | _, _ => none
  | [] => none

def attributeSelector (name : Text) (comparison : Comparison) (denied : Bool) (value : Text)
    (ignoresCase : Option Bool) : Selector :=
  let isType := Html.asciiLower name == "type".toList
  let selector := having (.attribute
    { name := name, comparison := some (comparison, value),
      ignoresCase := ignoresCase.getD isType })
  if denied then negation selector else selector

/-- The name of an attribute, given the name with its space; any space will
do. -/
def attributeName (space : Option Text) (name : Text) : Except SelectorError Text := do
  let _ ← meaningOf (space.getD [])
  meaningOf name

def presentAttribute (space : Option Text) (name : Text) : Except SelectorError Token := do
  let name ← attributeName space name
  return .simple (having (.attribute { name := name, comparison := none, ignoresCase := false }))

/-- The text stands right after the opening bracket. -/
def readAttribute? (text : Text) : Option (Token × Text) := do
  let (space, name, after) ← readSpacedName? readName? (skipGaps text)
  match skipGaps after with
  | ']' :: rest => some (Token.ofOutcome (presentAttribute space name), rest)
  | next =>
      let (comparison, denied, rest) ← readComparison? next
      let (value, rest) ← readValue? (skipGaps rest)
      let (ignoresCase, rest) ← readCase? rest
      let token : Except SelectorError Token := do
        let name ← attributeName space name
        let value ← meaningOf value
        return .simple (attributeSelector name comparison denied value ignoresCase)
      some (Token.ofOutcome token, rest)

/-! ## Functions -/

def signed (sign : Option Char) (number : Nat) : Int :=
  if sign == some '-' then -(number : Int) else number

def readSign : Text → Option Char × Text
  | '-' :: rest => (some '-', rest)
  | '+' :: rest => (some '+', rest)
  | text => (none, text)

def readDigits (text : Text) : Text × Text :=
  (text.takeWhile Html.isAsciiDigit, text.dropWhile Html.isAsciiDigit)

def numberOf (digits : Text) : Nat :=
  Text.valueOfDigits (digits.map fun digit => digit.toNat - '0'.toNat)

/-- The number added to the steps of a progression, and the text after it. -/
def readOffset (text : Text) : Int × Text :=
  match readSign (skipGaps text) with
  | (some sign, rest) =>
      let (digits, after) := readDigits (skipGaps rest)
      if digits.isEmpty then (0, text) else (signed (some sign) (numberOf digits), after)
  | (none, _) => (0, text)

def startsSteps (text : Text) : Bool :=
  text.head?.any fun character => character.toLower == 'n'

def readSeries? (text : Text) : Option (Progression × Text) :=
  let (sign, rest) := readSign text
  let (digits, rest) := readDigits rest
  if startsSteps rest then
    let step := signed sign (if digits.isEmpty then 1 else numberOf digits)
    let (offset, after) := readOffset (rest.drop 1)
    some (.series step offset, after)
  else if digits.isEmpty then none
  else some (.single (signed sign (numberOf digits)), rest)

def readProgression? (text : Text) : Option (Progression × Text) :=
  if Html.hasPrefixIgnoringCase "even".toList text then some (.series 2 0, text.drop 4)
  else if Html.hasPrefixIgnoringCase "odd".toList text then some (.series 2 1, text.drop 3)
  else readSeries? text

/-- A progression up to the closing parenthesis, or up to the selectors among
whose elements places are counted. -/
def readCounting? (ofType fromEnd : Bool) (text : Text) : Option (Token × Text) := do
  let (progression, after) ← readProgression? text
  let counting := fun (leavesOutLast : Bool) =>
    { progression, ofType, fromEnd, leavesOutLast : Counting }
  match skipGaps after with
  | ')' :: rest => some (.simple (counted (counting false) always), rest)
  | _ =>
      let next ← afterSpace? after
      if !ofType && Html.hasPrefixIgnoringCase "of".toList next then
        let rest ← afterSpace? (next.drop 2)
        some (.opening (.counting (counting fromEnd)), rest)
      else none

/-- A token that is made of the values up to the closing parenthesis. -/
def readOfValues? (token : List Text → Token) (text : Text) : Option (Token × Text) :=
  (readValues? text).map fun (values, after) =>
    (Token.ofOutcome ((values.mapM meaningOf).map token), after)

def readContaining? (own : Bool) (text : Text) : Option (Token × Text) :=
  readOfValues? (fun texts => .occurrence { own := own, texts := texts }) text

def readLanguages? (text : Text) : Option (Token × Text) :=
  readOfValues? (fun ranges => .simple (having (.inLanguage ranges))) text

def readWritingDirection? (text : Text) : Option (Token × Text) :=
  let keyword := Html.asciiLower (text.take 3)
  match skipGaps (text.drop 3) with
  | ')' :: rest =>
      if keyword == "ltr".toList then some (.simple (having (.directed .leftToRight)), rest)
      else if keyword == "rtl".toList then some (.simple (having (.directed .rightToLeft)), rest)
      else none
  | _ => none

/-- Functions with a content of their own form, given the text after the
parenthesis and its gap. -/
def readSpecial? (name : String) (text : Text) : Option (Token × Text) :=
  match name with
  | "contains" => readContaining? false text
  | "-soup-contains" => readContaining? false text
  | "-soup-contains-own" => readContaining? true text
  | "nth-child" => readCounting? false false text
  | "nth-last-child" => readCounting? false true text
  | "nth-of-type" => readCounting? true false text
  | "nth-last-of-type" => readCounting? true true text
  | "lang" => readLanguages? text
  | "dir" => readWritingDirection? text
  | _ => none

/-- What the selectors in the parentheses of a function are for. -/
def purposeOf? (name : String) : Option Purpose :=
  match name with
  | "is" => some (.anyOf true)
  | "where" => some (.anyOf true)
  | "matches" => some (.anyOf false)
  | "contains" => some (.anyOf false)
  | "-soup-contains" => some (.anyOf false)
  | "-soup-contains-own" => some (.anyOf false)
  | "not" => some .noneOf
  | "has" => some .having
  | _ => if displayFunctions.contains name then some .ignored else none

def stateToken (name : Text) : Token :=
  match ofState? name with
  | some selector => .simple selector
  | none => .mistake .invalid

def functionToken (name : Text) (text : Text) : Token × Text :=
  match readSpecial? (String.ofList name) text with
  | some (token, after) => (token, after)
  | none =>
      match purposeOf? (String.ofList name) with
      | some purpose => (.opening purpose, text)
      | none => (.mistake .invalid, text)

/-- The text stands right after the colon. -/
def readState? (text : Text) : Option (Token × Text) := do
  let (written, after) ← readName? text
  match meaningOf written, after with
  | .ok name, '(' :: rest => some (functionToken (Html.asciiLower name) (skipGaps rest))
  | .ok name, _ => some (stateToken (Html.asciiLower name), after)
  | .error error, _ => some (.mistake error, after)

/-! ## Combinators -/

def joins (character : Char) : Bool :=
  character == ',' || character == '+' || character == '>' || character == '~'

def combinatorOf : Char → Token
  | '>' => .combinator .child
  | '+' => .combinator .nextSibling
  | '~' => .combinator .laterSibling
  | _ => .comma

/-- A space joins unless a sign follows it. -/
def readCombinatorWithin : Nat → Text → Option (Token × Text)
  | 0, _ => none
  | _, [] => none
  | fuel + 1, first :: rest =>
      if joins first then some (combinatorOf first, skipGaps rest)
      else
        match gap? (first :: rest) with
        | some (isSpace, after) =>
            if isSpace && !after.head?.any joins then some (.combinator .descendant, skipGaps after)
            else readCombinatorWithin fuel after
        | none => none

def readCombinator? (text : Text) : Option (Token × Text) :=
  readCombinatorWithin text.length text

/-! ## All tokens -/

def elementToken (space : Option Text) (name : Text) : Except SelectorError Token := do
  match space with
  | none => return .name (ofName (← meaningOf name))
  | some space =>
      let space ← meaningOf space
      return .name (inSpace space (ofName (← meaningOf name)))

def readElement? (text : Text) : Option (Token × Text) :=
  (readSpacedName? readNameOrStar? text).map fun (space, name, after) =>
    (Token.ofOutcome (elementToken space name), after)

/-- A trait that goes by a name. -/
def readNamed? (trait : Text → Trait) (text : Text) : Option (Token × Text) :=
  (readName? text).map fun (written, after) =>
    (Token.ofOutcome ((meaningOf written).map fun name => .simple (having (trait name))), after)

/-- What begins with the first character, other than a combinator. -/
def readSimple? (text : Text) : Option (Token × Text) :=
  match text with
  | ':' :: ':' :: rest =>
      (readName? rest).map fun (_, after) => (.mistake .notSupported, after)
  | ':' :: rest => readState? rest
  | '&' :: rest => some (.simple (having .first), rest)
  | '@' :: mark :: rest =>
      if mark.toLower == 'p' then
        (readName? rest).map fun (_, after) => (.mistake .notSupported, after)
      else none
  | '#' :: rest => readNamed? .identified rest
  | '.' :: rest => readNamed? .ofClass rest
  | '[' :: rest => readAttribute? rest
  | _ => readElement? text

def readToken? (text : Text) : Option (Token × Text) :=
  match skipGaps text with
  | ')' :: rest => some (.closing, rest)
  | _ => readSimple? text <|> readCombinator? text

/-- Tokens up to the gap at the end.  Every round uses up a character, so `fuel`
is the length. -/
def readTokens : Nat → Text → List Token
  | 0, _ => []
  | fuel + 1, text =>
      if (skipGaps text).isEmpty then []
      else
        match readToken? text with
        | some (token, after) => token :: readTokens fuel after
        | none => [.mistake .invalid]

def withoutNull (text : Text) : Text :=
  text.map fun character => if character = '\x00' then Html.replacementCharacter else character

def tokensOf (text : Text) : List Token :=
  let plain := withoutNull text
  readTokens plain.length (skipGaps plain)

end Selector

end PageMark
