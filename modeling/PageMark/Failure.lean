import PageMark.Text.Quoted
import PageMark.Text.Digits

/-!
# Failures

Why a conversion, a definition or a look-up did not succeed.
-/

namespace PageMark

inductive Failure where
  /-- The Markdown of an element is asked for before it is known. -/
  | notConverted (name : String)
  /-- The Markdown of an element is recorded a second time. -/
  | alreadyConverted (name : String)
  | notAmongChildren (name : Option String)
  | noConverter (name : String)
  | invalidFilter
  | invalidReplacement
  | missingPart (part : String)
  | notADefinition (shown : Text)
  | unknownFilterType (typeName : String)
  /-- What should be a page is some other value. -/
  | notText (shown : Text)
  /-- A digit without a decimal value stands in a numeral. -/
  | invalidNumeral (digits : Text)
  | numeralTooLong (length : Nat)
  | numberTooLong
  /-- A text, a mark or nothing at all is asked for what only elements have. -/
  | notAnElement
  /-- Something is asked for by a number that it does not have. -/
  | noSuchChild
deriving DecidableEq, Repr

namespace Failure

def filterMessage : String :=
  "`filter` needs to be a string, a list of strings, or a function"

def replacementMessage : String :=
  "`replacement` needs to be a function that returns a string"

def limitMessage : String :=
  "Exceeds the limit (4300 digits) for integer string conversion"

def limitAdvice : String :=
  "; use sys.set_int_max_str_digits() to increase the limit"

def shownName : Option String → String
  | some name => String.ofList (Text.quoted name.toList)
  | none => "None"

def message : Failure → String
  | notConverted name => "<" ++ name ++ "> has not been converted yet"
  | alreadyConverted name => "<" ++ name ++ "> was already converted"
  | notAmongChildren name => shownName name ++ " is not among the given children"
  | noConverter name => "no converter matches <" ++ name ++ ">"
  | invalidFilter => filterMessage
  | invalidReplacement => replacementMessage
  | missingPart part => "converter definition is missing '" ++ part ++ "'"
  | notADefinition shown =>
      String.ofList shown ++ " is not a converter definition (needs `filter` and `replacement`)"
  | unknownFilterType typeName => "unknown filter type: " ++ typeName
  | notText shown => String.ofList shown ++ " is not a string"
  | invalidNumeral digits =>
      "invalid literal for int() with base 10: " ++
        String.ofList ((Text.quoted digits).take 200)
  | numeralTooLong length =>
      limitMessage ++ ": value has " ++ Nat.repr length ++ " digits" ++ limitAdvice
  | numberTooLong => limitMessage ++ limitAdvice
  | notAnElement => "only elements have children and attributes"
  | noSuchChild => "there is nothing of this number"

/-- Whether the failure lies in the converters or their definitions. -/
def isConfiguration : Failure → Bool
  | noConverter _ => true
  | invalidFilter => true
  | invalidReplacement => true
  | missingPart _ => true
  | notADefinition _ => true
  | unknownFilterType _ => true
  | _ => false

end Failure

namespace Text

/-- The number that a text of digits denotes. -/
def readNumeral (digits : Text) : Except Failure Nat :=
  match decimalValues? digits with
  | none => .error (.invalidNumeral digits)
  | some values =>
      if values.length ≤ numeralLimit then .ok (valueOfDigits values)
      else .error (.numeralTooLong values.length)

def writeNumeral (number : Nat) : Except Failure Text :=
  if (numeral number).length ≤ numeralLimit then .ok (numeral number)
  else .error .numberTooLong

end Text

/-! ## Outcomes -/

section Outcomes

variable {ε α β : Type}

theorem bind_eq_ok_iff {first : Except ε α} {next : α → Except ε β} {result : β} :
    first >>= next = .ok result ↔ ∃ value, first = .ok value ∧ next value = .ok result := by
  cases first <;> simp [bind, Except.bind]

theorem bind_eq_error_iff {first : Except ε α} {next : α → Except ε β} {failure : ε} :
    first >>= next = .error failure ↔
      first = .error failure ∨ ∃ value, first = .ok value ∧ next value = .error failure := by
  cases first <;> simp [bind, Except.bind]

@[simp] theorem ok_bind (value : α) (next : α → Except ε β) :
    ((.ok value : Except ε α) >>= next) = next value :=
  rfl

@[simp] theorem error_bind (failure : ε) (next : α → Except ε β) :
    ((.error failure : Except ε α) >>= next) = .error failure :=
  rfl

@[simp] theorem pure_eq_ok (value : α) : (pure value : Except ε α) = .ok value :=
  rfl

@[simp] theorem throw_eq_error (failure : ε) : (throw failure : Except ε α) = .error failure :=
  rfl

end Outcomes

end PageMark
