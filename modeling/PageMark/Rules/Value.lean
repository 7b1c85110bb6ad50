import PageMark.Rules.Custom
import PageMark.Text.Quoted

/-!
# Definition values

Converters may be defined by values of any type.  A value that is no definition
is named in the failure by its written form.
-/

namespace PageMark

inductive Value where
  | nothing
  | boolean (value : Bool)
  | integer (value : Int)
  /-- A floating-point number, by its written form. -/
  | float (written : Text)
  | text (content : Text)
  | list (items : List Value)
  | tuple (items : List Value)
  | set (items : List Value)
  | frozenSet (items : List Value)
  | mapping (entries : List (Text × Value))
  /-- An object with attributes. -/
  | object (attributes : List (String × Value))
  | exactName (name : String)
  | nameSet (names : List String)
  /-- A filter that is normalised already, of a condition. -/
  | conditionFilter (condition : Condition)
  | condition (condition : Condition)
  | template (template : Template)

namespace Value

/-- The name of a value's type. -/
def typeName : Value → String
  | nothing => "NoneType"
  | boolean _ => "bool"
  | integer _ => "int"
  | float _ => "float"
  | text _ => "str"
  | list _ => "list"
  | tuple _ => "tuple"
  | set _ => "set"
  | frozenSet _ => "frozenset"
  | mapping _ => "dict"
  | object _ => "SimpleNamespace"
  | exactName _ => "ExactTag"
  | nameSet _ => "TagSet"
  | conditionFilter _ => "Predicate"
  | condition _ => "function"
  | template _ => "function"

def integerText (value : Int) : Text :=
  (toString value).toList

def separator : Text :=
  ", ".toList

def bracketed (opening : Text) (items : List Text) (closing : Text) : Text :=
  opening ++ Text.joinWith separator items ++ closing

/-- A tuple of one item keeps its comma. -/
def tupleText : List Text → Text
  | [item] => '(' :: item ++ [',', ')']
  | items => bracketed ['('] items [')']

def setText : List Text → Text
  | [] => "set()".toList
  | items => bracketed ['{'] items ['}']

def frozenSetText : List Text → Text
  | [] => "frozenset()".toList
  | items => bracketed "frozenset(\x7b".toList items "\x7d)".toList

mutual

/-- The written form of a value, as failures show it. -/
def written : Value → Text
  | nothing => "None".toList
  | boolean true => "True".toList
  | boolean false => "False".toList
  | integer value => integerText value
  | float digits => digits
  | text content => Text.quoted content
  | list items => bracketed ['['] (writtenAll items) [']']
  | tuple items => tupleText (writtenAll items)
  | set items => setText (writtenAll items)
  | frozenSet items => frozenSetText (writtenAll items)
  | mapping entries => bracketed ['{'] (writtenEntries entries) ['}']
  | object attributes => bracketed "namespace(".toList (writtenAttributes attributes) [')']
  | exactName name => "ExactTag(name=".toList ++ Text.quoted name.toList ++ [')']
  | nameSet names =>
      "TagSet(names=".toList ++
        frozenSetText (names.map fun name => Text.quoted name.toList) ++ [')']
  | conditionFilter _ => "Predicate(func=<function>)".toList
  | condition _ => "<function>".toList
  | template _ => "<function>".toList

def writtenAll : List Value → List Text
  | [] => []
  | value :: rest => written value :: writtenAll rest

def writtenEntries : List (Text × Value) → List Text
  | [] => []
  | (key, value) :: rest =>
      (Text.quoted key ++ ": ".toList ++ written value) :: writtenEntries rest

def writtenAttributes : List (String × Value) → List Text
  | [] => []
  | (name, value) :: rest =>
      (name.toList ++ '=' :: written value) :: writtenAttributes rest

end

def lookup? (name : String) : List (String × Value) → Option Value
  | [] => none
  | (other, value) :: rest => if other = name then some value else lookup? name rest

def entry? (key : Text) : List (Text × Value) → Option Value
  | [] => none
  | (other, value) :: rest => if other = key then some value else entry? key rest

/-- The texts of a list that holds nothing else. -/
def names? : List Value → Option (List String)
  | [] => some []
  | text content :: rest => (names? rest).map (String.ofList content :: ·)
  | _ :: _ => none

end Value

end PageMark
