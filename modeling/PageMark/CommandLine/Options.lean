import PageMark.CommandLine.Usage
import PageMark.Text.Integer

/-!
# Options

The arguments of the command are read into what it is asked to do.  Options may
stand anywhere; two dashes end them.
-/

namespace PageMark.CommandLine

inductive OptionKey where
  | output
  | gfm
  | selector
  | readable
  | timeout
  | verbose
  | help
deriving DecidableEq, Repr

/-- An option by its names, and whether a value follows it. -/
structure OptionForm where
  key : OptionKey
  long : String
  short : Option Char
  takesValue : Bool
deriving DecidableEq, Repr

def forms : List OptionForm :=
  [{ key := .output, long := "--output", short := some 'o', takesValue := true },
    { key := .gfm, long := "--gfm", short := none, takesValue := false },
    { key := .selector, long := "--selector", short := none, takesValue := true },
    { key := .readable, long := "--readable", short := none, takesValue := false },
    { key := .timeout, long := "--timeout", short := none, takesValue := true },
    { key := .verbose, long := "--verbose", short := some 'v', takesValue := false },
    { key := .help, long := "--help", short := none, takesValue := false }]

def longForm? (name : Text) : Option OptionForm :=
  forms.find? fun form => form.long.toList == name

def shortForm? (letter : Char) : Option OptionForm :=
  forms.find? fun form => form.short == some letter

/-- An option with its value; an option without one has the empty value. -/
abbrev Setting := OptionKey × Text

/-! ## Single arguments -/

/-- What an argument is by itself. -/
inductive Meaning where
  | plain
  | endOfOptions
  | settings (settings : List Setting)
  /-- The next argument is the value of the last option. -/
  | awaiting (settings : List Setting) (key : OptionKey) (name : Text)
deriving DecidableEq, Repr

namespace Meaning

def precededBy (setting : Setting) : Meaning → Meaning
  | settings others => settings (setting :: others)
  | awaiting others key name => awaiting (setting :: others) key name
  | meaning => meaning

/-- Letters after one dash.  The letters after an option that takes a value are
that value. -/
def ofLetters : Text → Except UsageError Meaning
  | [] => .ok (settings [])
  | letter :: rest =>
      match shortForm? letter with
      | none => .error (.noSuchOption ['-', letter] [])
      | some form =>
          if !form.takesValue then (ofLetters rest).map (precededBy (form.key, []))
          else if rest.isEmpty then .ok (awaiting [] form.key ['-', letter])
          else .ok (settings [(form.key, rest)])

def noSuchLong (name : Text) : UsageError :=
  .noSuchOption name (Text.similarOnes name (forms.map fun form => form.long.toList))

/-- The name of a long option, and the value after an equals sign. -/
def cutValue (argument : Text) : Text × Option Text :=
  match argument.dropWhile (· != '=') with
  | [] => (argument, none)
  | _ :: value => (argument.takeWhile (· != '='), some value)

def ofLong (argument : Text) : Except UsageError Meaning :=
  let (name, given) := cutValue argument
  match longForm? name, given with
  | none, _ => .error (noSuchLong name)
  | some form, some value =>
      if form.takesValue then .ok (settings [(form.key, value)])
      else .error (.valueUnwanted name)
  | some form, none =>
      if form.takesValue then .ok (awaiting [] form.key name)
      else .ok (settings [(form.key, [])])

/-- A single dash is no option. -/
def ofArgument : Text → Except UsageError Meaning
  | ['-', '-'] => .ok endOfOptions
  | '-' :: '-' :: rest => ofLong ('-' :: '-' :: rest)
  | '-' :: first :: rest => ofLetters (first :: rest)
  | _ => .ok plain

end Meaning

/-! ## All arguments -/

/-- Options in the order in which they are given, and the other arguments. -/
structure Reading where
  settings : List Setting
  arguments : List Text
deriving DecidableEq, Repr

def Reading.withSettings (settings : List Setting) (reading : Reading) : Reading :=
  { reading with settings := settings ++ reading.settings }

def Reading.withArgument (argument : Text) (reading : Reading) : Reading :=
  { reading with arguments := argument :: reading.arguments }

def readArguments : List Text → Except UsageError Reading
  | [] => .ok { settings := [], arguments := [] }
  | argument :: rest =>
      match Meaning.ofArgument argument with
      | .error error => .error error
      | .ok .plain => (readArguments rest).map (Reading.withArgument argument)
      | .ok .endOfOptions => .ok { settings := [], arguments := rest }
      | .ok (.settings settings) => (readArguments rest).map (Reading.withSettings settings)
      | .ok (.awaiting settings key name) =>
          match rest with
          | [] => .error (.valueMissing name)
          | value :: others =>
              (readArguments others).map (Reading.withSettings (settings ++ [(key, value)]))

/-! ## Invocations -/

structure Invocation where
  source : Text
  output : Option Text
  gfm : Bool
  selector : Option Text
  readable : Bool
  timeout : Int
  verbose : Bool
deriving DecidableEq, Repr

/-- What the command is asked for. -/
inductive Demand where
  | help
  | conversion (invocation : Invocation)
deriving DecidableEq, Repr

namespace Reading

def has (reading : Reading) (key : OptionKey) : Bool :=
  reading.settings.any fun setting => setting.1 == key

/-- The last value given for an option counts. -/
def value? (reading : Reading) (key : OptionKey) : Option Text :=
  (reading.settings.reverse.find? fun setting => setting.1 == key).map Prod.snd

def defaultTimeout : Int := 30

def timeout (reading : Reading) : Except UsageError Int :=
  match reading.value? .timeout with
  | none => .ok defaultTimeout
  | some value =>
      match Text.readInteger? value with
      | some seconds => .ok seconds
      | none => .error (.notAnInteger "--timeout".toList value)

def demand (reading : Reading) : Except UsageError Demand :=
  if reading.has .help then .ok .help
  else do
    let timeout ← reading.timeout
    match reading.arguments with
    | [] => throw .sourceMissing
    | _ :: extra :: others => throw (.tooMany (extra :: others))
    | [source] =>
        return .conversion {
          source := source
          output := reading.value? .output
          gfm := reading.has .gfm
          selector := reading.value? .selector
          readable := reading.has .readable
          timeout := timeout
          verbose := reading.has .verbose }

end Reading

def demandOf (arguments : List Text) : Except UsageError Demand := do
  (← readArguments arguments).demand

end PageMark.CommandLine
