import PageMark.Text.Quoted
import PageMark.Text.Similarity

/-!
# Usage

The words in which the command explains itself and rejects arguments.
-/

namespace PageMark.CommandLine

/-- Why arguments are rejected. -/
inductive UsageError where
  | noSuchOption (name : Text) (similar : List Text)
  | valueMissing (name : Text)
  | valueUnwanted (name : Text)
  | notAnInteger (name value : Text)
  | sourceMissing
  | tooMany (arguments : List Text)
deriving DecidableEq, Repr

namespace UsageError

def inOrder (names : List Text) : List Text :=
  names.mergeSort fun first second => String.ofList first ≤ String.ofList second

/-- What was perhaps meant instead of an unknown option. -/
def suggestion : List Text → Text
  | [] => []
  | [only] => " Did you mean ".toList ++ Text.quoted only ++ ['?']
  | several =>
      " (Possible options: ".toList ++ Text.joinWith ", ".toList ((inOrder several).map Text.quoted) ++
        [')']

def message : UsageError → Text
  | noSuchOption name similar =>
      "No such option ".toList ++ Text.quoted name ++ ['.'] ++ suggestion similar
  | valueMissing name => "Option ".toList ++ Text.quoted name ++ " requires an argument.".toList
  | valueUnwanted name => "Option ".toList ++ Text.quoted name ++ " does not take a value.".toList
  | notAnInteger name value =>
      "Invalid value for ".toList ++ Text.quoted name ++ ": ".toList ++ Text.quoted value ++
        " is not a valid integer.".toList
  | sourceMissing => "Missing argument 'SOURCE'.".toList
  | tooMany arguments =>
      (if arguments.length = 1 then "Got unexpected extra argument (" else
        "Got unexpected extra arguments (").toList ++ Text.joinWith [' '] arguments ++ [')']

end UsageError

def usageLine : Text :=
  "Usage: main [OPTIONS] SOURCE\n".toList

def hint : Text :=
  "Try 'main --help' for help.\n\n".toList

def complaint (message : Text) : Text :=
  "Error: ".toList ++ message ++ ['\n']

def UsageError.shown (error : UsageError) : Text :=
  usageLine ++ hint ++ complaint error.message

/-- The lines of the help after the first. -/
def helpLines : List String :=
  ["",
    "  Convert an HTML file, URL, or stdin to markdown.",
    "",
    "  SOURCE can be an http(s) URL, a local HTML file, or - for stdin.",
    "",
    "  Examples:",
    "      h2md page.html                          # markdown to stdout",
    "      h2md page.html --gfm -o out/            # save out/page.md",
    "      h2md https://example.com --readable     # main content only",
    "      cat page.html | h2md -                  # read stdin",
    "",
    "Options:",
    "  -o, --output PATH  Output file or directory. Omit for stdout.",
    "  --gfm              Enable GitHub Flavored Markdown rules (tables, ~~del~~,",
    "                     task lists)",
    "  --selector TEXT    CSS selector for content targeting",
    "  --readable         Keep only the main content (readability) before converting",
    "  --timeout INTEGER  HTTP timeout in seconds",
    "  -v, --verbose      Verbose progress output",
    "  --help             Show this message and exit."]

def help : Text :=
  usageLine ++ helpLines.flatMap fun line => line.toList ++ ['\n']

end PageMark.CommandLine
