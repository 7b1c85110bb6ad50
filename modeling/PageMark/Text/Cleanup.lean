import PageMark.Text.Basic

/-!
# Cleanup of finished Markdown

Three passes, in this order: the edges are stripped, a stretch of white space
between two line feeds becomes one empty line, and no run of line feeds is
longer than two.  Leading spaces survive, because they may open an indented
code block.
-/

namespace PageMark.Text

/-- Leading line feeds, carriage returns and tabs go, and all trailing white
space. -/
def stripEdges (text : Text) : Text :=
  dropTrailing isBlank
    (text.dropWhile fun character =>
      character == '\t' || character == '\r' || character == '\n')

/-- The part after the last line feed. -/
def afterLastBreak (text : Text) : Text :=
  (text.reverse.takeWhile (· != '\n')).reverse

/-- The part before the last line feed and the line feed itself. -/
def throughLastBreak (text : Text) : Text :=
  (text.reverse.dropWhile (· != '\n')).reverse

/-- In a maximal run of white space everything from its first to its last line
feed becomes two line feeds, unless these two are the same or neighbours. -/
def settleRun (run : Text) : Text :=
  let tail := run.dropWhile (· != '\n')
  if (throughLastBreak tail).length ≤ 2 then run
  else run.takeWhile (· != '\n') ++ '\n' :: '\n' :: afterLastBreak tail

/-- The characters of `run` are the white space met directly before, last
first. -/
def settleRuns (run : Text) : Text → Text
  | [] => settleRun run.reverse
  | character :: rest =>
      if isBlank character then settleRuns (character :: run) rest
      else settleRun run.reverse ++ character :: settleRuns [] rest

/-- White space between two line feeds is dropped. -/
def emptyBlankLines (text : Text) : Text :=
  settleRuns [] text

/-- A line feed is dropped when `count`, the number of line feeds directly
before it, has reached two. -/
def capBreaksAfter (count : Nat) : Text → Text
  | [] => []
  | '\n' :: rest =>
      if count < 2 then '\n' :: capBreaksAfter (count + 1) rest
      else capBreaksAfter count rest
  | character :: rest => character :: capBreaksAfter 0 rest

/-- Runs of three or more line feeds become two. -/
def capBreaks (text : Text) : Text :=
  capBreaksAfter 0 text

def cleanUp (text : Text) : Text :=
  capBreaks (emptyBlankLines (stripEdges text))

end PageMark.Text
