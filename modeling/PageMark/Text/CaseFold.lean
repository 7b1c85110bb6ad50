import PageMark.Text.Lowercase

/-!
# Letters without case

Two characters are the same but for case if their small letters are, or if
these are two forms of one letter, such as the long and the short s.
-/

namespace PageMark.Text

/-- Small letters that are another form of the letter on the right. -/
def letterForms : List (Char × Char) := [
  ('\u0131', 'i'), ('\u017F', 's'), ('\u03BC', '\u00B5'), ('\u03B9', '\u0345'),
  ('\u1FBE', '\u0345'), ('\u1FD3', '\u0390'), ('\u1FE3', '\u03B0'), ('\u03D0', '\u03B2'),
  ('\u03F5', '\u03B5'), ('\u03D1', '\u03B8'), ('\u03F0', '\u03BA'), ('\u03D6', '\u03C0'),
  ('\u03F1', '\u03C1'), ('\u03C3', '\u03C2'), ('\u03D5', '\u03C6'), ('\u1E9B', '\u1E61'),
  ('\uFB06', '\uFB05'), ('\u1C80', '\u0432'), ('\u1C81', '\u0434'), ('\u1C82', '\u043E'),
  ('\u1C83', '\u0441'), ('\u1C84', '\u0442'), ('\u1C85', '\u0442'), ('\u1C86', '\u044A'),
  ('\u1C87', '\u0463'), ('\uA64B', '\u1C88')]

/-- The small letter of one character; capital I with a dot has the letter i. -/
def smallLetter (character : Char) : Char :=
  if character = '\u0130' then 'i' else lowerChar character

/-- One character for all that are the same but for case. -/
def foldChar (character : Char) : Char :=
  let small := smallLetter character
  match letterForms.find? fun form => form.1 == small with
  | some form => form.2
  | none => small

def foldCase (text : Text) : Text :=
  text.map foldChar

end PageMark.Text
