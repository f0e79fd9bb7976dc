import TextDomain.Text.Printable

/-!
# Quoted texts

Messages show a text between quote marks, with everything unprintable
escaped, so that what is shown identifies the text.

The mark is the apostrophe, unless the text holds an apostrophe and no double
quote. The backslash and the mark itself are escaped by a backslash; line
feed, carriage return and tab have letters of their own; any other character
that is not printable is written by its code point in two, four or eight
hexadecimal digits.
-/

namespace TextDomain.Text

/-- The mark that surrounds a quoted text. -/
def quoteMark (t : Text) : Char :=
  if t.contains '\'' && !t.contains '"' then '"' else '\''

/-- The code point of a character as an escape of the least sufficient width. -/
def codePointEscape (c : Char) : Text :=
  let n := c.toNat
  if n < 0x100 then '\\' :: 'x' :: hexDigits 2 n
  else if n < 0x10000 then '\\' :: 'u' :: hexDigits 4 n
  else '\\' :: 'U' :: hexDigits 8 n

/-- One character inside a quoted text. -/
def quotedChar (mark c : Char) : Text :=
  if c = '\\' ∨ c = mark then ['\\', c]
  else if c = '\n' then ['\\', 'n']
  else if c = '\r' then ['\\', 'r']
  else if c = '\t' then ['\\', 't']
  else if isPrintable c then [c]
  else codePointEscape c

/-- The text between quote marks. -/
def quoted (t : Text) : Text :=
  let mark := quoteMark t
  mark :: t.flatMap (quotedChar mark) ++ [mark]

/-- Values between the given brackets, separated by a comma and a space. -/
def bracketed (opening closing : Char) (parts : List Text) : Text :=
  opening :: join [',', ' '] parts ++ [closing]

/-- Integers in parentheses; a single one is followed by a comma. -/
def tuple : List Int → Text
  | [n] => '(' :: ofInt n ++ [',', ')']
  | ns => bracketed '(' ')' (ns.map ofInt)

end TextDomain.Text
