import TextDomain.Yaml.Cursor

/-!
# Quoted scalars

Between apostrophes only the apostrophe is special: it is written twice.
Between double quotes a backslash begins an escape. In both, blanks around a
line break are dropped, a single line break reads as a space, and of several
breaks in a row the first is dropped.
-/

namespace TextDomain.Yaml.Scalar

open Reader

/-- What the escapes of one character stand for. -/
def simpleEscapes : List (Char × Char) :=
  [('0', '\x00'), ('a', '\x07'), ('b', '\x08'), ('t', '\t'), ('\t', '\t'), ('n', '\n'),
    ('v', '\x0b'), ('f', '\x0c'), ('r', '\r'), ('e', '\x1b'), (' ', ' '), ('"', '"'),
    ('\\', '\\'), ('/', '/'), ('N', '\x85'), ('_', '\xa0'), ('L', '\u2028'), ('P', '\u2029')]

/-- How many hexadecimal digits follow the letter of an escape. -/
def digitCount? (letter : Char) : Option Nat :=
  if letter = 'x' then some 2 else if letter = 'u' then some 4
  else if letter = 'U' then some 8 else none

/-- The breaks after a line break, blanks between them dropped. A document
mark must not follow. -/
def breaks : Reader Text :=
  many do
    require !(← atDocumentMark)
    skipWhile isBlank
    lineBreak?

/-- What an escape stands for; its backslash is taken already. -/
def escape : Reader Text := do
  match ← peek with
  | none => throw .malformed
  | some c =>
    match simpleEscapes.lookup c with
    | some meaning => skip 1; return [meaning]
    | none =>
      match digitCount? c with
      | some count =>
        skip 1
        let digits ← take count
        require (digits.length == count && digits.all isHexDigit)
        match Text.toNat? 16 digits with
        | some n => if n ≤ 0x10FFFF then return [Char.ofNat n] else throw .impossible
        | none => throw .malformed
      | none =>
        match ← lineBreak? with
        | some _ => breaks
        | none => throw .malformed

/-- One piece of a quoted scalar without blanks. -/
def piece? (double : Bool) : Reader (Option Text) := do
  let plain ← takeWhile fun c => !(c == '\'' || c == '"' || c == '\\' || isBlank c || isBreak c)
  if !plain.isEmpty then return some plain
  match (← get).rest with
  | '\'' :: '\'' :: _ => if double then skip 1; return some ['\''] else skip 2; return some ['\'']
  | '\'' :: _ => if double then skip 1; return some ['\''] else return none
  | '"' :: _ => if double then return none else skip 1; return some ['"']
  | '\\' :: _ =>
    skip 1
    if double then return some (← escape) else return some ['\\']
  | _ => return none

/-- What blanks and line breaks inside a quoted scalar read as. -/
def gap : Reader Text := do
  let blanks ← takeWhile isBlank
  match ← peek with
  | none => throw .malformed
  | some _ =>
    match ← lineBreak? with
    | none => return blanks
    | some b =>
      let more ← breaks
      return (if b ≠ '\n' then [b] else if more.isEmpty then [' '] else []) ++ more

/-- A quoted scalar, from its opening to its closing mark. -/
def quoted (double : Bool) : Reader Text := do
  let mark := if double then '"' else '\''
  skip 1
  let first ← many (piece? double)
  let more ← many do
    if (← peek) == some mark then return none
    let blanks ← gap
    return some (blanks ++ (← many (piece? double)).flatten)
  skip 1
  return first.flatten ++ more.flatten

end TextDomain.Yaml.Scalar
