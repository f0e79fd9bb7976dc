import TextDomain.Text.Basic

/-!
# Pieces of string literals

A piece is one token: letters that say how to read it, a quote of one or three
characters, a body, and the quote again. A string literal is one piece or
several side by side.

`splitPiece?` finds the piece at the beginning of a text, which is how the
lexer recognises strings. `decode?` reads the escapes of a body.

Escapes are read from left to right. A backslash before a line break stands
for nothing, before a quote or a backslash for that character, before the
letters `a b f n r t v` for a control character; up to three octal digits, or
`x`, `u`, `U` with two, four, eight hexadecimal digits, stand for the code
point they denote; before any other character the backslash stands for itself.
Names of characters are not read.
-/

namespace TextDomain.Literal

/-! ## Recognising a piece -/

/-- One token of a string literal. -/
structure Piece where
  /-- The letters before the quote, as they are written. -/
  letters : Text
  /-- The quote character. -/
  mark : Char
  /-- Whether the quote is three characters wide. -/
  wide : Bool
  /-- What stands between the quotes. -/
  body : Text

namespace Piece

/-- Whether the piece has a letter, in either case. -/
def hasLetter (p : Piece) (c : Char) : Bool := p.letters.any fun l => l.toLower == c

/-- Whether the piece denotes bytes. -/
def isBytes (p : Piece) : Bool := p.hasLetter 'b'

/-- Whether backslashes stand for themselves. -/
def isRaw (p : Piece) : Bool := p.hasLetter 'r'

/-- Whether the body has replacement fields. -/
def isFormatted (p : Piece) : Bool := p.hasLetter 'f'

/-- The width of the quote. -/
def quoteWidth (p : Piece) : Nat := if p.wide then 3 else 1

end Piece

/-- The letters that may stand before a quote, in lower case. -/
def letterGroups : List Text :=
  [[], ['r'], ['u'], ['b'], ['f'], ['b', 'r'], ['r', 'b'], ['f', 'r'], ['r', 'f']]

/-- Whether letters may stand before a quote. -/
def isLetterGroup (letters : Text) : Bool := letterGroups.contains (Text.lowerAscii letters)

/-- Whether a character is a quote character. -/
def isMark (c : Char) : Bool := c == '\'' || c == '"'

/-- The body up to a closing quote of one character, and the text after the
quote. A line break before the quote is an error; a character after a backslash
closes nothing. -/
def narrowBody? (mark : Char) : Text → Option (Text × Text)
  | [] => none
  | '\\' :: c :: rest => (narrowBody? mark rest).map fun (b, r) => ('\\' :: c :: b, r)
  | c :: rest =>
    if c = mark then some ([], rest)
    else if c = '\n' then none
    else (narrowBody? mark rest).map fun (b, r) => (c :: b, r)

/-- The body up to a closing quote of three characters, and the text after the
quote. -/
def wideBody? (mark : Char) : Text → Option (Text × Text)
  | [] => none
  | '\\' :: c :: rest => (wideBody? mark rest).map fun (b, r) => ('\\' :: c :: b, r)
  | c :: rest =>
    if c = mark && Text.startsWith [mark, mark] rest then some ([], rest.drop 2)
    else (wideBody? mark rest).map fun (b, r) => (c :: b, r)

/-- The body after the letters and the text after the piece. -/
def quotedBody? (letters : Text) : Text → Option (Piece × Text)
  | c :: rest =>
    if Text.startsWith [c, c] rest then
      (wideBody? c (rest.drop 2)).map fun (b, r) => (⟨letters, c, true, b⟩, r)
    else (narrowBody? c rest).map fun (b, r) => (⟨letters, c, false, b⟩, r)
  | [] => none

/-- The number of letters at the beginning of a text that belong to a string
literal, if one begins there. -/
def literalLetters? : Text → Option Nat
  | a :: b :: c :: _ =>
    if isMark a then some 0
    else if isMark b then (if isLetterGroup [a] then some 1 else none)
    else if isMark c then (if isLetterGroup [a, b] then some 2 else none)
    else none
  | [a, b] =>
    if isMark a then some 0
    else if isMark b && isLetterGroup [a] then some 1 else none
  | [a] => if isMark a then some 0 else none
  | [] => none

/-- The piece at the beginning of a text and the text after it. -/
def splitPiece? (t : Text) : Option (Piece × Text) :=
  match literalLetters? t with
  | some n => quotedBody? (t.take n) (t.drop n)
  | none => none

/-! ## Reading escapes -/

/-- The character of a code point. A surrogate, which no text can hold, is read
as the replacement character. -/
def charOf (n : Nat) : Char :=
  if 0xD800 ≤ n ∧ n ≤ 0xDFFF then Char.ofNat 0xFFFD else Char.ofNat n

/-- What an escape denotes, and how many characters after the backslash belong
to it. -/
structure Escape where
  /-- The text denoted. -/
  text : Text
  /-- The characters after the backslash. -/
  width : Nat

/-- The escape of `count` hexadecimal digits after a letter. -/
def hexEscape? (count : Nat) (t : Text) : Option Escape :=
  if (t.take count).length < count then none
  else match Text.toNat? 16 (t.take count) with
    | some n => if n ≤ 0x10FFFF then some ⟨[charOf n], count + 1⟩ else none
    | none => none

/-- Whether a character is an octal digit. -/
def isOctal (c : Char) : Bool := decide ('0' ≤ c ∧ c ≤ '7')

/-- The escape after a backslash; there is none where it is malformed. -/
def escape? : Text → Option Escape
  | [] => some ⟨['\\'], 0⟩
  | c :: rest =>
    if c = '\n' then some ⟨[], 1⟩
    else if c = '\\' ∨ c = '\'' ∨ c = '"' then some ⟨[c], 1⟩
    else if c = 'a' then some ⟨['\x07'], 1⟩
    else if c = 'b' then some ⟨['\x08'], 1⟩
    else if c = 'f' then some ⟨['\x0c'], 1⟩
    else if c = 'n' then some ⟨['\n'], 1⟩
    else if c = 'r' then some ⟨['\r'], 1⟩
    else if c = 't' then some ⟨['\t'], 1⟩
    else if c = 'v' then some ⟨['\x0b'], 1⟩
    else if c = 'x' then hexEscape? 2 rest
    else if c = 'u' then hexEscape? 4 rest
    else if c = 'U' then hexEscape? 8 rest
    else if c = 'N' then none
    else if isOctal c then
      let digits := c :: (rest.take 2).takeWhile isOctal
      some ⟨[charOf ((Text.toNat? 8 digits).getD 0)], digits.length⟩
    else some ⟨['\\', c], 1⟩

/-- Decodes what is left after `skip` more characters, which belong to an
escape already read. -/
def decodeAfter? : Nat → Text → Option Text
  | _, [] => some []
  | skip + 1, _ :: rest => decodeAfter? skip rest
  | 0, c :: rest =>
    if c = '\\' then
      match escape? rest with
      | some e => (decodeAfter? e.width rest).map (e.text ++ ·)
      | none => none
    else (decodeAfter? 0 rest).map (c :: ·)

/-- The value of a body with its escapes read. -/
def decode? (body : Text) : Option Text := decodeAfter? 0 body

/-- Whether every `x` escape in a body of bytes has its two digits, after
`skip` more characters. -/
def byteEscapesAfter : Nat → Text → Bool
  | _, [] => true
  | skip + 1, _ :: rest => byteEscapesAfter skip rest
  | 0, c :: rest =>
    if c = '\\' then
      match rest with
      | 'x' :: a :: b :: _ =>
        (Text.hexValue? a).isSome && (Text.hexValue? b).isSome && byteEscapesAfter 3 rest
      | 'x' :: _ => false
      | _ => byteEscapesAfter 1 rest
    else byteEscapesAfter 0 rest

namespace Piece

/-- The value of a plain piece. -/
def value? (p : Piece) : Option Text := if p.isRaw then some p.body else decode? p.body

/-- Whether a piece of bytes can be read: ASCII alone, escapes well-formed. -/
def isReadableBytes (p : Piece) : Bool :=
  p.body.all (fun c => decide (c.toNat < 0x80)) && (p.isRaw || byteEscapesAfter 0 p.body)

end Piece

end TextDomain.Literal
