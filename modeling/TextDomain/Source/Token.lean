import TextDomain.Literal.Piece
import TextDomain.Source.Numeral
import TextDomain.Source.Position

/-!
# Tokens of Python source

Source is read as a sequence of tokens: names, numerals, pieces of string
literals, operators, and three kinds of token for layout. A logical line ends
with a line break outside brackets; lines with nothing but blanks or a comment
count as no lines. Where a logical line is indented deeper than the one before,
an `indent` token comes first; where it is indented less, a `dedent` token for
every level left. A backslash joins a line with the next.

Blanks of an indentation are measured twice, with tabs at multiples of eight
columns and of one; the two measures have to agree on which of two lines is
deeper. A form feed starts the measure anew.

`Token.lex?` answers nothing where the text is no sequence of tokens.
-/

namespace TextDomain

/-- The kinds of token. -/
inductive TokenKind where
  /-- A name or keyword. -/
  | name
  /-- A numeral. -/
  | number
  /-- A piece of a string literal. -/
  | string
  /-- An operator, bracket or separator. -/
  | sign
  /-- The end of a logical line. -/
  | newline
  /-- The beginning of an indented block. -/
  | indent
  /-- The end of an indented block. -/
  | dedent
  /-- The end of the source. -/
  | finish
deriving DecidableEq

/-- A token. -/
structure Token where
  /-- What it is. -/
  kind : TokenKind
  /-- How it is written; empty for layout. -/
  text : Text
  /-- Where it stands. -/
  extent : Extent

namespace Token

/-! ## Signs -/

/-- The signs of three characters. -/
def signs₃ : List Text := ["**=", "//=", ">>=", "<<=", "..."].map String.toList

/-- The signs of two characters. -/
def signs₂ : List Text :=
  ["!=", "%=", "&=", "**", "*=", "+=", "-=", "->", "//", "/=", ":=", "<<", "<=", "==", ">=",
    ">>", "\x40=", "^=", "|="].map String.toList

/-- The signs of one character. -/
def signs₁ : Text := "%&()*+,-./:;<=>[]\x40^|~\x7b\x7d".toList

/-- The sign at the beginning of a text, the longest possible. -/
def sign? (t : Text) : Option Text :=
  if signs₃.contains (t.take 3) then some (t.take 3)
  else if signs₂.contains (t.take 2) then some (t.take 2)
  else if t.take 2 = ['<', '>'] then none
  else match t with
    | c :: _ => if signs₁.contains c then some [c] else none
    | [] => none

/-! ## Lexemes -/

/-- Whether a name may begin with a character, before it is looked at as a
whole. -/
def mayStartName (c : Char) : Bool :=
  decide (0x80 ≤ c.toNat) || Text.isAsciiIdentifierStart c

/-- Whether a numeral begins a text. -/
def startsNumeral : Text → Bool
  | '.' :: c :: _ => c.isDigit
  | c :: _ => c.isDigit
  | [] => false

/-- The kind of the token at the beginning of a text and its length. -/
def lexeme? (t : Text) : Option (TokenKind × Nat) :=
  match Literal.literalLetters? t with
  | some _ => (Literal.splitPiece? t).map fun (_, rest) => (.string, t.length - rest.length)
  | none =>
    match t with
    | [] => none
    | c :: _ =>
      if mayStartName c then
        let name := t.takeWhile Numeral.isNameChar
        if name.all (fun c => decide (c.toNat < 0x80)) || Text.isIdentifier name then
          some (.name, name.length)
        else none
      else if startsNumeral t then
        (Numeral.splitNumeral? t).map fun (digits, _) => (.number, digits.length)
      else (sign? t).map fun s => (.sign, s.length)

/-! ## Layout -/

/-- An indentation, measured with wide and with narrow tabs. -/
structure Indentation where
  /-- The width with tabs at multiples of eight columns. -/
  wide : Nat
  /-- The width with tabs at every column. -/
  narrow : Nat

/-- Measures the indentation of a line. `joined` is the width before the first
backslash that joins the line with the next, zero if there is none; that width
then counts. -/
def measure? (indentation : Indentation) (joined : Nat) : Text → Option (Indentation × Text)
  | [] => some (⟨if joined = 0 then indentation.wide else joined,
      if joined = 0 then indentation.narrow else joined⟩, [])
  | '\\' :: '\n' :: rest =>
    if rest.isEmpty then none
    else measure? indentation (if joined = 0 then indentation.wide else joined) rest
  | c :: rest =>
    if c = ' ' then measure? ⟨indentation.wide + 1, indentation.narrow + 1⟩ joined rest
    else if c = '\t' then
      measure? ⟨(indentation.wide / 8 + 1) * 8, indentation.narrow + 1⟩ joined rest
    else if c = '\x0c' then measure? ⟨0, 0⟩ joined rest
    else if c = '\\' then none
    else some (⟨if joined = 0 then indentation.wide else joined,
      if joined = 0 then indentation.narrow else joined⟩, c :: rest)

/-- The levels that remain after leaving those deeper than a width, and how
many were left. -/
def leaveLevels (width : Nat) : List Indentation → Nat × List Indentation
  | [] => (0, [])
  | level :: outer =>
    if width < level.wide then
      let (n, rest) := leaveLevels width outer
      (n + 1, rest)
    else (0, level :: outer)

/-- What an indentation means where the given levels are open, innermost
first: the kinds of token that announce it, and the levels open then. -/
def layout? (levels : List Indentation) (new : Indentation) :
    Option (List TokenKind × List Indentation) :=
  match levels with
  | [] => none
  | current :: _ =>
    if new.wide = current.wide then
      if new.narrow = current.narrow then some ([], levels) else none
    else if current.wide < new.wide then
      if levels.length < 100 ∧ current.narrow < new.narrow then
        some ([.indent], new :: levels)
      else none
    else
      match leaveLevels new.wide levels with
      | (n, level :: outer) =>
        if level.wide = new.wide ∧ level.narrow = new.narrow then
          some (List.replicate n .dedent, level :: outer)
        else none
      | (_, []) => none

/-! ## The lexer -/

/-- The state of the lexer. -/
structure Lexing where
  /-- What is left. -/
  cursor : Cursor
  /-- The open levels of indentation, innermost first. -/
  levels : List Indentation
  /-- The open brackets, innermost first. -/
  brackets : List Char
  /-- Whether a line begins here. -/
  atLineStart : Bool

/-- The bracket that closes a bracket. -/
def closing : Char → Char
  | '(' => ')'
  | '[' => ']'
  | _ => '}'

/-- The open brackets after a sign. Brackets have to match, and at most two
hundred may be open. -/
def bracketsAfter? (sign : Text) (open_ : List Char) : Option (List Char) :=
  match sign with
  | [c] =>
    if c = '(' ∨ c = '[' ∨ c = '{' then
      if open_.length < 200 then some (c :: open_) else none
    else if c = ')' ∨ c = ']' ∨ c = '}' then
      match open_ with
      | b :: rest => if closing b = c then some rest else none
      | [] => none
    else some open_
  | _ => some open_

/-- Whether a character separates tokens on a line. -/
def isSpace (c : Char) : Bool := c == ' ' || c == '\t' || c == '\x0c'

/-- Begins a line: the layout tokens that announce it, and the state after its
indentation. Inside brackets and on lines without content, indentation means
nothing. -/
def startLine? (s : Lexing) : Option (List Token × Lexing) := do
  let (indentation, rest) ← measure? ⟨0, 0⟩ 0 s.cursor.rest
  let cursor := s.cursor.advance (s.cursor.rest.length - rest.length)
  let blank := match rest with
    | c :: _ => c == '#' || c == '\n'
    | [] => false
  if blank then
    let cursor := cursor.skipWhile (· != '\n')
    some ([], { s with cursor := cursor.advance 1 })
  else if !s.brackets.isEmpty then some ([], { s with cursor := cursor, atLineStart := false })
  else
    let (kinds, levels) ← layout? s.levels indentation
    let here : Extent := ⟨cursor.position, cursor.position⟩
    some (kinds.map fun k => ⟨k, [], here⟩,
      { s with cursor := cursor, levels := levels, atLineStart := false })

/-- What one step of the lexer does. -/
inductive Step where
  /-- It yields tokens and goes on. -/
  | go (tokens : List Token) (next : Lexing)
  /-- It yields the last token. -/
  | stop (token : Token)

/-- One step within a line. -/
def stepInLine? (s : Lexing) : Option Step :=
  let cursor := s.cursor.skipWhile isSpace
  let here := cursor.position
  match cursor.rest with
  | [] => if s.brackets.isEmpty then some (.stop ⟨.finish, [], ⟨here, here⟩⟩) else none
  | '#' :: _ => some (.go [] { s with cursor := cursor.skipWhile (· != '\n') })
  | '\n' :: _ =>
    let next := { s with cursor := cursor.advance 1, atLineStart := true }
    if s.brackets.isEmpty then some (.go [⟨.newline, [], ⟨here, here⟩⟩] next)
    else some (.go [] next)
  | '\\' :: '\n' :: rest =>
    if rest.isEmpty then none else some (.go [] { s with cursor := cursor.advance 2 })
  | t => do
    let (kind, length) ← lexeme? t
    let text := t.take length
    let brackets ← if kind = .sign then bracketsAfter? text s.brackets else some s.brackets
    let next := cursor.advance length
    some (.go [⟨kind, text, ⟨here, next.position⟩⟩] { s with cursor := next, brackets := brackets })

/-- One step of the lexer. -/
def step? (s : Lexing) : Option Step :=
  if s.atLineStart then (startLine? s).map fun (tokens, next) => .go tokens next
  else stepInLine? s

/-- The tokens from a state on, in at most the given number of steps. -/
def lexFrom? : Nat → Lexing → Option (List Token)
  | 0, _ => none
  | steps + 1, s =>
    match step? s with
    | none => none
    | some (.stop token) => some [token]
    | some (.go tokens next) => (lexFrom? steps next).map (tokens ++ ·)

/-- The tokens of a text that begins at a position. Every step but those at
line starts consumes a character, so twice the length is steps enough. -/
def lexAt? (start : Position) (t : Text) : Option (List Token) :=
  lexFrom? (2 * t.length + 3) ⟨⟨t, start⟩, [⟨0, 0⟩], [], true⟩

/-- The tokens of a source whose lines end with LF. A line break is added
where the last line has none. -/
def lex? (t : Text) : Option (List Token) :=
  lexAt? .origin (if t.getLast? = some '\n' then t else t ++ ['\n'])

end Token

end TextDomain
