import TextDomain.Literal.Piece
import TextDomain.Source.Position

/-!
# Replacement fields

The body of a formatted piece is plain text with replacement fields in braces;
outside of fields a brace is written twice. A field holds an expression and
then, optionally, an equals sign, a conversion (`!r`, `!s` or `!a`), and after
a colon a format, which is again plain text with fields, but in which braces
cannot be doubled. Fields nest two deep.

The expression ends at the first `!`, `:`, `=` or closing brace outside quotes
and brackets that is not part of a comparison. It must not contain a
backslash or a hash sign, and brackets in it must match.

`fields?` finds the expressions of all fields, with their positions in the
source, in the order in which they are written.
-/

namespace TextDomain.Literal

/-- The expression of a replacement field. -/
structure Field where
  /-- The text of the expression. -/
  source : Text
  /-- The position of the brace before it. -/
  position : Position

namespace Field

/-! ## Plain text -/

/-- How a run of plain text ends. -/
inductive PlainEnd where
  /-- With a doubled brace; more plain text follows. -/
  | doubled
  /-- At the beginning or the end of a field, or with the body. -/
  | boundary
deriving DecidableEq

/-- The number of characters of plain text, how the run ends, and how many
characters to pass over before going on. `inFormat` says that braces cannot be
doubled. A closing brace outside of fields is an error. -/
def plainRun? (raw inFormat : Bool) (count : Nat) : Text → Option (Nat × PlainEnd × Nat)
  | [] => some (count, .boundary, count)
  | c :: rest =>
    if c = '{' ∨ c = '}' then
      if inFormat then some (count, .boundary, count)
      else if rest.head? = some c then some (count + 1, .doubled, count + 2)
      else if c = '}' then none
      else some (count, .boundary, count)
    else if c = '\\' && !raw then
      match rest with
      | [] => some (count + 1, .boundary, count + 1)
      | d :: more =>
        if d = '{' ∨ d = '}' then plainRun? raw inFormat (count + 1) (d :: more)
        else plainRun? raw inFormat (count + 2) more
    else plainRun? raw inFormat (count + 1) rest

/-! ## Expressions -/

/-- Where the scan of an expression stands: inside a quote, whose width it
knows, and inside which brackets, innermost first. -/
structure Scan where
  /-- The quote character and whether the quote is wide, inside quotes. -/
  quote : Option (Char × Bool)
  /-- The open brackets. -/
  brackets : List Char

/-- Whether two brackets match. -/
def bracketsMatch (opening closing : Char) : Bool :=
  (opening == '(' && closing == ')') || (opening == '[' && closing == ']') ||
    (opening == '{' && closing == '}')

/-- The length of the expression at the beginning of a text, counted from
`count`, after `skip` more characters that have been dealt with. It ends before
the character that ends the expression; the body must go on there. -/
def expressionLength? (count skip : Nat) (s : Scan) : Text → Option Nat
  | [] => none
  | c :: rest =>
    match skip with
    | skip + 1 => expressionLength? (count + 1) skip s rest
    | 0 =>
      if c = '\\' then none
      else
        match s.quote with
        | some (mark, wide) =>
          if c = mark then
            if wide then
              if Text.startsWith [c, c] rest then
                expressionLength? (count + 1) 2 { s with quote := none } rest
              else expressionLength? (count + 1) 0 s rest
            else expressionLength? (count + 1) 0 { s with quote := none } rest
          else expressionLength? (count + 1) 0 s rest
        | none =>
          if isMark c then
            if Text.startsWith [c, c] rest then
              expressionLength? (count + 1) 2 { s with quote := some (c, true) } rest
            else expressionLength? (count + 1) 0 { s with quote := some (c, false) } rest
          else if c = '(' ∨ c = '[' ∨ c = '{' then
            if s.brackets.length < 200 then
              expressionLength? (count + 1) 0 { s with brackets := c :: s.brackets } rest
            else none
          else if c = '#' then none
          else
            match s.brackets with
            | [] =>
              if (c = '!' ∨ c = '=' ∨ c = '<' ∨ c = '>') && rest.head? = some '=' then
                expressionLength? (count + 1) 1 s rest
              else if c = '<' ∨ c = '>' then expressionLength? (count + 1) 0 s rest
              else if c = '!' ∨ c = ':' ∨ c = '}' ∨ c = '=' then some count
              else if c = ')' ∨ c = ']' then none
              else expressionLength? (count + 1) 0 s rest
            | b :: outer =>
              if c = ')' ∨ c = ']' ∨ c = '}' then
                if bracketsMatch b c then
                  expressionLength? (count + 1) 0 { s with brackets := outer } rest
                else none
              else expressionLength? (count + 1) 0 s rest

/-- Whether an expression has nothing but blanks in it. -/
def isEmptyExpression (t : Text) : Bool :=
  t.all fun c => c == ' ' || c == '\t' || c == '\n' || c == '\x0c'

/-- Whether a blank may stand after the equals sign of a field. -/
def isFieldSpace (c : Char) : Bool :=
  c == ' ' || c == '\t' || c == '\n' || c == '\r' || c == '\x0b' || c == '\x0c'

/-- Passes over the optional equals sign after an expression. -/
def afterEquals (c : Cursor) : Cursor :=
  match c.rest with
  | '=' :: _ => (c.advance 1).skipWhile isFieldSpace
  | _ => c

/-- Passes over the optional conversion. -/
def afterConversion? (c : Cursor) : Option Cursor :=
  match c.rest with
  | '!' :: k :: _ =>
    if k = 's' ∨ k = 'r' ∨ k = 'a' then some (c.advance 2) else none
  | '!' :: [] => none
  | _ => some c

/-! ## Bodies -/

/-- The fields of a body or of a format that is `depth` fields deep, and what
follows it: nothing after a body, a closing brace after a format. The first
argument bounds the number of steps, each of which passes over a character. -/
def scan? (raw : Bool) : Nat → Nat → Cursor → Option (List Field × Cursor)
  | 0, _, _ => none
  | steps + 1, depth, c => do
    let (length, how, width) ← plainRun? raw (depth != 0) 0 c.rest
    if !raw && (decode? (c.rest.take length)).isNone then none
    let next := c.advance width
    match how, next.rest with
    | .doubled, _ => scan? raw steps depth next
    | .boundary, '{' :: _ =>
      if 2 ≤ depth then none
      let inner := next.advance 1
      let length ← expressionLength? 0 0 ⟨none, []⟩ inner.rest
      let source := inner.rest.take length
      if isEmptyExpression source then none
      let field : Field := ⟨source, next.position⟩
      let tail ← afterConversion? (afterEquals (inner.advance length))
      let (nested, close) ← match tail.rest with
        | ':' :: _ => scan? raw steps (depth + 1) (tail.advance 1)
        | _ => some ([], tail)
      match close.rest with
      | '}' :: _ =>
        let (more, finish) ← scan? raw steps depth (close.advance 1)
        some (field :: nested ++ more, finish)
      | _ => none
    | .boundary, _ => some ([], next)

end Field

/-- The fields of the body of a formatted piece that begins at a position. -/
def fields? (raw : Bool) (body : Text) (start : Position) : Option (List Field) :=
  match Field.scan? raw (body.length + 1) 0 ⟨body, start⟩ with
  | some (fields, _) => some fields
  | none => none

end TextDomain.Literal
