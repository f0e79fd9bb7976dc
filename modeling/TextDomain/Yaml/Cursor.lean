import TextDomain.Text.Basic

/-!
# Reading a document character by character

A cursor is a place in a document: what is left of the text, and the offset,
line and column reached. The readers of tokens thread it through a state that
may end in a fault.

Lines end with LF, CR, CR LF, NEL, LS or PS. A byte order mark takes no
column.

## Main results

* `length_rest_next` — moving on by one character leaves one less.
-/

namespace TextDomain.Yaml

/-- Why a text has no value as a document. -/
inductive Fault where
  /-- It is not a well-formed document of known types. -/
  | malformed
  /-- It holds a number, a date or a code point that does not exist. -/
  | impossible
  /-- It holds a word tagged as a truth value that is none. -/
  | notBoolean (word : Text)
  /-- It holds nothing, tagged as a number. -/
  | emptyNumber
  /-- It holds a text tagged as a timestamp that is none. -/
  | notTimestamp
  /-- It holds a sexagesimal fraction whose groups weigh more than any double. -/
  | tooManyGroups
deriving DecidableEq

/-! ## Classes of characters

A class says also whether the end of the document belongs to it. -/

/-- Whether a character ends a line. -/
def isBreak (c : Char) : Bool :=
  c == '\n' || c == '\r' || c == '\x85' || c == '\u2028' || c == '\u2029'

/-- Whether a character is a space or a tab. -/
def isBlank (c : Char) : Bool := c == ' ' || c == '\t'

/-- Whether a line ends here. -/
def endsLine : Option Char → Bool
  | none => true
  | some c => isBreak c

/-- Whether a line ends here or a space follows. -/
def endsPart : Option Char → Bool
  | none => true
  | some c => c == ' ' || isBreak c

/-- Whether a line ends here or a blank follows. -/
def endsWord : Option Char → Bool
  | none => true
  | some c => isBlank c || isBreak c

/-- Whether the next character belongs to a class. -/
def isOne (p : Char → Bool) : Option Char → Bool
  | none => false
  | some c => p c

/-- Whether a character may occur in the name of an anchor or a directive. -/
def isNameChar (c : Char) : Bool := c.isAlphanum || c == '-' || c == '_'

/-- Whether a character is a hexadecimal digit. -/
def isHexDigit (c : Char) : Bool := (Text.hexValue? c).isSome

/-! ## Cursors -/

/-- A place in a document. -/
structure Cursor where
  /-- What is left. -/
  rest : Text
  /-- How many characters came before. -/
  index : Nat := 0
  /-- How many lines came before. -/
  line : Nat := 0
  /-- How many columns came before on the line. -/
  column : Nat := 0

namespace Cursor

/-- Moves on by one character; at the end of the text nothing happens. -/
def next (c : Cursor) : Cursor :=
  match c.rest with
  | [] => c
  | '\r' :: '\n' :: rest => ⟨'\n' :: rest, c.index + 1, c.line, c.column + 1⟩
  | x :: rest =>
    if isBreak x then ⟨rest, c.index + 1, c.line + 1, 0⟩
    else ⟨rest, c.index + 1, c.line, if x = '\ufeff' then c.column else c.column + 1⟩

/-- Moves on by some characters. -/
def advance : Nat → Cursor → Cursor
  | 0, c => c
  | n + 1, c => advance n c.next

/-- Moving on by one character leaves one less. -/
theorem length_rest_next (c : Cursor) : c.next.rest.length = c.rest.length - 1 := by
  unfold next
  split
  · simp [*]
  · simp [*]
  · split <;> simp [*]

end Cursor

/-! ## Readers -/

/-- A step of reading: it moves the cursor and may end in a fault. -/
abbrev Reader := StateT Cursor (Except Fault)

namespace Reader

/-- The character `n` places ahead. -/
def peekAt (n : Nat) : Reader (Option Char) := do return (← get).rest[n]?

/-- The next character. -/
def peek : Reader (Option Char) := peekAt 0

/-- Moves on by some characters. -/
def skip (n : Nat) : Reader Unit := modify (Cursor.advance n)

/-- Takes the next characters. -/
def take (n : Nat) : Reader Text := do
  let t := (← get).rest.take n
  skip n
  return t

/-- Takes characters as long as they belong to a class. -/
def takeWhile (p : Char → Bool) : Reader Text := do
  take ((← get).rest.takeWhile p).length

/-- Skips characters as long as they belong to a class. -/
def skipWhile (p : Char → Bool) : Reader Unit := do
  let _ ← takeWhile p

/-- Goes on only if the condition holds. -/
def require (condition : Bool) : Reader Unit :=
  if condition then pure () else throw .malformed

/-- What a line break means: LS and PS stand for themselves, all others for an
LF. Nothing is taken where no line ends. -/
def lineBreak? : Reader (Option Char) := do
  match (← get).rest with
  | '\r' :: '\n' :: _ => skip 2; return some '\n'
  | c :: _ =>
    if c = '\u2028' ∨ c = '\u2029' then skip 1; return some c
    else if isBreak c then skip 1; return some '\n'
    else return none
  | [] => return none

/-- Repeats a step while it yields something, the given number of times at
most. -/
def repeatAtMost {α : Type} (step : Reader (Option α)) : Nat → Reader (List α)
  | 0 => pure []
  | n + 1 => do
    match ← step with
    | none => return []
    | some a => return a :: (← repeatAtMost step n)

/-- Repeats a step that takes a character whenever it yields something. -/
def many {α : Type} (step : Reader (Option α)) : Reader (List α) := do
  repeatAtMost step ((← get).rest.length + 1)

/-- Skips spaces, a comment, and the line break after them. -/
def skipRestOfLine : Reader Unit := do
  skipWhile (· == ' ')
  if (← peek) == some '#' then skipWhile (!isBreak ·)
  require (endsLine (← peek))
  let _ ← lineBreak?

/-- Whether three hyphens or three points stand here as a word of their own. -/
def atDocumentMark : Reader Bool := do
  let word := (← get).rest.take 3
  return (word == ['-', '-', '-'] || word == ['.', '.', '.']) && endsWord (← peekAt 3)

end Reader

end TextDomain.Yaml
