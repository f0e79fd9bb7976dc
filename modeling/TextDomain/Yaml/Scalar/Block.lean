import TextDomain.Yaml.Cursor

/-!
# Block scalars

A block scalar is a run of lines that are indented alike. Literal scalars keep
their line breaks; in folded ones a break between two lines that begin with
something other than a blank reads as a space. A sign after the indicator says
what becomes of the breaks at the end: all are kept, none is, or, without a
sign, just one. A digit gives the indentation, which else is that of the first
line.
-/

namespace TextDomain.Yaml.Scalar

open Reader

/-- What becomes of the line breaks at the end of a block scalar. -/
inductive Chomping where
  /-- All are kept. -/
  | keep
  /-- One is kept. -/
  | clip
  /-- None is kept. -/
  | strip
deriving DecidableEq

/-- The sign that says what becomes of the last breaks. -/
def chomping? : Reader (Option Chomping) := do
  match ← peek with
  | some '+' => skip 1; return some .keep
  | some '-' => skip 1; return some .strip
  | _ => return none

/-- The digit that gives the indentation; it is not zero. -/
def indentDigit? : Reader (Option Nat) := do
  match ← peek with
  | some c =>
    if c.isDigit then
      require (c != '0')
      skip 1
      return some (c.toNat - '0'.toNat)
    else return none
  | none => return none

/-- The signs after the indicator, in either order. -/
def blockHeader : Reader (Chomping × Option Nat) := do
  let header ← do
    match ← chomping? with
    | some chomping => pure (chomping, ← indentDigit?)
    | none =>
      match ← indentDigit? with
      | some n => pure ((← chomping?).getD .clip, some n)
      | none => pure (.clip, none)
  require (endsPart (← peek))
  skipRestOfLine
  return header

/-- The empty lines at the beginning, and the greatest column reached by
spaces. -/
def leadingBreaks : Nat → Nat → Reader (Text × Nat)
  | 0, width => return ([], width)
  | fuel + 1, width => do
    skipWhile (· == ' ')
    let width := max width (← get).column
    match ← lineBreak? with
    | none => return ([], width)
    | some b =>
      let (more, width) ← leadingBreaks fuel width
      return (b :: more, width)

/-- Skips spaces up to a column. -/
def skipIndent (indent : Nat) : Reader Unit := do
  let here ← get
  skip (min (indent - here.column) (here.rest.takeWhile (· == ' ')).length)

/-- The empty lines here, each indented by `indent` at most. -/
def emptyLines (indent : Nat) : Reader Text := do
  skipIndent indent
  many do
    match ← lineBreak? with
    | none => return none
    | some b =>
      skipIndent indent
      return some b

/-- Whether a line of the scalar begins here. -/
def atBlockLine (indent : Nat) : Reader Bool := do
  let here ← get
  return here.column == indent && !here.rest.isEmpty

/-- What the break between two lines reads as. -/
def foldedBreak (folded firstFlush nextFlush : Bool) (b : Text) (empty : Text) : Text :=
  if folded && b == ['\n'] && firstFlush && nextFlush then
    (if empty.isEmpty then [' '] else [])
  else b

/-- The lines of a block scalar from here on; the break that ends the last of
them, and the empty lines after it. -/
def blockLines (folded : Bool) (indent : Nat) : Nat → Text → Reader (Text × Text × Text)
  | 0, empty => return ([], [], empty)
  | fuel + 1, empty => do
    if !(← atBlockLine indent) then return ([], [], empty)
    let flush := !isOne isBlank (← peek)
    let line ← takeWhile (!isBreak ·)
    let b := (← lineBreak?).toList
    let next ← emptyLines indent
    if ← atBlockLine indent then
      let middle := foldedBreak folded flush (!isOne isBlank (← peek)) b next
      let (more, last, rest) ← blockLines folded indent fuel next
      return (empty ++ line ++ middle ++ more, last, rest)
    else return (empty ++ line, b, next)

/-- A block scalar below the column `parent`, from its indicator on. -/
def block (folded : Bool) (parent : Int) : Reader Text := do
  skip 1
  let (chomping, digit) ← blockHeader
  let least := max (parent + 1) 1
  let (empty, indent) ← do
    match digit with
    | some n => pure (← emptyLines (least + n - 1).toNat, (least + n - 1).toNat)
    | none =>
      let (empty, width) ← leadingBreaks ((← get).rest.length + 1) 0
      pure (empty, max least.toNat width)
  let (lines, last, trailing) ← blockLines folded indent ((← get).rest.length + 1) empty
  return match chomping with
    | .keep => lines ++ last ++ trailing
    | .clip => lines ++ last
    | .strip => lines

end TextDomain.Yaml.Scalar
