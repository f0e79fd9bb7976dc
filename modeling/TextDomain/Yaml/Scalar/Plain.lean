import TextDomain.Yaml.Cursor

/-!
# Plain scalars

A plain scalar has no marks around it. It ends before a colon that a blank
follows, before a comment that a space precedes, and inside a flow collection
also before a comma, a question mark or a bracket. It may go on over several
lines: a single line break reads as a space, and of several breaks in a row
the first is dropped.
-/

namespace TextDomain.Yaml.Scalar

open Reader

/-- Whether a character has a meaning inside flow collections. -/
def isFlowSign (c : Char) : Bool :=
  c == ',' || c == '[' || c == ']' || c == '\x7b' || c == '\x7d'

/-- The part of a plain scalar without spaces, at the beginning of a text. -/
def plainWord (inFlow : Bool) : Text → Text
  | [] => []
  | c :: rest =>
    if isBlank c || isBreak c then []
    else if c == ':' && (endsWord rest.head? || inFlow && isOne isFlowSign rest.head?) then []
    else if inFlow && (isFlowSign c || c == '?') then []
    else c :: plainWord inFlow rest

/-- The line breaks after the first one, up to the next word. `none` where a
document mark ends the scalar. -/
def breaksBeforeWord : Nat → Reader (Option Text)
  | 0 => return some []
  | fuel + 1 => do
    skipWhile (· == ' ')
    match ← lineBreak? with
    | none => return some []
    | some b =>
      if ← atDocumentMark then return none
      else return (← breaksBeforeWord fuel).map (b :: ·)

/-- What lies between two words: what it reads as, and whether a line ended.
Nothing is between where the scalar is over. -/
def plainGap : Reader (Text × Bool) := do
  let spaces ← takeWhile (· == ' ')
  match ← lineBreak? with
  | none => return (spaces, false)
  | some b =>
    if ← atDocumentMark then return ([], true)
    match ← breaksBeforeWord ((← get).rest.length + 1) with
    | none => return ([], true)
    | some breaks =>
      let first := if b ≠ '\n' then [b] else if breaks.isEmpty then [' '] else []
      return (first ++ breaks, true)

/-- The rest of a plain scalar, what came before the next word being `gap`.
The answer says also whether the last thing taken was a line break. -/
def plainFrom (indent : Int) (inFlow : Bool) : Nat → Text → Reader (Text × Bool)
  | 0, _ => return ([], false)
  | fuel + 1, gap => do
    if (← peek) == some '#' then return ([], false)
    let word ← take (plainWord inFlow (← get).rest).length
    if word.isEmpty then return ([], false)
    let (next, ended) ← plainGap
    let here ← get
    if next.isEmpty || here.rest.head? == some '#' || (!inFlow && (here.column : Int) < indent) then
      return (gap ++ word, ended)
    let (more, endedLater) ← plainFrom indent inFlow fuel next
    return (gap ++ word ++ more, if more.isEmpty then ended else endedLater)

/-- A plain scalar that belongs deeper than the column `indent`. The answer
says also whether a line break was the last thing taken. -/
def plain (indent : Int) (inFlow : Bool) : Reader (Text × Bool) := do
  plainFrom (indent + 1) inFlow ((← get).rest.length + 1) []

end TextDomain.Yaml.Scalar
