import TextDomain.Yaml.Scalar.Block
import TextDomain.Yaml.Scalar.Plain
import TextDomain.Yaml.Scalar.Quoted
import TextDomain.Yaml.Tag

/-!
# The tokens of a document

A document is cut into signs, scalars, anchors, aliases and tags; indentation
shows as tokens that begin and end block collections.

The key of a mapping need not be announced. A token that might turn out to be
one is remembered as a candidate, and where a colon follows on the same line,
within 1024 characters, the announcement is put before it afterwards. Until
that is decided, the tokens from the candidate on do not count as read: a
fault in between comes before any fault in what these tokens would mean.
-/

namespace TextDomain.Yaml

/-- A token. -/
inductive Token where
  /-- A directive before a document. -/
  | directive (d : Directive)
  /-- The mark that begins a document. -/
  | documentStart
  /-- The mark that ends a document. -/
  | documentEnd
  /-- The end of the text. -/
  | finish
  /-- The beginning of a sequence shown by indentation. -/
  | blockSequenceStart
  /-- The beginning of a mapping shown by indentation. -/
  | blockMappingStart
  /-- The end of a collection shown by indentation. -/
  | blockEnd
  /-- An opening square bracket. -/
  | flowSequenceStart
  /-- A closing square bracket. -/
  | flowSequenceEnd
  /-- An opening brace. -/
  | flowMappingStart
  /-- A closing brace. -/
  | flowMappingEnd
  /-- A comma between the entries of a flow collection. -/
  | flowEntry
  /-- The hyphen before an entry of a sequence. -/
  | blockEntry
  /-- The beginning of a key. -/
  | key
  /-- The colon before a value. -/
  | value
  /-- A reference to an anchor. -/
  | alias (name : Text)
  /-- A name for the node that follows. -/
  | anchor (name : Text)
  /-- A tag for the node that follows. -/
  | tag (t : WrittenTag)
  /-- A scalar; a plain one may be of any type. -/
  | scalar (isPlain : Bool) (text : Text)
deriving DecidableEq

namespace Token

open Reader

/-! ## The state between two tokens -/

/-- A token that might be the first of a key. -/
structure Candidate where
  /-- How many brackets are open around it. -/
  depth : Nat
  /-- How many tokens come before it. -/
  number : Nat
  /-- Whether the line makes sense only if it is one. -/
  isRequired : Bool
  /-- The place where it begins. -/
  start : Cursor

/-- What has been read, and what that means for the rest. -/
structure Scanning where
  /-- The place reached. -/
  cursor : Cursor
  /-- The tokens read. -/
  tokens : List Token := []
  /-- How many brackets are open. -/
  depth : Nat := 0
  /-- The columns of the open block collections, the innermost first; `-1`
  stands for the document itself. -/
  indents : List Int := [-1]
  /-- Whether a key may begin at the next token. -/
  allowsKey : Bool := true
  /-- The candidates, at most one for each number of open brackets. -/
  candidates : List Candidate := []

namespace Scanning

/-- The column of the innermost block collection. -/
def indent (s : Scanning) : Int := s.indents.headD (-1)

/-- Adds a token. -/
def push (t : Token) (s : Scanning) : Scanning := { s with tokens := s.tokens ++ [t] }

/-- Puts a token behind the first `n` tokens. -/
def insert (n : Nat) (t : Token) (s : Scanning) : Scanning :=
  { s with tokens := s.tokens.take n ++ t :: s.tokens.drop n }

/-- The tokens whose meaning is settled: those before all candidates. -/
def settled (s : Scanning) : List Token :=
  s.tokens.take ((s.candidates.map (·.number)).foldl min s.tokens.length)

/-- Whether a candidate is out of reach of a colon at the cursor. -/
def isStale (s : Scanning) (k : Candidate) : Bool :=
  k.start.line != s.cursor.line || decide (1024 < s.cursor.index - k.start.index)

/-- Gives up the candidates that are out of reach. -/
def dropStale (s : Scanning) : Except Fault Scanning :=
  if s.candidates.any fun k => s.isStale k && k.isRequired then .error .malformed
  else .ok { s with candidates := s.candidates.filter (!s.isStale ·) }

/-- The candidate inside the innermost bracket. -/
def candidate? (s : Scanning) : Option Candidate := s.candidates.find? (·.depth == s.depth)

/-- The other candidates. -/
def otherCandidates (s : Scanning) : List Candidate :=
  s.candidates.filter (·.depth != s.depth)

/-- Gives up the candidate inside the innermost bracket. -/
def dropCandidate (s : Scanning) : Except Fault Scanning :=
  match s.candidate? with
  | some k =>
    if k.isRequired then .error .malformed
    else .ok { s with candidates := s.otherCandidates }
  | none => .ok s

/-- Remembers that the next token might begin a key. -/
def addCandidate (s : Scanning) : Except Fault Scanning :=
  if s.allowsKey then do
    let s ← s.dropCandidate
    let k : Candidate := ⟨s.depth, s.tokens.length,
      s.depth == 0 && s.indent == (s.cursor.column : Int), s.cursor⟩
    .ok { s with candidates := k :: s.candidates }
  else .ok s

/-- Ends the block collections that begin right of a column. -/
def unwind (column : Int) (s : Scanning) : Scanning :=
  if s.depth = 0 then
    let open_ := s.indents.takeWhile (column < ·)
    { s with
      tokens := s.tokens ++ open_.map fun _ => .blockEnd
      indents := s.indents.drop open_.length }
  else s

/-- Begins a block collection at a column, if that is right of the others. -/
def beginBlock (column : Int) (n : Nat) (t : Token) (s : Scanning) : Scanning :=
  if s.depth = 0 ∧ s.indent < column then
    { s.insert n t with indents := column :: s.indents }
  else s

/-- Reads at the cursor. -/
def read {α : Type} (r : Reader α) (s : Scanning) : Except Fault (α × Scanning) := do
  let (a, c) ← r.run s.cursor
  .ok (a, { s with cursor := c })

/-- Takes some characters, which are the given token. -/
def takeAs (n : Nat) (t : Token) (s : Scanning) : Scanning :=
  { s with cursor := s.cursor.advance n }.push t

end Scanning

/-! ## The steps -/

/-- Skips one line without tokens: whether a line ended, and whether a key may
follow. -/
def blankLine? : Reader (Option Unit) := do
  skipWhile (· == ' ')
  if (← peek) == some '#' then skipWhile (!isBreak ·)
  return (← lineBreak?).map fun _ => ()

/-- Moves to the next token. -/
def toNextToken (s : Scanning) : Except Fault Scanning := do
  let s : Scanning :=
    if s.cursor.index = 0 ∧ s.cursor.rest.head? = some '\ufeff' then
      { s with cursor := s.cursor.next }
    else s
  let (lines, s) ← s.read (many blankLine?)
  .ok { s with allowsKey := s.allowsKey || (!lines.isEmpty && s.depth == 0) }

/-- Takes a sign that begins or ends a document, or a directive: all block
collections end there. -/
def atDocumentLevel (s : Scanning) : Except Fault Scanning := do
  let s ← (s.unwind (-1)).dropCandidate
  .ok { s with allowsKey := false }

/-- Takes an opening bracket. -/
def openFlow (t : Token) (s : Scanning) : Except Fault Scanning := do
  let s ← s.addCandidate
  .ok ({ s with depth := s.depth + 1, allowsKey := true }.takeAs 1 t)

/-- Takes a closing bracket; one must be open. -/
def closeFlow (t : Token) (s : Scanning) : Except Fault Scanning := do
  let s ← s.dropCandidate
  if s.depth = 0 then .error .malformed
  else .ok ({ s with depth := s.depth - 1, allowsKey := false }.takeAs 1 t)

/-- Takes a comma. -/
def takeFlowEntry (s : Scanning) : Except Fault Scanning := do
  let s ← s.dropCandidate
  .ok ({ s with allowsKey := true }.takeAs 1 .flowEntry)

/-- Takes the hyphen before an entry. -/
def takeBlockEntry (s : Scanning) : Except Fault Scanning := do
  if s.depth = 0 ∧ !s.allowsKey then .error .malformed
  else
    let s ← (s.beginBlock s.cursor.column s.tokens.length .blockSequenceStart).dropCandidate
    .ok ({ s with allowsKey := true }.takeAs 1 .blockEntry)

/-- Takes the question mark before a key. -/
def takeKey (s : Scanning) : Except Fault Scanning := do
  if s.depth = 0 ∧ !s.allowsKey then .error .malformed
  else
    let s ← (s.beginBlock s.cursor.column s.tokens.length .blockMappingStart).dropCandidate
    .ok ({ s with allowsKey := s.depth == 0 }.takeAs 1 .key)

/-- Takes the colon before a value: a candidate turns out to be a key. -/
def takeValue (s : Scanning) : Except Fault Scanning :=
  match s.candidate? with
  | some k =>
    let s : Scanning := { s with candidates := s.otherCandidates, allowsKey := false }
    let s := (s.insert k.number .key).beginBlock k.start.column k.number .blockMappingStart
    .ok (s.takeAs 1 .value)
  | none => do
    if s.depth = 0 ∧ !s.allowsKey then .error .malformed
    else
      let s ← (s.beginBlock s.cursor.column s.tokens.length .blockMappingStart).dropCandidate
      .ok ({ s with allowsKey := s.depth == 0 }.takeAs 1 .value)

/-- Takes a token that may begin a key. -/
def takeNodePart (r : Reader Token) (s : Scanning) : Except Fault Scanning := do
  let s ← s.addCandidate
  let (t, s) ← s.read r
  .ok ({ s with allowsKey := false }.push t)

/-- The name of an anchor or an alias, from its sign on. -/
def anchorName : Reader Text := do
  skip 1
  let name ← takeWhile isNameChar
  let next ← peek
  require (!name.isEmpty && (endsWord next || isOne ("?:,]\x7d%\x40\x60".toList.contains ·) next))
  return name

/-- Takes a block scalar. -/
def takeBlockScalar (folded : Bool) (s : Scanning) : Except Fault Scanning := do
  let s ← s.dropCandidate
  let (t, s) ← s.read (Scalar.block folded s.indent)
  .ok ({ s with allowsKey := true }.push (.scalar false t))

/-- Takes a plain scalar. -/
def takePlain (s : Scanning) : Except Fault Scanning := do
  let s ← s.addCandidate
  let ((t, lineEnded), s) ← s.read (Scalar.plain s.indent (s.depth != 0))
  .ok ({ s with allowsKey := lineEnded }.push (.scalar true t))

/-- Whether a plain scalar may begin with a text. -/
def startsPlain (inFlow : Bool) : Text → Bool
  | [] => false
  | c :: rest =>
    !(isBlank c || isBreak c || "-?:,[]\x7b\x7d#&*!|>'\"%\x40\x60".toList.contains c) ||
      (!endsWord rest.head? && (c == '-' || !inFlow && (c == '?' || c == ':')))

/-- What one step does. -/
inductive Step where
  /-- It goes on. -/
  | more (s : Scanning)
  /-- The text is over. -/
  | done (s : Scanning)

/-- Takes the next token. -/
def step (s : Scanning) : Except Fault Step := do
  let s ← (← toNextToken s).dropStale
  let s := s.unwind s.cursor.column
  let inFlow := s.depth != 0
  let rest := s.cursor.rest
  let alone := endsWord (rest.drop 1).head?
  let mark := s.cursor.column == 0 && endsWord (rest.drop 3).head?
  match rest with
  | [] =>
    let s ← atDocumentLevel s
    .ok (.done ({ s with candidates := [] }.push .finish))
  | c :: _ => .more <$> do
    if c = '%' ∧ s.cursor.column = 0 then
      let s ← atDocumentLevel s
      let (d, s) ← s.read Yaml.directive
      .ok (s.push (.directive d))
    else if mark ∧ rest.take 3 = ['-', '-', '-'] then
      (·.takeAs 3 .documentStart) <$> atDocumentLevel s
    else if mark ∧ rest.take 3 = ['.', '.', '.'] then
      (·.takeAs 3 .documentEnd) <$> atDocumentLevel s
    else if c = '[' then openFlow .flowSequenceStart s
    else if c = '\x7b' then openFlow .flowMappingStart s
    else if c = ']' then closeFlow .flowSequenceEnd s
    else if c = '\x7d' then closeFlow .flowMappingEnd s
    else if c = ',' then takeFlowEntry s
    else if c = '-' ∧ alone then takeBlockEntry s
    else if c = '?' ∧ (inFlow ∨ alone) then takeKey s
    else if c = ':' ∧ (inFlow ∨ alone) then takeValue s
    else if c = '*' then takeNodePart (.alias <$> anchorName) s
    else if c = '&' then takeNodePart (.anchor <$> anchorName) s
    else if c = '!' then takeNodePart (.tag <$> writtenTag) s
    else if c = '|' ∧ !inFlow then takeBlockScalar false s
    else if c = '>' ∧ !inFlow then takeBlockScalar true s
    else if c = '\'' then takeNodePart (.scalar false <$> Scalar.quoted false) s
    else if c = '"' then takeNodePart (.scalar false <$> Scalar.quoted true) s
    else if startsPlain inFlow rest then takePlain s
    else .error .malformed

/-- The tokens of a text, and the fault that ended the reading if it was not
the end of the text. -/
structure Stream where
  /-- The tokens whose meaning is settled. -/
  tokens : List Token
  /-- The fault behind them. -/
  fault : Option Fault := none

/-- Takes tokens, at most the given number of times. -/
def scanFrom : Nat → Scanning → Stream
  | 0, s => ⟨s.settled, some .malformed⟩
  | fuel + 1, s =>
    match step s with
    | .error e => ⟨s.settled, some e⟩
    | .ok (.done s) => ⟨s.tokens, none⟩
    | .ok (.more s) => scanFrom fuel s

/-- The tokens of a text. Every step but the last takes a character. -/
def scan (t : Text) : Stream := scanFrom (t.length + 1) { cursor := { rest := t } }

end Token

end TextDomain.Yaml
