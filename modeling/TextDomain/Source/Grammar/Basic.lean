import TextDomain.Source.Token
import TextDomain.Source.Tree
import TextDomain.Text.Compatibility

/-!
# Reading tokens

A parser takes tokens from a stream and fails where they do not fit. Phrases
of the language nest in each other, and all of that recursion goes through one
place: a `Grammar` reads the phrase for a `Goal`, and the rules for each goal
are written over a grammar that reads the phrases inside. The rules themselves
do not recurse; `Source.Grammar` ties the knot.

Repetition needs no measure of its own. A repeated phrase consumes at least
one token, so the tokens that are left serve as a clock.
-/

namespace TextDomain

/-- The tokens that are left, and where the last one taken ended. -/
structure TokenStream where
  /-- The tokens that are left. -/
  rest : List Token
  /-- Where the last token taken ended. -/
  last : Position

/-- A parser of phrases. -/
abbrev Parser := StateT TokenStream Option

/-- What a phrase is to be read as. -/
inductive Goal where
  /-- An expression, conditional and lambda included. -/
  | expression
  /-- An expression without conditionals and lambdas at the top. -/
  | disjunction
  /-- An operand of `and`. -/
  | inversion
  /-- An operand of a comparison. -/
  | bitwiseOr
  /-- An operand of a multiplication. -/
  | factor
  /-- An operand of a power, without `await`. -/
  | primary
  /-- Expressions, some of them starred, that may make a tuple. -/
  | starExpressions
  /-- The body of a compound statement. -/
  | block
  /-- A pattern. -/
  | pattern

/-- A reader for every goal. -/
abbrev Grammar := Goal → Parser Node

namespace Parser

variable {α β : Type}

/-! ## Single tokens -/

/-- The next token, which stays in the stream. -/
def peek : Parser (Option Token) := fun s => some (s.rest.head?, s)

/-- The next two tokens, which stay in the stream. -/
def peek₂ : Parser (Option Token × Option Token) := fun s => some ((s.rest.head?, s.rest[1]?), s)

/-- Takes the next token if it satisfies `p`. -/
def token (p : Token → Bool) : Parser Token := fun s =>
  match s.rest with
  | t :: rest => if p t then some (t, ⟨rest, t.extent.stop⟩) else none
  | [] => none

/-- The position of the next token. -/
def here : Parser Position := fun s =>
  some ((s.rest.head?.map (·.extent.start)).getD s.last, s)

/-- The position at which the last token ended. -/
def lastEnd : Parser Position := fun s => some (s.last, s)

/-- Succeeds if `b` holds. -/
def check (b : Bool) : Parser Unit := if b then pure () else failure

/-! ## Kinds of token -/

/-- The keywords of the language. -/
def keywords : List Text :=
  ["False", "None", "True", "and", "as", "assert", "async", "await", "break", "class", "continue",
    "def", "del", "elif", "else", "except", "finally", "for", "from", "global", "if", "import",
    "in", "is", "lambda", "nonlocal", "not", "or", "pass", "raise", "return", "try", "while",
    "with", "yield"].map String.toList

/-- Whether a token is the given sign. -/
def isSign (t : Token) (s : String) : Bool := t.kind == .sign && t.text == s.toList

/-- Whether a token is spelled as the given word. -/
def isWord (t : Token) (s : String) : Bool := t.kind == .name && t.text == s.toList

/-- Whether a token is a name and no keyword. -/
def isIdentifier (t : Token) : Bool := t.kind == .name && !keywords.contains t.text

/-- Takes the given sign. -/
def sign (s : String) : Parser Unit := do
  let _ ← token (isSign · s)

/-- Takes the given word. -/
def word (s : String) : Parser Unit := do
  let _ ← token (isWord · s)

/-- Takes a name, in normal form. -/
def identifier : Parser Text := do
  let t ← token isIdentifier
  return t.text.normalize

/-- Takes a token of the given kind. -/
def ofKind (k : TokenKind) : Parser Token := token fun t => t.kind == k

/-- Whether the next token satisfies `p`. -/
def nextIs (p : Token → Bool) : Parser Bool := do
  return ((← peek).map p).getD false

/-- Whether the given sign is next. -/
def signNext (s : String) : Parser Bool := nextIs (isSign · s)

/-- Whether the given word is next. -/
def wordNext (s : String) : Parser Bool := nextIs (isWord · s)

/-- Whether a name and then the given sign are next. -/
def nameThenSign (s : String) : Parser Bool := do
  match ← peek₂ with
  | (some a, some b) => return isIdentifier a && isSign b s
  | _ => return false

/-! ## Repetition -/

/-- As many `p` as there are, at most one for each token of the clock. -/
def manyWithin (p : Parser α) : List Token → TokenStream → List α × TokenStream
  | [], s => ([], s)
  | _ :: clock, s =>
    match p s with
    | none => ([], s)
    | some (a, s) =>
      let (more, s) := manyWithin p clock s
      (a :: more, s)

/-- As many `p` as there are. -/
def many (p : Parser α) : Parser (List α) := fun s => some (manyWithin p s.rest s)

/-- At least one `p`. -/
def many₁ (p : Parser α) : Parser (List α) := do
  let first ← p
  return first :: (← many p)

/-- Extends a value as often as `p` allows. -/
def extendWithin (p : α → Parser α) : List Token → α → TokenStream → α × TokenStream
  | [], a, s => (a, s)
  | _ :: clock, a, s =>
    match p a s with
    | none => (a, s)
    | some (a, s) => extendWithin p clock a s

/-- Extends a value as often as `p` allows. -/
def extend (p : α → Parser α) (a : α) : Parser α := fun s => some (extendWithin p s.rest a s)

/-- `p` if it succeeds. -/
def optional? (p : Parser α) : Parser (Option α) := fun s =>
  match p s with
  | some (a, s) => some (some a, s)
  | none => some (none, s)

/-- One or more `p` separated by commas. -/
def commaSeparated (p : Parser α) : Parser (List α) := do
  let first ← p
  return first :: (← many (sign "," *> p))

/-- One or more `p` separated by commas, and whether another comma follows. -/
def commaTerminated (p : Parser α) : Parser (List α × Bool) := do
  let items ← commaSeparated p
  let trailing ← signNext ","
  if trailing then sign ","
  return (items, trailing)

/-! ## Nodes -/

/-- Reads the parts of a node that begins at the next token. -/
def compound (form : Form) (p : Parser (List Node)) : Parser Node := do
  let start ← here
  let parts ← p
  return .compound ⟨start, ← lastEnd⟩ form parts

/-- A node of several parts that began at a position and ends here. -/
def closeAt (start : Position) (form : Form) (parts : List Node) : Parser Node := do
  return .compound ⟨start, ← lastEnd⟩ form parts

/-- A node of no interest that is the next token. -/
def atom (p : Token → Bool) : Parser Node := do
  let t ← token p
  return .compound t.extent .other []

/-- A sequence of phrases separated by commas: the phrase itself if there is
one and no comma, else a tuple. -/
def tupled (p : Parser Node) : Parser Node := do
  let start ← here
  match ← commaTerminated p with
  | ([n], false) => return n
  | (items, _) => closeAt start .tuple items

end Parser

end TextDomain
