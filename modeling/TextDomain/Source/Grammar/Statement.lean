import TextDomain.Source.Grammar.Pattern

/-!
# Statements

The rules for simple and compound statements. The node of a statement holds
the expressions and statements inside it.

`match`, `case` and `_` are words with a meaning in certain places only: a line
that begins with `match` is a match statement if it reads as one, else an
ordinary statement.
-/

namespace TextDomain.Parser

variable (g : Grammar)

/-! ## Simple statements -/

/-- What may stand on the right of an assignment. -/
def assignedValue : Parser Node := do
  if ← wordNext "yield" then yieldExpression g else starExpressions g

/-- One more value on the right of an assignment; the value before it becomes
a target. -/
def assignMore (parts : Node × List Node) : Parser (Node × List Node) := do
  let (last, before) := parts
  sign "="
  check last.isTarget
  return (← assignedValue g, last :: before)

/-- The signs of augmented assignments. -/
def augmentedSigns : List String :=
  ["+=", "-=", "*=", "\x40=", "/=", "%=", "&=", "|=", "^=", "<<=", ">>=", "**=", "//="]

/-- An expression as a statement, or an assignment of any kind. -/
def expressionStatement : Parser Node :=
  compound .other do
    if ← wordNext "yield" then return [← yieldExpression g]
    else
      let first ← starExpressions g
      if ← signNext "=" then
        let (last, before) ← extend (assignMore g) (first, [])
        check (!before.isEmpty)
        return before.reverse ++ [last]
      else if ← signNext ":" then
        check first.isSingleTarget
        sign ":"
        let type ← g .expression
        if ← signNext "=" then
          sign "="
          return [first, type, ← assignedValue g]
        else return [first, type]
      else if ← nextIs fun t => augmentedSigns.any (isSign t) then
        check first.isSingleTarget
        oneSign augmentedSigns
        return [first, ← assignedValue g]
      else return [first]

/-- A statement that begins with a word and goes on with other parts. -/
def keywordStatement (w : String) (p : Parser (List Node)) : Parser Node :=
  compound .other do
    word w
    p

/-- The expressions after `return`. -/
def returned : Parser (List Node) := do
  return (← optional? (starExpressions g)).toList

/-- The exception after `raise` and its cause. -/
def raised : Parser (List Node) := do
  match ← optional? (g .expression) with
  | none => return []
  | some n =>
    if ← wordNext "from" then
      word "from"
      return [n, ← g .expression]
    else return [n]

/-- What `del` deletes. -/
def deleted : Parser (List Node) := do
  let (nodes, _) ← commaTerminated (g .primary)
  check (Node.areDeletable nodes)
  return nodes

/-- The condition after `assert` and its message. -/
def asserted : Parser (List Node) := do
  let condition ← g .expression
  if ← signNext "," then
    sign ","
    return [condition, ← g .expression]
  else return [condition]

/-- Names separated by commas. -/
def nameList : Parser (List Node) := do
  let _ ← commaSeparated identifier
  return []

/-- A module path. -/
def modulePath : Parser Unit := do
  let _ ← dottedName

/-- The other name that an import gives to something. -/
def importedAs : Parser Unit := do
  if ← wordNext "as" then
    word "as"
    let _ ← identifier

/-- The modules after `import`. -/
def importedModules : Parser (List Node) := do
  let _ ← commaSeparated (modulePath *> importedAs)
  return []

/-- What is imported from a module: everything, names in parentheses, or names
without parentheses and without a comma at the end. -/
def importedNames : Parser Unit := do
  if ← signNext "*" then sign "*"
  else if ← signNext "(" then
    sign "("
    let _ ← commaTerminated (identifier *> importedAs)
    sign ")"
  else
    let _ ← commaSeparated (identifier *> importedAs)

/-- The module after `from` and what is imported from it. -/
def importedFrom : Parser (List Node) := do
  let dots ← many (oneSign [".", "..."])
  if dots.isEmpty then modulePath
  else
    let _ ← optional? modulePath
  word "import"
  importedNames
  return []

/-- Nothing more. -/
def nothing : Parser (List Node) := return []

/-- A simple statement. -/
def simpleStatement : Parser Node := do
  match ← peek with
  | none => failure
  | some t =>
    if isWord t "return" then keywordStatement "return" (returned g)
    else if isWord t "import" then keywordStatement "import" importedModules
    else if isWord t "from" then keywordStatement "from" importedFrom
    else if isWord t "raise" then keywordStatement "raise" (raised g)
    else if isWord t "pass" then keywordStatement "pass" nothing
    else if isWord t "del" then keywordStatement "del" (deleted g)
    else if isWord t "assert" then keywordStatement "assert" (asserted g)
    else if isWord t "break" then keywordStatement "break" nothing
    else if isWord t "continue" then keywordStatement "continue" nothing
    else if isWord t "global" then keywordStatement "global" nameList
    else if isWord t "nonlocal" then keywordStatement "nonlocal" nameList
    else expressionStatement g

/-- Simple statements on one line. -/
def simpleStatements : Parser (List Node) := do
  let first ← simpleStatement g
  let more ← many (sign ";" *> simpleStatement g)
  let _ ← optional? (sign ";")
  let _ ← ofKind .newline
  return first :: more

/-! ## Compound statements -/

/-- A colon and the body after it. -/
def body : Parser Node := do
  sign ":"
  g .block

/-- An `else` with its body, if there is one. -/
def elseBlock : Parser (List Node) := do
  if ← wordNext "else" then
    word "else"
    return [← body g]
  else return []

/-- A condition and a body. -/
def guarded : Parser (List Node) := do
  let condition ← namedExpression g
  return [condition, ← body g]

/-- The parts after `if`. -/
def ifParts : Parser (List Node) := do
  let first ← guarded g
  let more ← many (word "elif" *> guarded g)
  return first ++ more.flatten ++ (← elseBlock g)

/-- The parts after `while`. -/
def whileParts : Parser (List Node) := do
  let first ← guarded g
  return first ++ (← elseBlock g)

/-- The parts after `for`. -/
def forParts : Parser (List Node) := do
  let target ← targets g
  word "in"
  let source ← starExpressions g
  let loop ← body g
  return target :: source :: loop :: (← elseBlock g)

/-- One context of a `with` statement. -/
def withItem : Parser (List Node) := do
  let context ← g .expression
  if ← wordNext "as" then
    word "as"
    let t ← target g
    check (← nextIs fun t => isSign t "," || isSign t ")" || isSign t ":")
    return [context, t]
  else return [context]

/-- The contexts of a `with` statement in parentheses, before the colon. -/
def parenthesizedItems : Parser (List Node) := do
  sign "("
  let (items, _) ← commaTerminated (withItem g)
  sign ")"
  check (← signNext ":")
  return items.flatten

/-- The contexts of a `with` statement. -/
def withItems : Parser (List Node) :=
  parenthesizedItems g <|> do
    let items ← commaSeparated (withItem g)
    return items.flatten

/-- The parts after `with`. -/
def withParts : Parser (List Node) := do
  let items ← withItems g
  return items ++ [← body g]

/-- The exception of a handler and the name it is bound to. -/
def handledException : Parser (List Node) := do
  let n ← g .expression
  if ← wordNext "as" then
    word "as"
    let _ ← identifier
  return [n]

/-- A handler; with a star, or else possibly without an exception. -/
def handler (starred : Bool) : Parser (List Node) := do
  word "except"
  let exception ←
    if starred then sign "*" *> handledException g
    else if ← signNext ":" then pure []
    else handledException g
  return exception ++ [← body g]

/-- A `finally` with its body. -/
def finallyBlock : Parser (List Node) := do
  word "finally"
  return [← body g]

/-- The parts after `try`: handlers of one kind, or only a `finally`. -/
def tryParts : Parser (List Node) := do
  let first ← body g
  let handlers ← many (handler g true)
  let handlers ← if handlers.isEmpty then many (handler g false) else pure handlers
  if handlers.isEmpty then return first :: (← finallyBlock g)
  else
    let otherwise ← elseBlock g
    let final ← optional? (finallyBlock g)
    return first :: handlers.flatten ++ otherwise ++ final.getD []

/-- The parts after `def`. -/
def functionParts : Parser (List Node) := do
  let _ ← identifier
  sign "("
  let params ← parameters g true ")"
  sign ")"
  let result ← if ← signNext "->" then sign "->" *> some <$> g .expression else pure none
  return params ++ result.toList ++ [← body g]

/-- The parts after `class`. -/
def classParts : Parser (List Node) := do
  let _ ← identifier
  let (bases, keywords) ← if ← signNext "(" then argumentsIn g false else pure ([], [])
  return bases ++ keywords ++ [← body g]

/-- The statement after `async`. -/
def asyncStatement : Parser Node :=
  compound .other do
    word "async"
    return [← keywordStatement "def" (functionParts g) <|>
      keywordStatement "with" (withParts g) <|> keywordStatement "for" (forParts g)]

/-- A decorator on its line. -/
def decorator : Parser Node := do
  sign "\x40"
  let n ← namedExpression g
  let _ ← ofKind .newline
  return n

/-- A function or class with its decorators. -/
def decorated : Parser Node :=
  compound .other do
    let decorators ← many₁ (decorator g)
    let definition ←
      if ← wordNext "class" then keywordStatement "class" (classParts g)
      else if ← wordNext "async" then keywordStatement "async" do
        return [← keywordStatement "def" (functionParts g)]
      else keywordStatement "def" (functionParts g)
    return decorators ++ [definition]

/-! ## Match statements -/

/-- The subject of a match statement: an expression, or several as a tuple. -/
def matchSubject : Parser Node := do
  let starred ← signNext "*"
  let n ← tupled (starNamedExpression g)
  check (!starred || n.form == .tuple)
  return n

/-- A `case` clause. -/
def caseClause : Parser (List Node) := do
  word "case"
  let p ← patterns g
  let condition ← if ← wordNext "if" then word "if" *> some <$> namedExpression g else pure none
  return p :: condition.toList ++ [← body g]

/-- A match statement. -/
def matchStatement : Parser Node :=
  keywordStatement "match" do
    let subject ← matchSubject g
    sign ":"
    let _ ← ofKind .newline
    let _ ← ofKind .indent
    let cases ← many₁ (caseClause g)
    let _ ← ofKind .dedent
    return subject :: cases.flatten

/-! ## Blocks -/

/-- A statement, or the simple statements of a line. -/
def statement : Parser (List Node) := do
  match ← peek with
  | none => failure
  | some t =>
    if isWord t "if" then return [← keywordStatement "if" (ifParts g)]
    else if isWord t "while" then return [← keywordStatement "while" (whileParts g)]
    else if isWord t "for" then return [← keywordStatement "for" (forParts g)]
    else if isWord t "with" then return [← keywordStatement "with" (withParts g)]
    else if isWord t "try" then return [← keywordStatement "try" (tryParts g)]
    else if isWord t "def" then return [← keywordStatement "def" (functionParts g)]
    else if isWord t "class" then return [← keywordStatement "class" (classParts g)]
    else if isWord t "async" then return [← asyncStatement g]
    else if isSign t "\x40" then return [← decorated g]
    else if isWord t "match" then
      match ← optional? (matchStatement g) with
      | some n => return [n]
      | none => simpleStatements g
    else simpleStatements g

/-- The statements of a block or file. -/
def statements : Parser (List Node) := do
  return (← many (statement g)).flatten

/-- The body of a compound statement: an indented block, or simple statements
on the same line. -/
def block : Parser Node :=
  compound .other do
    if ← nextIs fun t => t.kind == .newline then
      let _ ← ofKind .newline
      let _ ← ofKind .indent
      let first ← statement g
      let more ← statements g
      let _ ← ofKind .dedent
      return first ++ more
    else simpleStatements g

end TextDomain.Parser
