import TextDomain.Literal.Field
import TextDomain.Source.Grammar.Basic

/-!
# Expressions

The rules for expressions, from the loosest binding to the tightest: lambda
and conditional, `or`, `and`, `not`, comparisons, the bitwise and arithmetic
operators, powers, `await`, and finally primaries with their suffixes.

Operators of one level are collected in a flat node; how they associate makes
no difference to the calls inside. A node extends from its first token to its
last, brackets that merely group an expression not included.

Calls follow the rule on the order of arguments: positional ones and stars
first, then keywords and stars, then keywords and double stars. A generator
may stand without parentheses of its own if it is the only argument; its extent
is that of the call's parentheses.
-/

namespace TextDomain.Parser

variable (g : Grammar)

/-! ## Operators -/

/-- Operands of one level, separated by operators. A single operand is
itself. -/
def chain (operator : Parser Unit) (operand : Parser Node) : Parser Node := do
  let start ← here
  let first ← operand
  match ← many (operator *> operand) with
  | [] => return first
  | more => closeAt start .other (first :: more)

/-- One of several signs. -/
def oneSign (signs : List String) : Parser Unit := do
  let _ ← token fun t => signs.any (isSign t)

/-- A comparison operator. -/
def comparisonOperator : Parser Unit :=
  oneSign ["==", "!=", "<=", "<", ">=", ">"] <|> word "in" <|> (word "not" *> word "in") <|>
    (word "is" *> word "not") <|> word "is"

/-! ## Names, starred and named expressions -/

/-- A name. -/
def nameNode : Parser Node := do
  let t ← token isIdentifier
  return .name t.extent t.text.normalize

/-- An expression that may give its value a name. -/
def namedExpression : Parser Node := do
  if ← nameThenSign ":=" then
    compound .other do
      let name ← nameNode
      sign ":="
      return [name, ← g .expression]
  else g .expression

/-- A star and an operand. -/
def starredOperand : Parser Node :=
  compound .starred do
    sign "*"
    return [← g .bitwiseOr]

/-- An expression, possibly starred. -/
def starExpression : Parser Node := do
  if ← signNext "*" then starredOperand g else g .expression

/-- An expression, possibly starred or with a name for its value. -/
def starNamedExpression : Parser Node := do
  if ← signNext "*" then starredOperand g else namedExpression g

/-- A `yield` with what it yields. -/
def yieldExpression : Parser Node :=
  compound .other do
    word "yield"
    if ← wordNext "from" then
      word "from"
      return [← g .expression]
    else return (← optional? (g .starExpressions)).toList

/-! ## Targets and comprehensions -/

/-- One target of an assignment, possibly starred. -/
def target : Parser Node := do
  let t ←
    if ← signNext "*" then
      compound .starred do
        sign "*"
        return [← g .primary]
    else g .primary
  check t.isTarget
  return t

/-- The targets of a loop. -/
def targets : Parser Node := tupled (target g)

/-- Whether a comprehension goes on here. -/
def comprehensionNext : Parser Bool := do
  return (← wordNext "for") || (← wordNext "async")

/-- One `for` of a comprehension with its conditions. -/
def comprehensionClause : Parser (List Node) := do
  let _ ← optional? (word "async")
  word "for"
  let target ← targets g
  word "in"
  let source ← g .disjunction
  let conditions ← many (word "if" *> g .disjunction)
  return target :: source :: conditions

/-- The clauses of a comprehension. -/
def comprehension : Parser (List Node) := do
  return (← many₁ (comprehensionClause g)).flatten

/-! ## String literals -/

/-- The expression of a replacement field. It is read between parentheses, the
first of which stands in the place of the brace. -/
def fieldExpression (field : Literal.Field) : Parser Node := fun s =>
  match Token.lexAt? field.position ('(' :: field.source ++ [')', '\n']) with
  | none => none
  | some tokens => (g .starExpressions ⟨tokens, field.position⟩).map fun (n, _) => (n, s)

/-- The expressions in the fields of a formatted piece. -/
def pieceFields (t : Token) (p : Literal.Piece) : Parser (List Node) := do
  let start := t.extent.start.after (t.text.take (p.letters.length + p.quoteWidth))
  let fields ← (Literal.fields? p.isRaw p.body start : Option _)
  fields.mapM (fieldExpression g)

/-- A string literal: pieces side by side, all of bytes or none. It has a value
unless it denotes bytes or has a formatted piece. -/
def stringLiteral : Parser Node := do
  let start ← here
  let tokens ← many₁ (ofKind .string)
  let pieces ← tokens.mapM fun t => do
    let (p, _) ← (Literal.splitPiece? t.text : Option _)
    return (t, p)
  let extent : Extent := ⟨start, ← lastEnd⟩
  if pieces.all fun (_, p) => p.isBytes then
    check (pieces.all fun (_, p) => p.isReadableBytes)
    return .compound extent .other []
  else
    check (!pieces.any fun (_, p) => p.isBytes)
    let parts ← pieces.mapM fun (t, p) => do
      if p.isFormatted then return (([] : Text), ← pieceFields g t p)
      else
        let value ← (p.value? : Option _)
        return (value, [])
    if pieces.any fun (_, p) => p.isFormatted then
      return .compound extent .other (parts.flatMap (·.2))
    else return .literal extent (parts.flatMap (·.1))

/-! ## Displays -/

/-- What stands between parentheses: nothing, a `yield`, a generator, a tuple,
or an expression that is merely grouped. -/
def parenthesized : Parser Node := do
  let start ← here
  sign "("
  if ← signNext ")" then
    sign ")"
    closeAt start .tuple []
  else if ← wordNext "yield" then
    let n ← yieldExpression g
    sign ")"
    return n
  else
    let first ← starNamedExpression g
    if ← comprehensionNext then
      check (first.form != .starred)
      let clauses ← comprehension g
      sign ")"
      closeAt start .other (first :: clauses)
    else if ← signNext "," then
      let more ← many (sign "," *> starNamedExpression g)
      let _ ← optional? (sign ",")
      sign ")"
      closeAt start .tuple (first :: more)
    else
      check (first.form != .starred)
      sign ")"
      return first

/-- A list or a list comprehension. -/
def bracketed : Parser Node := do
  let start ← here
  sign "["
  if ← signNext "]" then
    sign "]"
    closeAt start .list []
  else
    let first ← starNamedExpression g
    if ← comprehensionNext then
      check (first.form != .starred)
      let clauses ← comprehension g
      sign "]"
      closeAt start .other (first :: clauses)
    else
      let more ← many (sign "," *> starNamedExpression g)
      let _ ← optional? (sign ",")
      sign "]"
      closeAt start .list (first :: more)

/-- A double star and an operand. -/
def doubleStarred : Parser (List Node) := do
  sign "**"
  return [← g .bitwiseOr]

/-- A key and a value. -/
def keyValue : Parser (List Node) := do
  let key ← g .expression
  sign ":"
  return [key, ← g .expression]

/-- The rest of a dictionary after its first entry. -/
def dictionaryRest (first : List Node) : Parser (List Node) := do
  let more ← many (sign "," *> (doubleStarred g <|> keyValue g))
  let _ ← optional? (sign ",")
  return first ++ more.flatten

/-- The rest of a set after its first element. -/
def setRest (first : Node) : Parser (List Node) := do
  if ← comprehensionNext then
    check (first.form != .starred)
    return first :: (← comprehension g)
  else
    let more ← many (sign "," *> starNamedExpression g)
    let _ ← optional? (sign ",")
    return first :: more

/-- What stands between braces if its first entry is no star: a dictionary, a
set, or a comprehension of either. -/
def bracedPlain : Parser (List Node) := do
  let first ← g .expression
  if ← signNext ":" then
    sign ":"
    let value ← g .expression
    if ← comprehensionNext then
      let clauses ← comprehension g
      return first :: value :: clauses
    else dictionaryRest g [first, value]
  else setRest g first

/-- What stands between braces. -/
def bracedParts : Parser (List Node) := do
  if ← signNext "\x7d" then return []
  else if ← signNext "**" then
    let first ← doubleStarred g
    dictionaryRest g first
  else if (← signNext "*") || (← nameThenSign ":=") then
    let first ← starNamedExpression g
    setRest g first
  else bracedPlain g

/-- A dictionary, a set, or a comprehension of either. -/
def braced : Parser Node :=
  compound .other do
    sign "\x7b"
    let parts ← bracedParts g
    sign "\x7d"
    return parts

/-! ## Primaries -/

/-- An expression without operators and suffixes. -/
def atomic : Parser Node := do
  match ← peek with
  | none => failure
  | some t =>
    match t.kind with
    | .name =>
      if isIdentifier t then nameNode
      else atom fun t => isWord t "None" || isWord t "True" || isWord t "False"
    | .number => atom fun _ => true
    | .string => stringLiteral g
    | .sign =>
      if isSign t "(" then parenthesized g
      else if isSign t "[" then bracketed g
      else if isSign t "\x7b" then braced g
      else atom (isSign · "...")
    | _ => failure

/-- One slice or index. -/
def slice : Parser Node := do
  if ← nameThenSign ":=" then namedExpression g
  else
    compound .other do
      let lower ← optional? (g .expression)
      if ← signNext ":" then
        sign ":"
        let upper ← optional? (g .expression)
        let step ←
          if ← signNext ":" then
            sign ":"
            optional? (g .expression)
          else pure none
        return lower.toList ++ upper.toList ++ step.toList
      else
        check lower.isSome
        return lower.toList

/-- A star and an expression. -/
def starredExpression : Parser Node :=
  compound .starred do
    sign "*"
    return [← g .expression]

/-- The slices between square brackets. -/
def slices : Parser (List Node) := do
  let (items, _) ← commaTerminated do
    if ← signNext "*" then starredExpression g else slice g
  return items

/-- How far the order of arguments has come. -/
inductive ArgumentPhase where
  /-- Everything may follow. -/
  | positional
  /-- After a keyword: no positional arguments any more. -/
  | keyword
  /-- After a double star: no stars either. -/
  | doubleStar
deriving DecidableEq

/-- The arguments read so far. -/
structure ArgumentList where
  /-- How far the order has come. -/
  phase : ArgumentPhase := .positional
  /-- Positional arguments and stars, the last first. -/
  positional : List Node := []
  /-- Values of keyword arguments and double stars, the last first. -/
  keywords : List Node := []

/-- One more argument. -/
def argument (args : ArgumentList) : Parser ArgumentList := do
  if ← signNext "*" then
    check (args.phase != .doubleStar)
    return { args with positional := (← starredExpression g) :: args.positional }
  else if ← signNext "**" then
    sign "**"
    let value ← g .expression
    return { args with phase := .doubleStar, keywords := value :: args.keywords }
  else if ← nameThenSign "=" then
    let _ ← identifier
    sign "="
    let value ← g .expression
    let phase := if args.phase = .doubleStar then .doubleStar else .keyword
    return { args with phase := phase, keywords := value :: args.keywords }
  else
    check (args.phase == .positional)
    return { args with positional := (← namedExpression g) :: args.positional }

/-- Arguments up to the closing parenthesis, which is not taken. -/
def argumentsAfter (first : ArgumentList) : Parser ArgumentList := do
  let args ← extend (fun args => sign "," *> argument g args) first
  let _ ← optional? (sign ",")
  return args

/-- The arguments of a call or class between parentheses. A lone generator is
an argument of a call only. -/
def argumentsIn (allowGenerator : Bool) : Parser (List Node × List Node) := do
  let start ← here
  sign "("
  if ← signNext ")" then
    sign ")"
    return ([], [])
  else
    let first ← argument g {}
    match first.positional, ← comprehensionNext with
    | [element], true =>
      check (allowGenerator && element.form != .starred)
      let clauses ← comprehension g
      sign ")"
      return ([← closeAt start .other (element :: clauses)], [])
    | _, _ =>
      let args ← argumentsAfter g first
      sign ")"
      return (args.positional.reverse, args.keywords.reverse)

/-- One suffix of a primary that began at a position. -/
def suffix (start : Position) (n : Node) : Parser Node := do
  match ← peek with
  | none => failure
  | some t =>
    if isSign t "." then
      sign "."
      let _ ← identifier
      closeAt start .member [n]
    else if isSign t "(" then
      let (arguments, keywords) ← argumentsIn g true
      return .call ⟨start, ← lastEnd⟩ n arguments keywords
    else if isSign t "[" then
      sign "["
      let items ← slices g
      sign "]"
      closeAt start .subscript (n :: items)
    else failure

/-- An atom with its suffixes. -/
def primary : Parser Node := do
  let start ← here
  extend (suffix g start) (← atomic g)

/-- A primary, possibly awaited. -/
def awaited : Parser Node := do
  if ← wordNext "await" then
    compound .other do
      word "await"
      return [← primary g]
  else primary g

/-! ## Arithmetic -/

/-- A power. -/
def power : Parser Node := do
  let start ← here
  let base ← awaited g
  if ← signNext "**" then
    sign "**"
    closeAt start .other [base, ← g .factor]
  else return base

/-- An operand of a multiplication, possibly with a sign. -/
def factor : Parser Node := do
  if ← nextIs fun t => isSign t "+" || isSign t "-" || isSign t "~" then
    compound .other do
      oneSign ["+", "-", "~"]
      return [← g .factor]
  else power g

/-- Products. -/
def term : Parser Node := chain (oneSign ["*", "/", "//", "%", "\x40"]) (factor g)

/-- Sums. -/
def sum : Parser Node := chain (oneSign ["+", "-"]) (term g)

/-- Shifts. -/
def shift : Parser Node := chain (oneSign ["<<", ">>"]) (sum g)

/-- Bitwise conjunctions. -/
def bitwiseAnd : Parser Node := chain (sign "&") (shift g)

/-- Bitwise exclusive disjunctions. -/
def bitwiseXor : Parser Node := chain (sign "^") (bitwiseAnd g)

/-- Bitwise disjunctions. -/
def bitwiseOr : Parser Node := chain (sign "|") (bitwiseXor g)

/-! ## Logic -/

/-- Comparisons. -/
def comparison : Parser Node := chain comparisonOperator (bitwiseOr g)

/-- An operand of `and`. -/
def inversion : Parser Node := do
  if ← wordNext "not" then
    compound .other do
      word "not"
      return [← g .inversion]
  else comparison g

/-- Conjunctions. -/
def conjunction : Parser Node := chain (word "and") (inversion g)

/-- Disjunctions. -/
def disjunction : Parser Node := chain (word "or") (conjunction g)

/-! ## Parameters -/

/-- What has been seen of a list of parameters. -/
structure ParameterState where
  /-- A parameter. -/
  any : Bool := false
  /-- The slash that ends the positional-only ones. -/
  slash : Bool := false
  /-- A default value. -/
  default : Bool := false
  /-- The star that ends the positional ones. -/
  star : Bool := false
  /-- A lone star, after which a parameter has to come. -/
  pending : Bool := false

/-- The annotation of a parameter, where annotations are allowed. -/
def parameterType (annotated starred : Bool) : Parser (List Node) := do
  if annotated && (← signNext ":") then
    sign ":"
    return [← if starred then starExpression g else g .expression]
  else return []

/-- One parameter or mark in a list of parameters: its parts, what has been
seen then, and whether it has to be the last. -/
def parameter (annotated : Bool) (s : ParameterState) :
    Parser (List Node × ParameterState × Bool) := do
  if ← signNext "/" then
    check (s.any && !s.slash && !s.star)
    sign "/"
    return ([], { s with slash := true }, false)
  else if ← signNext "**" then
    check (!s.pending)
    sign "**"
    let _ ← identifier
    let type ← parameterType g annotated false
    return (type, s, true)
  else if ← signNext "*" then
    check (!s.star)
    sign "*"
    if ← signNext "," then return ([], { s with star := true, pending := true }, false)
    else
      let _ ← identifier
      let type ← parameterType g annotated true
      return (type, { s with star := true }, false)
  else
    let _ ← identifier
    let type ← parameterType g annotated false
    if ← signNext "=" then
      sign "="
      let value ← g .expression
      return (type ++ [value],
        { s with any := true, default := s.default || !s.star, pending := false }, false)
    else
      check (!s.default || s.star)
      return (type, { s with any := true, pending := false }, false)

/-- A list of parameters before the closing sign, which is not taken. The
clock is the list of tokens left. -/
def parametersWithin (annotated : Bool) (closing : String) :
    List Token → ParameterState → Parser (List Node)
  | [], _ => failure
  | _ :: clock, s => do
    if ← signNext closing then
      check (!s.pending)
      return []
    else
      let (parts, s, final) ← parameter g annotated s
      if ← signNext "," then
        sign ","
        if final then return parts
        else return parts ++ (← parametersWithin annotated closing clock s)
      else
        check (!s.pending)
        return parts

/-- A list of parameters before the closing sign. -/
def parameters (annotated : Bool) (closing : String) : Parser (List Node) := fun s =>
  parametersWithin g annotated closing s.rest {} s

/-! ## Whole expressions -/

/-- A lambda. -/
def lambda : Parser Node :=
  compound .other do
    word "lambda"
    let defaults ← parameters g false ":"
    sign ":"
    return defaults ++ [← g .expression]

/-- A lambda, a conditional, or a disjunction. -/
def expression : Parser Node := do
  if ← wordNext "lambda" then lambda g
  else
    let start ← here
    let value ← disjunction g
    if ← wordNext "if" then
      word "if"
      let condition ← disjunction g
      word "else"
      closeAt start .other [value, condition, ← g .expression]
    else return value

/-- Expressions, possibly starred, separated by commas. -/
def starExpressions : Parser Node := tupled (starExpression g)

end TextDomain.Parser
