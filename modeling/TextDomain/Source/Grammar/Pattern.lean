import TextDomain.Source.Grammar.Expression

/-!
# Patterns

The patterns of `case` clauses. Calls can occur in them only inside formatted
string literals; the node of a pattern holds those.

A lone underscore is always the wildcard, so it begins no member and no
class pattern. A name is a capture unless a member, a class or an equals
sign follows.
-/

namespace TextDomain.Parser

variable (g : Grammar)

/-! ## Literals -/

/-- A numeral, possibly negative, or a sum or difference of a real and an
imaginary one. -/
def signedNumber : Parser Node :=
  compound .other do
    let _ ← optional? (sign "-")
    let real ← ofKind .number
    if ← nextIs fun t => isSign t "+" || isSign t "-" then
      check (!Numeral.isImaginary real.text)
      oneSign ["+", "-"]
      let imaginary ← ofKind .number
      check (Numeral.isImaginary imaginary.text)
    return []

/-- A literal. -/
def literalPattern : Parser Node := do
  match ← peek with
  | none => failure
  | some t =>
    match t.kind with
    | .string => stringLiteral g
    | .number => signedNumber
    | .sign => check (isSign t "-") *> signedNumber
    | .name => atom fun t => isWord t "None" || isWord t "True" || isWord t "False"
    | _ => failure

/-! ## Names -/

/-- Whether a token makes a name before it more than a capture. -/
def extendsName (t : Token) : Bool := isSign t "." || isSign t "(" || isSign t "="

/-- A name that a pattern binds. -/
def captureName : Parser Unit := do
  let _ ← token fun t => isIdentifier t && !isWord t "_"
  check (!(← nextIs extendsName))

/-- A name with its members; the number of members. -/
def dottedName : Parser Nat := do
  let _ ← identifier
  return (← many (sign "." *> identifier)).length

/-! ## Classes and mappings -/

/-- The arguments of a class pattern, whether or not keywords have begun. -/
def classArgument (keywords : Bool) : Parser (List Node × Bool) := do
  if ← nameThenSign "=" then
    let _ ← identifier
    sign "="
    return ([← g .pattern], true)
  else
    check (!keywords)
    return ([← g .pattern], false)

/-- The arguments of a class pattern between parentheses. -/
def classArguments : Parser (List Node) := do
  sign "("
  if ← signNext ")" then
    sign ")"
    return []
  else
    let first ← classArgument g false
    let (nodes, _) ← extend
      (fun (nodes, keywords) => do
        sign ","
        let (more, keywords) ← classArgument g keywords
        return (nodes ++ more, keywords)) first
    let _ ← optional? (sign ",")
    sign ")"
    return nodes

/-- A pattern that begins with a name. -/
def namedPattern : Parser Node :=
  compound .other do
    if ← nextIs (isWord · "_") then
      word "_"
      return []
    else
      let members ← dottedName
      if ← signNext "(" then classArguments g
      else
        check (!(← nextIs extendsName))
        let _ := members
        return []

/-- The key of a mapping pattern: a literal or a member. -/
def mappingKey : Parser (List Node) := do
  if ← nextIs isIdentifier then
    let members ← dottedName
    check (members != 0)
    return []
  else return [← literalPattern g]

/-- A key and the pattern for its value. -/
def mappingEntry : Parser (List Node) := do
  let key ← mappingKey g
  sign ":"
  return key ++ [← g .pattern]

/-- The entries of a mapping pattern; a double star comes last. -/
def mappingEntries : Parser (List Node) := do
  let entries ← optional? (commaSeparated (mappingEntry g))
  match entries with
  | none =>
    sign "**"
    captureName
    return []
  | some entries =>
    let _ ← optional? (sign "," *> sign "**" *> captureName)
    return entries.flatten

/-- A mapping pattern. -/
def mappingPattern : Parser Node :=
  compound .other do
    sign "\x7b"
    if ← signNext "\x7d" then
      sign "\x7d"
      return []
    else
      let entries ← mappingEntries g
      let _ ← optional? (sign ",")
      sign "\x7d"
      return entries

/-! ## Sequences -/

/-- An element of a sequence pattern, and whether it is starred. -/
def sequenceElement : Parser (Node × Bool) := do
  if ← signNext "*" then
    let n ← compound .starred do
      sign "*"
      if ← nextIs (isWord · "_") then word "_" else captureName
      return []
    return (n, true)
  else return (← g .pattern, false)

/-- Elements that make a sequence, with a comma after the first. -/
def openSequence (first : Node) : Parser (List Node) := do
  sign ","
  let more ← optional? (commaTerminated (sequenceElement g))
  return first :: ((more.map (·.1)).getD []).map (·.1)

/-- What stands between parentheses: a sequence, or a pattern merely grouped. -/
def groupPattern : Parser Node := do
  let start ← here
  sign "("
  if ← signNext ")" then
    sign ")"
    closeAt start .other []
  else
    let (first, starred) ← sequenceElement g
    if ← signNext "," then
      let parts ← openSequence g first
      sign ")"
      closeAt start .other parts
    else
      check (!starred)
      sign ")"
      return first

/-- A sequence between square brackets. -/
def listPattern : Parser Node :=
  compound .other do
    sign "["
    if ← signNext "]" then
      sign "]"
      return []
    else
      let (elements, _) ← commaTerminated (sequenceElement g)
      sign "]"
      return elements.map (·.1)

/-! ## Whole patterns -/

/-- A pattern without alternatives. -/
def closedPattern : Parser Node := do
  match ← peek with
  | none => failure
  | some t =>
    if isIdentifier t then namedPattern g
    else if isSign t "(" then groupPattern g
    else if isSign t "[" then listPattern g
    else if isSign t "\x7b" then mappingPattern g
    else literalPattern g

/-- Alternatives, possibly bound to a name. -/
def pattern : Parser Node := do
  let start ← here
  let n ← chain (sign "|") (closedPattern g)
  if ← wordNext "as" then
    word "as"
    captureName
    closeAt start .other [n]
  else return n

/-- The patterns of a `case` clause: one, or a sequence without brackets. -/
def patterns : Parser Node := do
  let start ← here
  let (first, starred) ← sequenceElement g
  if ← signNext "," then
    let parts ← openSequence g first
    closeAt start .other parts
  else
    check (!starred)
    return first

end TextDomain.Parser
