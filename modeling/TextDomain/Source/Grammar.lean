import TextDomain.Source.Grammar.Statement
import TextDomain.Text.Line

/-!
# The grammar of Python source

The rules of the grammar, one for each goal, and the grammar that they
determine. A rule reads nested phrases through the grammar it is given; the
grammar of a given depth gives its rules the grammar of the depth below.

Depth is bounded by the length of the source: between one use of the grammar
inside another and the next, at least one token is consumed.

The grammar is that of Python 3.11. What only a compiler refuses — a `return`
outside of a function, a starred expression alone — is read.
-/

namespace TextDomain

namespace Parser

/-- The rule for each goal, over a grammar for the phrases inside. -/
def rules (g : Grammar) : Grammar
  | .expression => expression g
  | .disjunction => disjunction g
  | .inversion => inversion g
  | .bitwiseOr => bitwiseOr g
  | .factor => factor g
  | .primary => primary g
  | .starExpressions => starExpressions g
  | .block => block g
  | .pattern => pattern g

/-- The grammar for phrases nested at most `depth` deep. -/
def grammar : Nat → Grammar
  | 0 => fun _ => failure
  | depth + 1 => rules (grammar depth)

/-- A whole file. -/
def file (depth : Nat) : Parser Node :=
  compound .other do
    let nodes ← statements (grammar depth)
    let _ ← ofKind .finish
    return nodes

end Parser

/-- The syntax tree of a source, if the source is well-formed. All line
terminators count as LF. -/
def Node.ofSource? (source : Text) : Option Node := do
  let text := source.unifyTerminators
  let tokens ← Token.lex? text
  let (n, _) ← Parser.file (4 * text.length + 16) ⟨tokens, .origin⟩
  return n

end TextDomain
