import TextDomain.Decimal.Shortest
import TextDomain.Text.Quoted

/-!
# Data values

A diagnostic carries data for its message, and a host may attach any value to
an argument that is not a literal. Such values are trees of the usual kinds.

A value has two texts. `display` is what a message shows: a text stands for
itself. `written` is how the value appears inside a list or an object, where a
text is quoted. The two differ on texts only.
-/

namespace TextDomain

/-- A data value. -/
inductive Datum where
  /-- Nothing. -/
  | null
  /-- A truth value. -/
  | bool (b : Bool)
  /-- A whole number of any size. -/
  | int (n : Int)
  /-- A double. -/
  | float (x : Binary64)
  /-- A text. -/
  | text (t : Text)
  /-- A list of values. -/
  | list (items : List Datum)
  /-- Named values in a fixed order. -/
  | object (fields : List (Text × Datum))
  deriving Inhabited

namespace Datum

mutual

/-- The value as it appears inside another value. -/
def written : Datum → Text
  | .null => "None".toList
  | .bool true => "True".toList
  | .bool false => "False".toList
  | .int n => Text.ofInt n
  | .float x => x.text
  | .text t => t.quoted
  | .list items => Text.bracketed '[' ']' (writtenItems items)
  | .object fields => Text.bracketed '{' '}' (writtenFields fields)

/-- The items of a list, each written. -/
def writtenItems : List Datum → List Text
  | [] => []
  | d :: rest => written d :: writtenItems rest

/-- The fields of an object, each written as its quoted name and its value. -/
def writtenFields : List (Text × Datum) → List Text
  | [] => []
  | (name, d) :: rest => (name.quoted ++ ':' :: ' ' :: written d) :: writtenFields rest

end

/-- The value as a message shows it. -/
def display : Datum → Text
  | .text t => t
  | d => d.written

/-- The value of a field, if the object has it. -/
def field? (name : Text) (fields : List (Text × Datum)) : Option Datum :=
  (fields.find? fun f => f.1 == name).map (·.2)

end Datum

end TextDomain
