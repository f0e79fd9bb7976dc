import TextDomain.Datum.Basic

/-!
# Data values as JSON

The machine-readable output is JSON over ASCII alone. Every element of a list
and every field of an object has a line of its own, two blanks deeper than its
parent; empty lists and objects stay on one line. In strings the double quote,
the backslash and everything outside the printable ASCII range is escaped;
a character above `FFFF` takes two escapes, one for each half of its surrogate
pair.
-/

namespace TextDomain.Datum

/-- A number below `10000` hexadecimal as an escape of four digits. -/
def unitEscape (n : Nat) : Text := '\\' :: 'u' :: Text.hexDigits 4 n

/-- One character inside a JSON string. -/
def jsonChar (c : Char) : Text :=
  let n := c.toNat
  if c = '"' ∨ c = '\\' then ['\\', c]
  else if 0x20 ≤ n ∧ n ≤ 0x7E then [c]
  else if n = 0x08 then ['\\', 'b']
  else if n = 0x09 then ['\\', 't']
  else if n = 0x0A then ['\\', 'n']
  else if n = 0x0C then ['\\', 'f']
  else if n = 0x0D then ['\\', 'r']
  else if n < 0x10000 then unitEscape n
  else unitEscape (0xD800 + (n - 0x10000) / 0x400) ++ unitEscape (0xDC00 + (n - 0x10000) % 0x400)

/-- A JSON string. -/
def jsonString (t : Text) : Text := '"' :: t.flatMap jsonChar ++ ['"']

/-- A line break followed by the blanks of the given depth. -/
def newline (depth : Nat) : Text := '\n' :: List.replicate (2 * depth) ' '

/-- Elements on lines of their own between brackets that stand at `depth`. -/
def block (opening closing : Char) (depth : Nat) (elements : List Text) : Text :=
  if elements.isEmpty then [opening, closing]
  else opening :: newline (depth + 1) ++ Text.join (',' :: newline (depth + 1)) elements ++
    newline depth ++ [closing]

mutual

/-- The value as JSON, its first line at the given depth. -/
def jsonAt (depth : Nat) : Datum → Text
  | .null => "null".toList
  | .bool true => "true".toList
  | .bool false => "false".toList
  | .int n => Text.ofInt n
  | .float x => x.written "Infinity".toList "NaN".toList
  | .text t => jsonString t
  | .list items => block '[' ']' depth (jsonItems (depth + 1) items)
  | .object fields => block '{' '}' depth (jsonFields (depth + 1) fields)

/-- The items of a list as JSON. -/
def jsonItems (depth : Nat) : List Datum → List Text
  | [] => []
  | d :: rest => jsonAt depth d :: jsonItems depth rest

/-- The fields of an object as JSON, names before values. -/
def jsonFields (depth : Nat) : List (Text × Datum) → List Text
  | [] => []
  | (name, d) :: rest => (jsonString name ++ ':' :: ' ' :: jsonAt depth d) :: jsonFields depth rest

end

/-- The value as a JSON document. -/
def json (d : Datum) : Text := jsonAt 0 d

end TextDomain.Datum
