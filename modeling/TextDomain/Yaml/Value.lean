import TextDomain.Decimal.Shortest
import TextDomain.Text.Quoted
import TextDomain.Text.Utf8
import TextDomain.Yaml.Timestamp

/-!
# Values of documents

The keys of a mapping are pairwise different, where numbers are compared
across types: a truth value counts as zero or one, and a whole number equals a
double of the same size. A later entry of an equal key takes the place of the
earlier value; the earlier key stays, at its place.

## Main results

* `put_keys` — putting an entry keeps the keys that are there, in their order.
-/

namespace TextDomain.Yaml

/-- A value. -/
inductive Value where
  /-- Nothing. -/
  | null
  /-- A truth value. -/
  | bool (b : Bool)
  /-- A whole number. -/
  | int (n : Int)
  /-- A double. -/
  | float (x : Binary64)
  /-- A text. -/
  | text (t : Text)
  /-- Bytes. -/
  | bytes (b : Bytes)
  /-- A day. -/
  | date (d : Date)
  /-- A time on a day. -/
  | moment (m : Moment)
  /-- A sequence. -/
  | sequence (items : List Value)
  /-- An entry of a sequence of pairs. -/
  | pair (key value : Value)
  /-- A mapping. -/
  | mapping (entries : List (Value × Value))
  /-- A set. -/
  | set (items : List Value)
  /-- A collection that encloses this place. -/
  | enclosing
deriving Inhabited

namespace Value

/-- Whether a value may be a key: collections may not. -/
def isKey : Value → Bool
  | .sequence _ | .mapping _ | .set _ | .pair .. | .enclosing => false
  | _ => true

/-- The whole number that a value is equal to. -/
def toInt? : Value → Option Int
  | .bool b => some (if b then 1 else 0)
  | .int n => some n
  | .float x => x.toInt?
  | _ => none

/-- Whether two keys are equal. -/
def sameKey (a b : Value) : Bool :=
  match a.toInt?, b.toInt? with
  | some m, some n => m == n
  | none, none =>
    match a, b with
    | .null, .null => true
    | .float x, .float y => x == y
    | .text t, .text u => t == u
    | .bytes t, .bytes u => t == u
    | .date d, .date e => d == e
    | .moment m, .moment n => m.same n
    | _, _ => false
  | _, _ => false

/-- Puts an entry into a mapping. -/
def put (key value : Value) : List (Value × Value) → List (Value × Value)
  | [] => [(key, value)]
  | (k, v) :: rest => if k.sameKey key then (k, value) :: rest else (k, v) :: put key value rest

/-- Putting an entry keeps the keys that are there, in their order. -/
theorem put_keys (key value : Value) (entries : List (Value × Value)) :
    entries.map (·.1) <+: (put key value entries).map (·.1) := by
  induction entries with
  | nil => exact List.nil_prefix
  | cons e rest ih =>
    simp only [put]
    split
    · simp
    · simpa using ih

/-- The value of a text key. -/
def get? (key : Text) (entries : List (Value × Value)) : Option Value :=
  (entries.find? fun e => e.1.sameKey (.text key)).map (·.2)

/-- One byte in the written form of bytes. -/
def quotedByte (mark : Char) (b : UInt8) : Text :=
  if b.toNat < 0x7F then Text.quotedChar mark (Char.ofNat b.toNat)
  else '\\' :: 'x' :: Text.hexDigits 2 b.toNat

/-- The written form of bytes: ASCII in quote marks, behind a letter. -/
def quotedBytes (bytes : Bytes) : Text :=
  let mark := Text.quoteMark (bytes.map fun b => Char.ofNat b.toNat)
  'b' :: mark :: bytes.flatMap (quotedByte mark) ++ [mark]

/-- The text of a key that has one. Collections are no keys and have none. -/
def keyText : Value → Text
  | .null => "None".toList
  | .bool true => "True".toList
  | .bool false => "False".toList
  | .int n => Text.ofInt n
  | .float x => x.text
  | .text t => t
  | .bytes b => quotedBytes b
  | .date d => d.text
  | .moment m => m.text
  | _ => []

/-- The most digits that a whole number may have to be written. -/
def maxDigits : Nat := 4300

/-- Whether a key has a text: a whole number of more digits has none. -/
def hasText : Value → Bool
  | .int n => decide (n.natAbs < Nat.pow 10 maxDigits)
  | _ => true

/-- The name of the type of a value. -/
def typeName : Value → String
  | .null => "NoneType"
  | .bool _ => "bool"
  | .int _ => "int"
  | .float _ => "float"
  | .text _ => "str"
  | .bytes _ => "bytes"
  | .date _ => "date"
  | .moment _ => "datetime"
  | .sequence _ => "list"
  | .pair .. => "tuple"
  | .mapping _ => "dict"
  | .set _ => "set"
  | .enclosing => "object"

end Value

end TextDomain.Yaml
