import TextDomain.Yaml.Base64
import TextDomain.Yaml.Number
import TextDomain.Yaml.Tag
import TextDomain.Yaml.Value

/-!
# The types of scalars

The form of an untagged plain scalar decides its type: a truth value, a
number, nothing, a timestamp, one of the two special keys of mappings, and a
text otherwise. The type decides how the scalar is read.

A line break at the end does not belong to the form.
-/

namespace TextDomain.Yaml

namespace Tag

/-- The tag of texts. -/
def text : Tag := standard "str"

/-- The tag of sequences. -/
def sequence : Tag := standard "seq"

/-- The tag of mappings. -/
def mapping : Tag := standard "map"

/-- The tag of sets. -/
def set : Tag := standard "set"

/-- The tag of the key under which other mappings are taken in. -/
def merge : Tag := standard "merge"

/-- The tag of the key under which a mapping holds its own scalar. -/
def value : Tag := standard "value"

/-- Whether the tag is one of the two for sequences of pairs. -/
def isPairs (t : Tag) : Bool := t == standard "omap" || t == standard "pairs"

end Tag

/-- The truth values, by the words for them in lower case. -/
def booleans : List (String × Bool) :=
  [("yes", true), ("no", false), ("true", true), ("false", false), ("on", true), ("off", false)]

/-- Whether a word is another in lower case, with a capital, or in capitals. -/
def isCasingOf (word : String) (t : Text) : Bool :=
  match word.toList with
  | [] => t.isEmpty
  | c :: rest => t == c :: rest || t == c.toUpper :: rest || t == c.toUpper :: rest.map Char.toUpper

/-- A text without a line break at its end. -/
def dropLastBreak (t : Text) : Text := if t.getLast? = some '\n' then t.dropLast else t

/-- The type that the form of a scalar decides. -/
def implicitTag (text : Text) : Tag :=
  let t := dropLastBreak text
  if t.isEmpty ∧ !text.isEmpty then Tag.text
  else if t.isEmpty ∨ t = ['~'] ∨ isCasingOf "null" t then standard "null"
  else if booleans.any fun (word, _) => isCasingOf word t then standard "bool"
  else if isFraction t then standard "float"
  else if isWholeNumber t then standard "int"
  else if t = ['<', '<'] then Tag.merge
  else if t = ['='] then Tag.value
  else if Timestamp.isTimestamp t then standard "timestamp"
  else if t = ['!'] ∨ t = ['&'] ∨ t = ['*'] then standard "yaml"
  else Tag.text

/-- The truth value that a word stands for. -/
def boolean (t : Text) : Except Fault Bool :=
  let word := Text.lowerAscii t
  match booleans.find? (·.1.toList == word) with
  | some (_, b) => .ok b
  | none => .error (.notBoolean word)

/-- The day or moment that a text denotes. -/
def timestamp (t : Text) : Except Fault Value :=
  match Timestamp.read? (dropLastBreak t) with
  | none => .error .notTimestamp
  | some (.date d) => if d.exists_ then .ok (.date d) else .error .impossible
  | some (.moment m) => if m.exists_ then .ok (.moment m) else .error .impossible

/-- The value of a scalar of a type. -/
def scalarValue (tag : Tag) (t : Text) : Except Fault Value :=
  if tag = Tag.text then .ok (.text t)
  else if tag = standard "null" then .ok .null
  else if tag = standard "bool" then .bool <$> boolean t
  else if tag = standard "int" then .int <$> wholeNumber t
  else if tag = standard "float" then .float <$> fraction t
  else if tag = standard "timestamp" then timestamp t
  else if tag = standard "binary" then
    match Base64.decode? t with
    | some b => .ok (.bytes b)
    | none => .error .malformed
  else .error .malformed

end TextDomain.Yaml
