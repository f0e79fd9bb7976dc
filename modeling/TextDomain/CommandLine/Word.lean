import TextDomain.Text.DecimalDigit
import TextDomain.Text.Quoted

/-!
# Words of a command line

A word is an argument, a flag, or the mark behind which all words are
arguments. A flag may carry its value behind an equals sign, and a long flag
may be cut short as long as only one flag begins so. What looks like a flag
and is none stays a flag, without a meaning; but negative numbers and words
with a space are arguments.

Flags of one letter may be written together behind one hyphen.
-/

namespace TextDomain.CommandLine

/-- A flag of a command. -/
structure Flag where
  /-- Its names, hyphens included. -/
  names : List Text
  /-- Whether it takes a value. -/
  takesValue : Bool
deriving DecidableEq

/-- The flag as errors name it. -/
def Flag.label (f : Flag) : Text := Text.join ['/'] f.names

/-- A flag as it is written. -/
structure WrittenFlag where
  /-- The flag that is meant, if there is one. -/
  flag : Option Flag
  /-- The name by which it is meant. -/
  name : Text
  /-- The value that it carries. -/
  value : Option Text := none
deriving DecidableEq

/-- What a word is. -/
inductive Word where
  /-- An argument. -/
  | argument (t : Text)
  /-- A flag, and the word that it is written as. -/
  | flag (t : Text) (f : WrittenFlag)
  /-- The mark behind which all words are arguments. -/
  | mark
deriving DecidableEq

/-- The word as it is written. -/
def Word.text : Word → Text
  | .argument t => t
  | .flag t _ => t
  | .mark => ['-', '-']

/-- Whether a word is a flag. -/
def Word.isFlag : Word → Bool
  | .flag .. => true
  | _ => false

/-! ## Reading words -/

/-- The flags by their names, in the order in which they are listed. -/
def byName (flags : List Flag) : List (Text × Flag) :=
  flags.flatMap fun f => f.names.map (·, f)

/-- The flag of a name. -/
def named? (flags : List Flag) (name : Text) : Option Flag := (byName flags).lookup name

/-- What comes before and behind the first equals sign. -/
def splitAtEquals (t : Text) : Text × Option Text :=
  match t.dropWhile (· != '=') with
  | [] => (t, none)
  | _ :: value => (t.takeWhile (· != '='), some value)

/-- Whether a name begins with two hyphens. -/
def isLong (name : Text) : Bool := Text.startsWith ['-', '-'] name

/-- The flags that a word may be short for. -/
def candidates (flags : List Flag) (t : Text) : List WrittenFlag :=
  if isLong t then
    let (start, value) := splitAtEquals t
    ((byName flags).filter fun (name, _) => Text.startsWith start name).map fun (name, f) =>
      ⟨some f, name, value⟩
  else
    (byName flags).filterMap fun (name, f) =>
      if name = t.take 2 then some ⟨some f, name, some (t.drop 2)⟩
      else if Text.startsWith t name then some ⟨some f, name, none⟩
      else none

/-- Whether a word is a negative number. -/
def isNegativeNumber (t : Text) : Bool :=
  let isDigit (c : Char) : Bool := (Text.decimalValue? c).isSome
  match if t.getLast? = some '\n' then t.dropLast else t with
  | '-' :: rest =>
    match rest.dropWhile isDigit with
    | [] => !rest.isEmpty
    | '.' :: digits => !digits.isEmpty && digits.all isDigit
    | _ => false
  | _ => false

/-- What a word is that begins with a hyphen, holds more, and names no flag. -/
def unnamedWord (flags : List Flag) (t : Text) : Except Text Word :=
  match candidates flags t with
  | [f] => .ok (.flag t f)
  | [] => if isNegativeNumber t || t.contains ' ' then .ok (.argument t) else .ok (.flag t ⟨none, t, none⟩)
  | fs =>
    .error ("ambiguous option: ".toList ++ t ++ " could match ".toList ++
      Text.join [',', ' '] (fs.map (·.name)))

/-- What a word is in front of the mark. -/
def word (flags : List Flag) (t : Text) : Except Text Word :=
  match t with
  | '-' :: _ :: _ =>
    match named? flags t with
    | some f => .ok (.flag t ⟨some f, t, none⟩)
    | none =>
      let (start, value) := splitAtEquals t
      match value, named? flags start with
      | some v, some f => .ok (.flag t ⟨some f, start, some v⟩)
      | _, _ => unnamedWord flags t
  | _ => .ok (.argument t)

/-- What words are, or why one of them is ambiguous. -/
def words (flags : List Flag) : List Text → Except Text (List Word)
  | [] => .ok []
  | t :: rest =>
    if t = ['-', '-'] then .ok (.mark :: rest.map .argument)
    else do
      let w ← word flags t
      let ws ← words flags rest
      .ok (w :: ws)

/-! ## Flags and their values -/

/-- An error about a flag. -/
def flagError (f : Flag) (reason : Text) : Text :=
  "argument ".toList ++ f.label ++ ": ".toList ++ reason

/-- The error about a value that a flag does not take. -/
def ignoredValue (f : Flag) (value : Text) : Text :=
  flagError f ("ignored explicit argument ".toList ++ value.quoted)

/-- A flag in force, with the value that it got. -/
structure Setting where
  /-- The flag. -/
  flag : Flag
  /-- Its value. -/
  value : Option Text := none

/-- An explicit value; the mark stands for none. -/
def explicitValue (t : Text) : Option Text := if t = ['-', '-'] then none else some t

/-- The flags that a flag puts in force, and the words behind it that are
left. A flag without a value of its own takes the next word, which has to be
an argument. What follows a flag of one letter that takes no value is read as
more such flags, at most the given number of them. -/
def settings (flags : List Flag) (f : Flag) (name : Text) (value : Option Text)
    (rest : List Word) : Nat → Except Text (List Setting × List Word)
  | 0 => .error (flagError f "too many letters".toList)
  | fuel + 1 =>
    match value with
    | none =>
      if f.takesValue then
        match rest with
        | .argument t :: rest => .ok ([⟨f, some t⟩], rest)
        | _ => .error (flagError f "expected one argument".toList)
      else .ok ([⟨f, none⟩], rest)
    | some v =>
      if f.takesValue then .ok ([⟨f, explicitValue v⟩], rest)
      else
        match v, isLong name with
        | c :: letters, false =>
          match named? flags ['-', c] with
          | none => .error (ignoredValue f v)
          | some g => do
            let value := if letters.isEmpty then none else some letters
            let (more, rest) ← settings flags g ['-', c] value rest fuel
            .ok (⟨f, none⟩ :: more, rest)
        | _, _ => .error (ignoredValue f v)

/-- The flags that a written flag puts in force, and the words behind it that
are left. -/
def WrittenFlag.settings (flags : List Flag) (w : WrittenFlag) (f : Flag) (rest : List Word) :
    Except Text (List Setting × List Word) :=
  CommandLine.settings flags f w.name w.value rest ((w.value.getD []).length + 1)

end TextDomain.CommandLine
