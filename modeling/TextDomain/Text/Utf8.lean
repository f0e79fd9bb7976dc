import TextDomain.Text.Basic

/-!
# UTF-8

Positions inside a line of source are counted in bytes of UTF-8, and files
hold bytes, so both directions are needed: the width of a text, its bytes, and
the strict reading of bytes (no overlong forms, no surrogates, nothing above
`10FFFF`).

## Main results

* `byteWidth_append` — widths add up.
* `takeBytes_append_dropBytes` — a cut at a byte count loses no character.
* `byteWidth_takeBytes_le` — and keeps within the count.
* `takeBytes_byteWidth` — a cut at the width of a beginning gives that
  beginning.
* `decode?_encode` — the bytes of a text are read as that text.
-/

namespace TextDomain

/-- A file's content. -/
abbrev Bytes := List UInt8

namespace Text

/-! ## Width -/

/-- The number of bytes that a character takes. -/
def charWidth (c : Char) : Nat :=
  if c.toNat < 0x80 then 1
  else if c.toNat < 0x800 then 2
  else if c.toNat < 0x10000 then 3
  else 4

theorem charWidth_pos (c : Char) : 0 < charWidth c := by
  unfold charWidth; repeat' split
  all_goals decide

/-- The number of bytes that a text takes. -/
def byteWidth : Text → Nat
  | [] => 0
  | c :: rest => charWidth c + byteWidth rest

@[simp] theorem byteWidth_append (t u : Text) :
    byteWidth (t ++ u) = byteWidth t + byteWidth u := by
  induction t with
  | nil => simp [byteWidth]
  | cons c t ih => simp [byteWidth, ih, Nat.add_assoc]

/-- The longest beginning of the text that takes at most `n` bytes: a
character that the cut would split is left out. -/
def takeBytes : Nat → Text → Text
  | _, [] => []
  | n, c :: rest => if charWidth c ≤ n then c :: takeBytes (n - charWidth c) rest else []

/-- What follows `takeBytes`. -/
def dropBytes : Nat → Text → Text
  | _, [] => []
  | n, c :: rest => if charWidth c ≤ n then dropBytes (n - charWidth c) rest else c :: rest

theorem takeBytes_append_dropBytes (n : Nat) (t : Text) :
    takeBytes n t ++ dropBytes n t = t := by
  induction t generalizing n with
  | nil => rfl
  | cons c rest ih =>
    simp only [takeBytes, dropBytes]
    split
    · simp [ih]
    · rfl

theorem byteWidth_takeBytes_le (n : Nat) (t : Text) : byteWidth (takeBytes n t) ≤ n := by
  induction t generalizing n with
  | nil => simp [takeBytes, byteWidth]
  | cons c rest ih =>
    simp only [takeBytes]
    split
    · have := ih (n - charWidth c)
      simp only [byteWidth]; omega
    · simp [byteWidth]

/-- Every character takes a byte at least. -/
theorem length_le_byteWidth (t : Text) : t.length ≤ byteWidth t := by
  induction t with
  | nil => simp
  | cons c rest ih =>
    have := charWidth_pos c
    simp only [List.length_cons, byteWidth]
    omega

/-- A cut at the width of a beginning gives that beginning. -/
theorem takeBytes_byteWidth (t u : Text) : takeBytes (byteWidth t) (t ++ u) = t := by
  induction t with
  | nil =>
    cases u with
    | nil => rfl
    | cons c rest =>
      have := charWidth_pos c
      simp only [byteWidth, List.nil_append, takeBytes]
      rw [if_neg (by omega)]
  | cons c rest ih =>
    simp only [byteWidth, List.cons_append, takeBytes]
    rw [if_pos (by omega), Nat.add_sub_cancel_left, ih]

/-! ## Bytes -/

/-- The bytes of one character. -/
def encodeChar (c : Char) : Bytes :=
  let n := c.toNat
  if n < 0x80 then [UInt8.ofNat n]
  else if n < 0x800 then [UInt8.ofNat (0xC0 + n / 64), UInt8.ofNat (0x80 + n % 64)]
  else if n < 0x10000 then
    [UInt8.ofNat (0xE0 + n / 4096), UInt8.ofNat (0x80 + n / 64 % 64), UInt8.ofNat (0x80 + n % 64)]
  else
    [UInt8.ofNat (0xF0 + n / 262144), UInt8.ofNat (0x80 + n / 4096 % 64),
      UInt8.ofNat (0x80 + n / 64 % 64), UInt8.ofNat (0x80 + n % 64)]

/-- The bytes of a text. -/
def encode (t : Text) : Bytes := t.flatMap encodeChar

/-- The number `n` shifted by one continuation byte, which must lie in
`80`–`BF`. -/
def extendBy? (n : Nat) (b : UInt8) : Option Nat :=
  if 0x80 ≤ b.toNat ∧ b.toNat ≤ 0xBF then some (n * 64 + (b.toNat - 0x80)) else none

/-- A code point that is at least `least` (the form is not overlong) and no
surrogate. -/
def scalar? (least n : Nat) : Option Char :=
  if least ≤ n ∧ n ≤ 0x10FFFF ∧ ¬(0xD800 ≤ n ∧ n ≤ 0xDFFF) then some (Char.ofNat n) else none

/-- The text of the bytes, if they are well-formed UTF-8. -/
def decode? : Bytes → Option Text
  | [] => some []
  | a :: rest =>
    let n := a.toNat
    if n < 0x80 then (decode? rest).map (Char.ofNat n :: ·)
    else if 0xC2 ≤ n ∧ n ≤ 0xDF then
      match rest with
      | b :: rest => do
        let c ← scalar? 0x80 (← extendBy? (n - 0xC0) b)
        (decode? rest).map (c :: ·)
      | _ => none
    else if 0xE0 ≤ n ∧ n ≤ 0xEF then
      match rest with
      | b :: c :: rest => do
        let c ← scalar? 0x800 (← extendBy? (← extendBy? (n - 0xE0) b) c)
        (decode? rest).map (c :: ·)
      | _ => none
    else if 0xF0 ≤ n ∧ n ≤ 0xF4 then
      match rest with
      | b :: c :: d :: rest => do
        let c ← scalar? 0x10000 (← extendBy? (← extendBy? (← extendBy? (n - 0xF0) b) c) d)
        (decode? rest).map (c :: ·)
      | _ => none
    else none

/-! ## Reading back -/

/-- Code points of characters are no surrogates and lie below `110000`. -/
theorem toNat_range (c : Char) : c.toNat < 0xD800 ∨ 0xDFFF < c.toNat ∧ c.toNat < 0x110000 :=
  c.valid

theorem scalar?_toNat {least : Nat} {c : Char} (h : least ≤ c.toNat) :
    scalar? least c.toNat = some c := by
  have hrange := toNat_range c
  have hscalar : least ≤ c.toNat ∧ c.toNat ≤ 0x10FFFF ∧ ¬(0xD800 ≤ c.toNat ∧ c.toNat ≤ 0xDFFF) := by
    omega
  rw [scalar?, if_pos hscalar, Char.ofNat_toNat]

theorem extendBy?_ofNat (n : Nat) {k : Nat} (h : k < 64) :
    extendBy? n (UInt8.ofNat (0x80 + k)) = some (n * 64 + k) := by
  have hbyte : (UInt8.ofNat (0x80 + k)).toNat = 0x80 + k := by
    rw [UInt8.toNat_ofNat']
    omega
  rw [extendBy?, hbyte, if_pos (by omega)]
  simp

/-- The bytes of a character are read as that character. -/
theorem decode?_encodeChar_append (c : Char) (bytes : Bytes) :
    decode? (encodeChar c ++ bytes) = (decode? bytes).map (c :: ·) := by
  have hrange := toNat_range c
  unfold encodeChar
  dsimp only
  split
  next h1 =>
    have ha : (UInt8.ofNat c.toNat).toNat = c.toNat := by
      rw [UInt8.toNat_ofNat']
      omega
    rw [List.cons_append, List.nil_append, decode?.eq_def]
    dsimp only
    rw [ha, if_pos h1, Char.ofNat_toNat]
  next h1 =>
    split
    next h2 =>
      have ha : (UInt8.ofNat (0xC0 + c.toNat / 64)).toNat = 0xC0 + c.toNat / 64 := by
        rw [UInt8.toNat_ofNat']
        omega
      have hn : c.toNat / 64 * 64 + c.toNat % 64 = c.toNat := by omega
      simp only [List.cons_append, List.nil_append, decode?, ha]
      rw [if_neg (by omega), if_pos (by omega), Nat.add_sub_cancel_left,
        extendBy?_ofNat _ (Nat.mod_lt _ (by decide)), hn]
      simp only [Option.bind_eq_bind, Option.bind_some]
      rw [scalar?_toNat (by omega)]
      rfl
    next h2 =>
      split
      next h3 =>
        have ha : (UInt8.ofNat (0xE0 + c.toNat / 4096)).toNat = 0xE0 + c.toNat / 4096 := by
          rw [UInt8.toNat_ofNat']
          omega
        have hn : (c.toNat / 4096 * 64 + c.toNat / 64 % 64) * 64 + c.toNat % 64 = c.toNat := by
          omega
        simp only [List.cons_append, List.nil_append, decode?, ha]
        rw [if_neg (by omega), if_neg (by omega), if_pos (by omega), Nat.add_sub_cancel_left,
          extendBy?_ofNat _ (Nat.mod_lt _ (by decide))]
        simp only [Option.bind_eq_bind, Option.bind_some]
        rw [extendBy?_ofNat _ (Nat.mod_lt _ (by decide)), hn]
        simp only [Option.bind_some]
        rw [scalar?_toNat (by omega)]
        rfl
      next h3 =>
        have ha : (UInt8.ofNat (0xF0 + c.toNat / 262144)).toNat = 0xF0 + c.toNat / 262144 := by
          rw [UInt8.toNat_ofNat']
          omega
        have hn : ((c.toNat / 262144 * 64 + c.toNat / 4096 % 64) * 64 + c.toNat / 64 % 64) * 64 +
            c.toNat % 64 = c.toNat := by
          omega
        simp only [List.cons_append, List.nil_append, decode?, ha]
        rw [if_neg (by omega), if_neg (by omega), if_neg (by omega), if_pos (by omega),
          Nat.add_sub_cancel_left, extendBy?_ofNat _ (Nat.mod_lt _ (by decide))]
        simp only [Option.bind_eq_bind, Option.bind_some]
        rw [extendBy?_ofNat _ (Nat.mod_lt _ (by decide))]
        simp only [Option.bind_some]
        rw [extendBy?_ofNat _ (Nat.mod_lt _ (by decide)), hn]
        simp only [Option.bind_some]
        rw [scalar?_toNat (by omega)]
        rfl

/-- The bytes of a text are read as that text. -/
theorem decode?_encode (t : Text) : decode? (encode t) = some t := by
  induction t with
  | nil => rfl
  | cons c rest ih =>
    rw [encode, List.flatMap_cons, decode?_encodeChar_append]
    rw [encode] at ih
    rw [ih]
    rfl

end Text

end TextDomain
