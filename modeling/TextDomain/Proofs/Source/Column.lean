import Mathlib.Order.Bounds.Basic
import TextDomain.Proofs.Source.Line
import TextDomain.Source.Index

/-!
# How far a column of bytes reaches

A column counts bytes, and any number may be asked for: one that ends inside a
character, or past the end of its line, or past the end of the text. The index
answers all of them in the same way: it goes from the beginning of the line over
as many characters as the bytes pay for. `fitting` are the numbers of characters
that are paid for, and the answer is the greatest of them.

Two facts carry this. A cut at a number of bytes and a cut at a number of
characters are adjoint to each other (`byteWidth_take_le_iff`): `k` characters
fit exactly if the cut leaves at least `k` of them. And the characters that the
index looks at, as many as there are bytes, are never too few
(`takeBytes_take`), since each of them takes a byte at least.

## Main results

* `takeWithin_eq` — looking at fewer characters makes no difference to the cut.
* `isGreatest_takeWithin` — the cut goes over as many characters as fit.
* `offset_isGreatest` — when there is an offset, and which one it is.
-/

namespace TextDomain

namespace Text

/-! ## Cuts at bytes and at characters -/

theorem length_encodeChar (c : Char) : (encodeChar c).length = charWidth c := by
  unfold encodeChar charWidth
  dsimp only
  repeat' split
  all_goals rfl

/-- The width of a text is the number of its bytes. -/
theorem length_encode (t : Text) : (encode t).length = byteWidth t := by
  induction t with
  | nil => rfl
  | cons c rest ih =>
    rw [encode, List.flatMap_cons, List.length_append, length_encodeChar]
    rw [encode] at ih
    rw [ih, byteWidth]

/-- The first `k` characters fit into `n` bytes exactly if a cut at `n` bytes
leaves `k` characters at least. -/
theorem byteWidth_take_le_iff {t : Text} {k : Nat} (hk : k ≤ t.length) (n : Nat) :
    byteWidth (t.take k) ≤ n ↔ k ≤ (takeBytes n t).length := by
  induction t generalizing k n with
  | nil =>
    obtain rfl : k = 0 := by simpa using hk
    simp [byteWidth]
  | cons c rest ih =>
    cases k with
    | zero => simp [byteWidth]
    | succ k =>
      have hrest : k ≤ rest.length := by simpa using hk
      rw [List.take_succ_cons, byteWidth, takeBytes]
      by_cases hfits : charWidth c ≤ n
      · have htail := ih hrest (n - charWidth c)
        rw [if_pos hfits, List.length_cons]
        omega
      · rw [if_neg hfits, List.length_nil]
        omega

/-- As many characters as there are bytes are enough for the cut. -/
theorem takeBytes_take {n m : Nat} (h : n ≤ m) (t : Text) :
    takeBytes n (t.take m) = takeBytes n t := by
  induction t generalizing n m with
  | nil => rw [List.take_nil]
  | cons c rest ih =>
    have hwidth := charWidth_pos c
    cases m with
    | zero =>
      obtain rfl : n = 0 := by omega
      rw [List.take_zero, takeBytes, takeBytes, if_neg (by omega)]
    | succ m =>
      rw [List.take_succ_cons, takeBytes, takeBytes]
      by_cases hfits : charWidth c ≤ n
      · rw [if_pos hfits, if_pos hfits, ih (by omega)]
      · rw [if_neg hfits, if_neg hfits]

/-- A cut inside a character leaves what stands in front of it. -/
theorem takeBytes_inside {w v : Text} {c : Char} {n : Nat} (hle : byteWidth w ≤ n)
    (hlt : n < byteWidth w + charWidth c) : takeBytes n (w ++ c :: v) = w := by
  induction w generalizing n with
  | nil =>
    rw [byteWidth] at hlt
    rw [List.nil_append, takeBytes, if_neg (by omega)]
  | cons x w ih =>
    rw [byteWidth] at hle hlt
    rw [List.cons_append, takeBytes, if_pos (by omega), ih (by omega) (by omega)]

end Text

namespace SourceIndex

variable {text file : Text} {line : Int} {column start i : Nat}

/-! ## From a beginning of a line -/

/-- Looking at as many characters as there are bytes makes no difference to the
cut. -/
theorem takeWithin_eq (text : Text) (start column : Nat) :
    takeWithin text start column = Text.takeBytes column (text.drop start) := by
  have hbound : boundIn text.length (start + column) - start = column := by
    rw [boundIn, if_pos (by omega)]
    omega
  simp only [takeWithin, hbound]
  rw [boundIn, if_pos (by omega)]
  exact Text.takeBytes_take (Nat.le_refl column) _

/-- The numbers of characters from an offset on whose bytes are at most the given
number. -/
def fitting (text : Text) (start bytes : Nat) : Set Nat :=
  {k | start + k ≤ text.length ∧ (Text.encode ((text.drop start).take k)).length ≤ bytes}

theorem mem_fitting_iff (hstart : start ≤ text.length) {k : Nat} :
    k ∈ fitting text start column ↔ k ≤ (takeWithin text start column).length := by
  have hlength : (text.drop start).length = text.length - start := List.length_drop
  have hwithin := length_takeWithin_le text start column
  show start + k ≤ text.length ∧ (Text.encode ((text.drop start).take k)).length ≤ column ↔ _
  rw [Text.length_encode]
  constructor
  · rintro ⟨hinside, hfits⟩
    rw [takeWithin_eq]
    exact (Text.byteWidth_take_le_iff (by omega) column).1 hfits
  · intro hle
    refine ⟨by omega, (Text.byteWidth_take_le_iff (by omega) column).2 ?_⟩
    rwa [takeWithin_eq] at hle

/-- The index goes over as many characters as fit. -/
theorem isGreatest_takeWithin (hstart : start ≤ text.length) :
    IsGreatest (fitting text start column) (takeWithin text start column).length :=
  ⟨(mem_fitting_iff hstart).2 (Nat.le_refl _), fun _ hk => (mem_fitting_iff hstart).1 hk⟩

/-- More bytes pay for more characters. -/
theorem length_takeWithin_mono {column' : Nat} (hstart : start ≤ text.length)
    (h : column ≤ column') :
    (takeWithin text start column).length ≤ (takeWithin text start column').length := by
  have hfitting : (takeWithin text start column).length ∈ fitting text start column :=
    (isGreatest_takeWithin hstart).1
  exact (mem_fitting_iff hstart).1 ⟨hfitting.1, hfitting.2.trans h⟩

/-! ## Offsets -/

/-- A line begins at an offset of the text. -/
theorem start_le_length (hline : text.lineStarts[(line - 1).toNat]? = some start) :
    start ≤ text.length :=
  (Text.mem_lineStarts.1 (List.mem_of_getElem? hline)).1

theorem offset_of_line (hpos : 1 ≤ line)
    (hline : text.lineStarts[(line - 1).toNat]? = some start) (column : Nat) :
    (ofText text file).offset line column =
      .ok (start + (takeWithin text start column).length) := by
  rw [offset, if_pos hpos]
  simp only [ofText, hline]

theorem offset_of_no_line (h : line < 1 ∨ text.lineStarts.length < line) (column : Nat) :
    (ofText text file).offset line column = .error (.lineOutside line file) := by
  rw [offset]
  by_cases hpos : 1 ≤ line
  · have hnone : text.lineStarts[(line - 1).toNat]? = none := by
      rw [List.getElem?_eq_none_iff]
      omega
    rw [if_pos hpos]
    simp only [ofText, hnone]
  · rw [if_neg hpos]
    rfl

/-- Every line from the first to the last has a beginning. -/
theorem exists_start (h : ¬ (line < 1 ∨ text.lineStarts.length < line)) :
    1 ≤ line ∧ ∃ start, text.lineStarts[(line - 1).toNat]? = some start := by
  have hlt : (line - 1).toNat < text.lineStarts.length := by omega
  exact ⟨by omega, _, List.getElem?_eq_getElem hlt⟩

theorem offset_eq_error_iff {e : ContractError} :
    (ofText text file).offset line column = .error e ↔
      (line < 1 ∨ text.lineStarts.length < line) ∧ e = .lineOutside line file := by
  by_cases h : line < 1 ∨ text.lineStarts.length < line
  · rw [offset_of_no_line h]
    simp [h, eq_comm]
  · obtain ⟨hpos, start, hstart⟩ := exists_start h
    rw [offset_of_line hpos hstart]
    simp [h]

theorem offset_eq_ok_iff :
    (ofText text file).offset line column = .ok i ↔
      1 ≤ line ∧ ∃ start k, text.lineStarts[(line - 1).toNat]? = some start ∧
        IsGreatest (fitting text start column) k ∧ i = start + k := by
  constructor
  · intro hoffset
    have hinside : ¬ (line < 1 ∨ text.lineStarts.length < line) := by
      intro houtside
      rw [offset_of_no_line houtside] at hoffset
      cases hoffset
    obtain ⟨hpos, start, hstart⟩ := exists_start hinside
    rw [offset_of_line hpos hstart] at hoffset
    exact ⟨hpos, start, _, hstart, isGreatest_takeWithin (start_le_length hstart),
      (Except.ok.inj hoffset).symm⟩
  · rintro ⟨hpos, start, k, hstart, hgreatest, rfl⟩
    rw [offset_of_line hpos hstart,
      (isGreatest_takeWithin (start_le_length hstart)).unique hgreatest]

/-- There is no offset exactly for a line that the text does not have. For any
other line it is the beginning of the line plus the greatest number of characters
whose bytes fit into the column. It therefore lies in the text, grows with the
column, and for a column inside a character is the offset of that character. -/
theorem offset_isGreatest (text file : Text) (line : Int) (column : Nat) :
    (∀ e, (ofText text file).offset line column = .error e ↔
        (line < 1 ∨ text.lineStarts.length < line) ∧ e = .lineOutside line file) ∧
      (∀ i, (ofText text file).offset line column = .ok i ↔
        1 ≤ line ∧ ∃ start k, text.lineStarts[(line - 1).toNat]? = some start ∧
          IsGreatest (fitting text start column) k ∧ i = start + k) ∧
      (∀ i, (ofText text file).offset line column = .ok i → i ≤ text.length) ∧
      (∀ column' i i', column ≤ column' → (ofText text file).offset line column = .ok i →
        (ofText text file).offset line column' = .ok i' → i ≤ i') ∧
      ∀ start w c v, 1 ≤ line → text.lineStarts[(line - 1).toNat]? = some start →
        text.drop start = w ++ c :: v → (Text.encode w).length ≤ column →
        column < (Text.encode (w ++ [c])).length →
        (ofText text file).offset line column = .ok (start + w.length) := by
  refine ⟨fun e => offset_eq_error_iff, fun i => offset_eq_ok_iff, ?_, ?_, ?_⟩
  · intro i hoffset
    obtain ⟨-, start, k, -, ⟨hinside, -⟩, rfl⟩ := offset_eq_ok_iff.1 hoffset
    exact hinside.1
  · intro column' i i' hle hoffset hoffset'
    obtain ⟨hpos, start, -, hstart, -⟩ := offset_eq_ok_iff.1 hoffset
    rw [offset_of_line hpos hstart] at hoffset hoffset'
    have hmono := length_takeWithin_mono (start_le_length hstart) hle
    obtain rfl := Except.ok.inj hoffset
    obtain rfl := Except.ok.inj hoffset'
    omega
  · intro start w c v hpos hstart hdrop hle hlt
    rw [Text.length_encode] at hle hlt
    rw [Text.byteWidth_append, Text.byteWidth, Text.byteWidth, Nat.add_zero] at hlt
    rw [offset_of_line hpos hstart, takeWithin_eq, hdrop, Text.takeBytes_inside hle hlt]

/-- A column in the middle of the only character of four bytes on the second
line, and one behind the end of the text. -/
theorem offset_isGreatest_inside :
    (ofText "é\r\na𝒳".toList []).offset 2 3 = .ok 4 ∧
      (ofText "é\r\na𝒳".toList []).offset 2 99 = .ok 5 ∧ 4 ≤ 5 ∧ 5 ≤ "é\r\na𝒳".toList.length := by
  obtain ⟨-, -, hinside, hmono, hcut⟩ := offset_isGreatest "é\r\na𝒳".toList [] 2 3
  have hfirst := hcut 3 ['a'] '𝒳' [] (by decide) (by decide) (by decide) (by decide) (by decide)
  have hlast : (ofText "é\r\na𝒳".toList []).offset 2 99 = .ok 5 := by rfl
  exact ⟨hfirst, hlast, hmono 99 4 5 (by decide) hfirst hlast, by decide⟩

end SourceIndex

end TextDomain
