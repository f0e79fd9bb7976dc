import TextDomain.Text.Quoted

/-!
# Spans and the contract of a host

Hosts hand over calls and arguments with ranges of offsets. A `Span` is a
range that has been checked: it begins at or after the start of the text and
ends at or after its own beginning. Everything that can be wrong with what a
host hands over is a `ContractError`.

## Main results

* `Span.ofOffsets_ok_iff` — exactly the valid pairs become spans.
-/

namespace TextDomain

/-- A range of offsets, the end not included. -/
structure Span where
  /-- The offset of the first character. -/
  start : Nat
  /-- The offset after the last character. -/
  stop : Nat
  /-- A span does not end before it begins. -/
  start_le_stop : start ≤ stop := by omega
deriving DecidableEq

namespace Span

/-- The number of characters covered. -/
def length (s : Span) : Nat := s.stop - s.start

/-- The two offsets as integers. -/
def offsets (s : Span) : List Int := [s.start, s.stop]

/-- The empty span at an offset. -/
def empty (offset : Nat) : Span := ⟨offset, offset, Nat.le_refl _⟩

/-- The order of ranges: by beginning, then by end. -/
def le (a b : Span) : Bool :=
  decide (a.start < b.start ∨ (a.start = b.start ∧ a.stop ≤ b.stop))

/-- The part of a text that the span covers. -/
def slice (s : Span) (t : Text) : Text := (t.drop s.start).take s.length

theorem le_iff {s t : Span} :
    s.le t = true ↔ s.start < t.start ∨ s.start = t.start ∧ s.stop ≤ t.stop := by
  rw [le, decide_eq_true_eq]

theorem le_antisymm {s t : Span} (hst : s.le t = true) (hts : t.le s = true) : s = t := by
  rw [le_iff] at hst hts
  have hstart : s.start = t.start := by omega
  have hstop : s.stop = t.stop := by omega
  cases s
  cases t
  exact (Span.mk.injEq ..).mpr ⟨hstart, hstop⟩

theorem length_slice {s : Span} {t : Text} (h : s.stop ≤ t.length) :
    (s.slice t).length = s.length := by
  rw [slice, List.length_take, List.length_drop, length]
  omega

theorem slice_append_left {s : Span} {t : Text} (h : s.stop ≤ t.length) (u : Text) :
    s.slice (t ++ u) = s.slice t := by
  have := s.start_le_stop
  rw [slice, slice, length, List.drop_append_of_le_length (by omega),
    List.take_append_of_le_length (by rw [List.length_drop]; omega)]

theorem slice_append_right {s : Span} {t : Text} (h : t.length ≤ s.start) (u : Text) :
    s.slice (t ++ u) = (u.drop (s.start - t.length)).take s.length := by
  rw [slice, List.drop_append, List.drop_eq_nil_of_le h, List.nil_append]

end Span

/-- A place in a file, with lines and columns counted from one. -/
structure Location where
  /-- The name of the file. -/
  file : Text
  /-- The line of the first character. -/
  lineStart : Int
  /-- Its column. -/
  colStart : Int
  /-- The line of the end. -/
  lineEnd : Int
  /-- The column of the end. -/
  colEnd : Int
deriving DecidableEq

/-- What a range belongs to. -/
inductive Subject where
  /-- An argument of a call. -/
  | argument
  /-- A call. -/
  | call
  /-- A fix. -/
  | fix

/-- The word for a subject. -/
def Subject.word : Subject → Text
  | .argument => "argument".toList
  | .call => "call".toList
  | .fix => "fix".toList

/-- A breach of the contract between a host and this library. -/
inductive ContractError where
  /-- A range has other than two offsets. -/
  | notAPair (subject : Subject) (offsets : List Int)
  /-- A range begins before the text or ends before its beginning. -/
  | invalidSpan (subject : Subject) (start stop : Int)
  /-- A literal argument comes without its text. -/
  | literalWithoutText (span : Span)
  /-- An argument begins before the end of the one before it. -/
  | argumentsOutOfOrder (functionName : Option Text)
  /-- The kind of a fix is none of the three. -/
  | unknownFixKind (kind : Text)
  /-- An invalid domain is to be reported, but there is no domain. -/
  | domainMissing
  /-- A domain is to be removed, but no argument ends before it. -/
  | nothingPrecedes (start stop : Int)
  /-- A fix reaches past the end of the text. -/
  | fixBeyondSource (span : Span) (length : Nat)
  /-- A position lies on a line that the file does not have. -/
  | lineOutside (line : Int) (file : Text)
  /-- A piece of source comes without the position of its end. -/
  | unpositioned (form file : Text)

/-- The wording of a breach. -/
def ContractError.message : ContractError → Text
  | .notAPair subject offsets =>
    subject.word ++ " range must be a (start, end) pair, got ".toList ++ Text.tuple offsets
  | .invalidSpan subject start stop =>
    subject.word ++ " range ".toList ++ Text.tuple [start, stop] ++
      " is not a valid offset span".toList
  | .literalWithoutText span =>
    "literal argument at ".toList ++ Text.tuple span.offsets ++ " carries no string value".toList
  | .argumentsOutOfOrder functionName =>
    "arguments of ".toList ++
      (match functionName with
        | some name => name.quoted
        | none => "None".toList) ++
      " are not in source order".toList
  | .unknownFixKind kind => "unknown fix kind ".toList ++ kind.quoted
  | .domainMissing => "invalid text domain reported without a domain argument".toList
  | .nothingPrecedes start stop =>
    "no argument precedes the text domain at ".toList ++ Text.tuple [start, stop]
  | .fixBeyondSource span length =>
    "fix range ".toList ++ Text.tuple span.offsets ++ " exceeds source length ".toList ++
      Text.ofNat length
  | .lineOutside line file =>
    "line ".toList ++ Text.ofInt line ++ " is outside ".toList ++ file
  | .unpositioned form file =>
    form ++ " node in ".toList ++ file ++ " has no position information".toList

namespace Span

/-- Checks a pair of offsets. -/
def ofPair (subject : Subject) (start stop : Int) : Except ContractError Span :=
  if h : 0 ≤ start ∧ start ≤ stop then .ok ⟨start.toNat, stop.toNat, by omega⟩
  else .error (.invalidSpan subject start stop)

/-- Checks a range of offsets. -/
def ofOffsets (subject : Subject) : List Int → Except ContractError Span
  | [start, stop] => ofPair subject start stop
  | offsets => .error (.notAPair subject offsets)

/-- Exactly the pairs `0 ≤ start ≤ stop` become spans, and they keep their
offsets. -/
theorem ofOffsets_ok_iff {subject : Subject} {offsets : List Int} {s : Span} :
    ofOffsets subject offsets = .ok s ↔ offsets = s.offsets := by
  obtain ⟨start, stop, hs⟩ := s
  unfold ofOffsets Span.offsets
  split
  next a b =>
    unfold ofPair
    split
    next h =>
      simp only [Except.ok.injEq, Span.mk.injEq, List.cons.injEq, and_true]
      omega
    next h =>
      simp only [List.cons.injEq, and_true, reduceCtorEq, false_iff]
      omega
  next h => simp only [reduceCtorEq, false_iff]; exact fun he => h _ _ he

end Span

end TextDomain
