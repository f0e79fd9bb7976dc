import TextDomain.Command
import TextDomain.Proofs.Fixing.FileName
import TextDomain.Proofs.Output.Numeral
import TextDomain.Proofs.Rule.Table
import TextDomain.Proofs.Source.Line

/-!
# How many lines the output has

The readable output gives each diagnostic a line feed, so it has a line for each as
long as no diagnostic brings line breaks of its own. Most of what stands in a
diagnostic cannot: wordings and names are fixed, and numerals are digits. The name of
the file comes from outside, and so does the text domain that a message quotes. A text
domain is the value of a literal, in which an escape or a wide literal makes any
character possible, and it goes into the message as it is. So it alone decides how
many lines a diagnostic has (`shownDomain`).

## Main results

* `Text.terminatorCount_append` — terminators are counted piece by piece.
* `Diagnostic.exists_line_eq` — what a diagnostic has around its text domain has no line
  break.
* `OutputFormat.text_lines` — the output has as many lines as there are diagnostics and
  line breaks in their text domains.
-/

namespace TextDomain

namespace Text

variable {c : Char} {t u w v : Text}

/-! ## Texts without line breaks -/

theorem WithinLine.head? (h : WithinLine w) : w.head? ≠ some '\n' :=
  fun hw => (h '\n' (List.mem_of_head? hw)).2 rfl

theorem WithinLine.getLast? (h : WithinLine w) : w.getLast? ≠ some '\r' :=
  fun hw => (h '\r' (List.mem_of_getLast? hw)).1 rfl

theorem withinLine_ofNat (n : Nat) : WithinLine (ofNat n) := by
  intro c hc
  have hdigit := isDigit_of_mem_ofNat hc
  constructor <;> (rintro rfl; cases hdigit)

theorem withinLine_ofInt (n : Int) : WithinLine (ofInt n) := by
  cases n with
  | ofNat n => exact withinLine_ofNat n
  | negSucc n => exact withinLine_cons.2 ⟨by decide, withinLine_ofNat (n + 1)⟩

/-! ## Counting line breaks -/

/-- A character in front adds a terminator if it is one, but CR LF is only one. -/
theorem terminatorCount_cons (h : c = '\r' → t.head? ≠ some '\n') :
    terminatorCount (c :: t) = terminatorCount t + if c = '\r' ∨ c = '\n' then 1 else 0 := by
  rw [terminatorCount]
  · split <;> rfl
  · rintro rest hc rfl
    exact h hc rfl

theorem terminatorCount_crlf (t : Text) :
    terminatorCount ('\r' :: '\n' :: t) = terminatorCount t + 1 := by
  rw [terminatorCount]

theorem terminatorCount_eq_zero_iff : terminatorCount t = 0 ↔ WithinLine t := by
  induction t using unifyTerminators.induct with
  | case1 => simp [WithinLine, terminatorCount]
  | case2 rest ih => simp [terminatorCount_crlf, withinLine_cons]
  | case3 c rest hcrlf ih =>
    have hnext := head?_ne_of_not_crlf hcrlf
    rw [terminatorCount_cons hnext, withinLine_cons, ← ih, ← not_or]
    by_cases hc : c = '\r' ∨ c = '\n' <;> simp [hc]

/-- Terminators are counted piece by piece, unless a cut parts a CR from its LF. -/
theorem terminatorCount_append (h : t.getLast? = some '\r' → u.head? ≠ some '\n') :
    terminatorCount (t ++ u) = terminatorCount t + terminatorCount u := by
  induction t using unifyTerminators.induct with
  | case1 => simp [terminatorCount]
  | case2 rest ih =>
    have hrest : rest.getLast? = some '\r' → u.head? ≠ some '\n' := by
      intro hlast
      exact h (by simp [List.getLast?_cons, hlast])
    rw [List.cons_append, List.cons_append, terminatorCount_crlf, terminatorCount_crlf, ih hrest]
    omega
  | case3 c rest hcrlf ih =>
    have hrest : rest.getLast? = some '\r' → u.head? ≠ some '\n' := by
      intro hlast
      exact h (by simp [List.getLast?_cons, hlast])
    have hnext := head?_ne_of_not_crlf hcrlf
    have hjoined : c = '\r' → (rest ++ u).head? ≠ some '\n' := by
      intro hc
      cases rest with
      | nil => exact h (by simp [hc])
      | cons d rest => exact hnext hc
    rw [List.cons_append, terminatorCount_cons hjoined, terminatorCount_cons hnext, ih hrest]
    omega

/-- Nothing around a text without line breaks adds any. -/
theorem terminatorCount_between (hw : WithinLine w) (hv : WithinLine v) (t : Text) :
    terminatorCount (w ++ t ++ v) = terminatorCount t := by
  rw [terminatorCount_append (fun _ => hv.head?),
    terminatorCount_append (fun hlast => absurd hlast hw.getLast?),
    terminatorCount_eq_zero_iff.2 hw, terminatorCount_eq_zero_iff.2 hv, Nat.zero_add, Nat.add_zero]

/-! ## Lines -/

/-- The lines of a text. What is behind the last line break is a line as well, and it may
be empty. -/
def lines (t : Text) : List Text := cutAt '\n' (unifyTerminators t)

theorem lines_crlf (t : Text) : lines ('\r' :: '\n' :: t) = [] :: lines t := by
  rw [lines, unifyTerminators, cutAt, if_pos rfl, lines]

/-- A character in front ends a line if it is a terminator, else it belongs to the first
line. -/
theorem lines_cons (h : c = '\r' → t.head? ≠ some '\n') :
    lines (c :: t) =
      if c = '\r' ∨ c = '\n' then [] :: lines t else (lines t).modifyHead (c :: ·) := by
  rw [lines, unifyTerminators, cutAt, lines]
  · by_cases hcr : c = '\r'
    · simp [hcr]
    · by_cases hlf : c = '\n'
      · simp [hlf]
      · simp only [hcr, hlf, if_false, or_self]
        cases hcut : cutAt '\n' (unifyTerminators t) with
        | nil => exact absurd hcut (cutAt_ne_nil _ _)
        | cons part parts => rfl
  · rintro rest hc rfl
    exact h hc rfl

/-- There is one line more than there are terminators. -/
theorem length_lines (t : Text) : (lines t).length = terminatorCount t + 1 := by
  induction t using unifyTerminators.induct with
  | case1 => rfl
  | case2 rest ih => rw [lines_crlf, terminatorCount_crlf, List.length_cons, ih]
  | case3 c rest hcrlf ih =>
    have hnext := head?_ne_of_not_crlf hcrlf
    rw [lines_cons hnext, terminatorCount_cons hnext]
    by_cases hc : c = '\r' ∨ c = '\n'
    · rw [if_pos hc, if_pos hc, List.length_cons, ih]
    · rw [if_neg hc, if_neg hc, List.length_modifyHead, ih]

/-- A text without line breaks is a line if an LF follows it. -/
theorem lines_append (hw : WithinLine w) (t : Text) : lines (w ++ '\n' :: t) = w :: lines t := by
  induction w with
  | nil => exact lines_cons nofun
  | cons c w ih =>
    obtain ⟨hc, hw⟩ := withinLine_cons.1 hw
    rw [List.cons_append, lines_cons (fun hcr => absurd hcr hc.1), if_neg (not_or.2 hc), ih hw]
    rfl

/-- Texts without line breaks are the lines of what they are written to. -/
theorem lines_flatMap {ts : List Text} (h : ∀ t ∈ ts, WithinLine t) :
    lines (ts.flatMap (· ++ ['\n'])) = ts ++ [[]] := by
  induction ts with
  | nil => rfl
  | cons t ts ih =>
    obtain ⟨ht, hts⟩ := List.forall_mem_cons.1 h
    rw [List.flatMap_cons, List.append_assoc, List.singleton_append, lines_append ht, ih hts]
    rfl

/-- Every text that is written has a line break of its own, and one at its end. -/
theorem terminatorCount_flatMap {ts : List Text} (h : ∀ t ∈ ts, t.getLast? ≠ some '\r') :
    terminatorCount (ts.flatMap (· ++ ['\n'])) = ts.length + (ts.map terminatorCount).sum := by
  induction ts with
  | nil => rfl
  | cons t ts ih =>
    obtain ⟨ht, hts⟩ := List.forall_mem_cons.1 h
    rw [List.flatMap_cons, List.append_assoc, List.singleton_append,
      terminatorCount_append (fun hlast => absurd hlast ht),
      terminatorCount_cons (fun hcr => absurd hcr (by decide)), ih hts, if_pos (.inr rfl),
      List.length_cons, List.map_cons, List.sum_cons]
    omega

theorem join_ne_nil {separator : Text} {ts : List Text} (hts : ts ≠ []) (h : ∀ t ∈ ts, t ≠ []) :
    join separator ts ≠ [] := by
  cases ts with
  | nil => exact absurd rfl hts
  | cons t rest =>
    have ht := h t List.mem_cons_self
    cases rest with
    | nil => exact ht
    | cons u rest => simp [join, ht]

/-- A separator at the end makes all parts alike. -/
theorem join_append_separator {ts : List Text} (h : ts ≠ []) (separator : Text) :
    join separator ts ++ separator = ts.flatMap (· ++ separator) := by
  induction ts using join.induct with
  | case1 => exact absurd rfl h
  | case2 t => simp [join]
  | case3 t u rest ih =>
    rw [join, List.append_assoc, ih (List.cons_ne_nil u rest)]
    rfl

end Text

/-! ## Diagnostics -/

/-- The text domain among the values that go into a message, empty if there is none. -/
def shownDomain (data : List (Text × Datum)) : Text :=
  match Datum.field? "textDomain".toList data with
  | some (.text t) => t
  | _ => []

variable {text file : Text} {policy : Policy} {c : Call} {d : Diagnostic} {ds : List Diagnostic}

open Text (WithinLine withinLine_append withinLine_cons)

/-- What a message has around the text domain is fixed. -/
theorem Call.Row.message_eq {status? : Option Status} {x : Finding}
    (h : c.Row policy status? (some x)) :
    ∃ before after, WithinLine before ∧ WithinLine after ∧
      x.id.render x.data = before ++ shownDomain x.data ++ after := by
  cases h with
  | missing => exact ⟨"Missing text domain".toList, [], by decide, by decide, rfl⟩
  | other => exact ⟨"Text domain is not a string literal".toList, [], by decide, by decide, rfl⟩
  | unnecessary => exact ⟨"Unnecessary default text domain".toList, [], by decide, by decide, rfl⟩
  | invalid => exact ⟨"Invalid text domain '".toList, ['\''], by decide, by decide, rfl⟩

theorem MessageId.withinLine_name (id : MessageId) : WithinLine id.name := by
  cases id <;> decide

/-- The location of a diagnostic names the file that is linted. -/
theorem location_file_of_lint (h : lint text policy file = .ok ds) (hd : d ∈ ds) :
    ∀ l ∈ d.location, l.file = file := by
  have hfile : lint text policy file = _ := lint_inFile file file text
  rw [h] at hfile
  have hds := Except.ok.inj hfile
  rw [hds] at hd
  obtain ⟨d', -, rfl⟩ := List.mem_map.1 hd
  intro l hl
  obtain ⟨l', -, rfl⟩ := Option.mem_map.1 hl
  rfl

namespace Diagnostic

theorem withinLine_place (h : ∀ l ∈ d.location, WithinLine l.file) : WithinLine d.place := by
  unfold place
  cases hlocation : d.location with
  | none => decide
  | some l =>
    have hline := Text.withinLine_ofInt l.lineStart
    have hcolumn := Text.withinLine_ofInt l.colStart
    simp [Text.join, withinLine_append, withinLine_cons, h l hlocation, hline, hcolumn]

theorem exists_line_eq_of_message {before shown after : Text} (hplace : WithinLine d.place)
    (hseverity : WithinLine d.severity) (hrule : WithinLine d.rule) (hid : WithinLine d.messageId)
    (hbefore : WithinLine before) (hafter : WithinLine after)
    (h : d.message = before ++ shown ++ after) :
    ∃ before after, WithinLine before ∧ WithinLine after ∧ after ≠ [] ∧
      d.line = before ++ shown ++ after := by
  have hfixable : WithinLine (if d.fix.isSome then " (fixable)".toList else []) := by
    split <;> decide
  refine ⟨d.place ++ (": ".toList ++ (d.severity ++ ' ' :: before)),
    after ++ (" [".toList ++ (d.rule ++ '/' :: (d.messageId ++
      ']' :: (if d.fix.isSome then " (fixable)".toList else [])))), ?_, ?_, ?_, ?_⟩
  · have hblank : WithinLine ": ".toList := by decide
    simp only [withinLine_append, withinLine_cons]
    exact ⟨hplace, hblank, hseverity, by decide, hbefore⟩
  · have hbracket : WithinLine " [".toList := by decide
    simp only [withinLine_append, withinLine_cons]
    exact ⟨hafter, hbracket, hrule, by decide, hid, by decide, hfixable⟩
  · exact List.append_ne_nil_of_right_ne_nil _ (List.cons_ne_nil _ _)
  · simp only [line, h, List.append_assoc, List.cons_append]

/-- What a diagnostic has around its text domain has no line break, and there is something
behind it. -/
theorem exists_line_eq (hfile : WithinLine file) (h : lint text policy file = .ok ds)
    (hd : d ∈ ds) :
    ∃ before after, WithinLine before ∧ WithinLine after ∧ after ≠ [] ∧
      d.line = before ++ shownDomain d.data ++ after := by
  have hplace : WithinLine d.place := by
    apply withinLine_place
    intro l hl
    rw [location_file_of_lint h hd l hl]
    exact hfile
  obtain ⟨calls, hcalls, -⟩ := (wellFormed_of_lint h).collectCalls_ok file
  obtain ⟨c, -, hcheck⟩ := exists_call_of_mem_checkCalls (checkCalls_of_lint hcalls h) hd
  obtain ⟨status?, found, hrow, hfound⟩ := checkCall_eq_ok_iff.1 hcheck
  cases found with
  | none => cases hfound
  | some x =>
    obtain rfl := Option.some.inj hfound
    obtain ⟨before, after, hbefore, hafter, hmessage⟩ := hrow.message_eq
    have hseverity : WithinLine "error".toList := by decide
    have hrule : WithinLine ruleName := by decide
    have hid := x.id.withinLine_name
    exact exists_line_eq_of_message hplace hseverity hrule hid hbefore hafter hmessage

/-- The line breaks of a diagnostic are those of its text domain. -/
theorem line_breaks (hfile : WithinLine file) (h : lint text policy file = .ok ds) (hd : d ∈ ds) :
    (WithinLine d.line ↔ WithinLine (shownDomain d.data)) ∧
      Text.terminatorCount d.line = Text.terminatorCount (shownDomain d.data) ∧
      d.line ≠ [] ∧ d.line.getLast? ≠ some '\r' := by
  obtain ⟨before, after, hbefore, hafter, hne, hline⟩ := exists_line_eq hfile h hd
  rw [hline, withinLine_append, withinLine_append]
  refine ⟨by simp [hbefore, hafter], Text.terminatorCount_between hbefore hafter _,
    by simp [hne], ?_⟩
  rw [List.getLast?_append_of_ne_nil _ hne]
  exact hafter.getLast?

end Diagnostic

/-! ## The output -/

namespace OutputFormat

/-- The readable output gives every diagnostic an LF. -/
theorem emit_text (h : ∀ d ∈ ds, d.line ≠ []) (files : FileSystem) :
    emit files .text none ds =
      .ok ((ds.map Diagnostic.line).flatMap (· ++ ['\n']), files) := by
  by_cases hds : ds = []
  · subst hds
    rfl
  · have hmap : ds.map Diagnostic.line ≠ [] := mt List.map_eq_nil_iff.1 hds
    have hjoin := Text.join_append_separator hmap ['\n']
    have hparts : ∀ t ∈ ds.map Diagnostic.line, t ≠ [] := by
      intro t ht
      obtain ⟨d, hd, rfl⟩ := List.mem_map.1 ht
      exact h d hd
    have hne : (Text.join ['\n'] (ds.map Diagnostic.line)).isEmpty = false :=
      List.isEmpty_eq_false_iff.2 (Text.join_ne_nil hmap hparts)
    rw [emit, OutputFormat.write, hne, if_neg Bool.false_ne_true, hjoin]

/-- The readable output of linting a file whose name has no line break: every diagnostic
has the line breaks of its text domain, and an LF behind it. So the lines are the
diagnostics if and only if no text domain that is shown has a line break. -/
theorem text_lines (hfile : WithinLine file) (h : lint text policy file = .ok ds) :
    (∀ files, emit files .text none ds =
        .ok ((ds.map Diagnostic.line).flatMap (· ++ ['\n']), files)) ∧
      (∀ d ∈ ds, (WithinLine d.line ↔ WithinLine (shownDomain d.data)) ∧
        Text.terminatorCount d.line = Text.terminatorCount (shownDomain d.data)) ∧
      Text.terminatorCount ((ds.map Diagnostic.line).flatMap (· ++ ['\n'])) =
        ds.length + (ds.map fun d => Text.terminatorCount (shownDomain d.data)).sum ∧
      (Text.lines ((ds.map Diagnostic.line).flatMap (· ++ ['\n'])) =
          ds.map Diagnostic.line ++ [[]] ↔
        ∀ d ∈ ds, WithinLine (shownDomain d.data)) := by
  have hbreaks := fun d hd => Diagnostic.line_breaks (d := d) hfile h hd
  have hcount : Text.terminatorCount ((ds.map Diagnostic.line).flatMap (· ++ ['\n'])) =
      ds.length + (ds.map fun d => Text.terminatorCount (shownDomain d.data)).sum := by
    have hends : ∀ t ∈ ds.map Diagnostic.line, t.getLast? ≠ some '\r' := by
      intro t ht
      obtain ⟨d, hd, rfl⟩ := List.mem_map.1 ht
      exact (hbreaks d hd).2.2.2
    rw [Text.terminatorCount_flatMap hends, List.length_map, List.map_map]
    congr 2
    exact List.map_congr_left fun d hd => (hbreaks d hd).2.1
  refine ⟨emit_text fun d hd => (hbreaks d hd).2.2.1,
    fun d hd => ⟨(hbreaks d hd).1, (hbreaks d hd).2.1⟩, hcount, ?_, ?_⟩
  · intro hlines d hd
    have hlength := congrArg List.length hlines
    rw [Text.length_lines, hcount, List.length_append, List.length_map,
      List.length_singleton] at hlength
    have hzero : (ds.map fun d => Text.terminatorCount (shownDomain d.data)).sum = 0 := by omega
    rw [List.sum_eq_zero_iff_forall_eq_nat] at hzero
    exact Text.terminatorCount_eq_zero_iff.1 (hzero _ (List.mem_map_of_mem hd))
  · intro hshown
    apply Text.lines_flatMap
    intro t ht
    obtain ⟨d, hd, rfl⟩ := List.mem_map.1 ht
    exact (hbreaks d hd).1.2 (hshown d hd)

/-- The CR in the second text domain is one of three line breaks behind two diagnostics. -/
theorem text_lines_of_two :
    ∃ ds, WithinLine "a.py".toList ∧
      lint "__('a')\n__('b', 'c\\rd')".toList {} "a.py".toList = .ok ds ∧ ds.length = 2 ∧
      Text.terminatorCount ((ds.map Diagnostic.line).flatMap (· ++ ['\n'])) = 3 ∧
      Text.lines ((ds.map Diagnostic.line).flatMap (· ++ ['\n'])) ≠
        ds.map Diagnostic.line ++ [[]] := by
  have hshown : (lint "__('a')\n__('b', 'c\\rd')".toList {} "a.py".toList).toOption.map
      (List.map fun d => shownDomain d.data) = some [[], "c\rd".toList] := by decide +kernel
  obtain ⟨ds, hds, hshown⟩ := Option.map_eq_some_iff.1 hshown
  have hok := eq_ok_of_toOption hds
  have hfile : WithinLine "a.py".toList := by decide
  obtain ⟨-, -, hcount, hlines⟩ := text_lines hfile hok
  have hlength : ds.length = 2 := by
    have hlength := congrArg List.length hshown
    rwa [List.length_map] at hlength
  have hsum : (ds.map fun d => Text.terminatorCount (shownDomain d.data)).sum = 1 := by
    have hcounts := congrArg (List.map Text.terminatorCount) hshown
    rw [List.map_map] at hcounts
    exact congrArg List.sum hcounts
  refine ⟨ds, hfile, hok, hlength, by omega, fun heq => ?_⟩
  have hwithin : ∀ t ∈ ds.map fun d => shownDomain d.data, WithinLine t := by
    intro t ht
    obtain ⟨d, hd, rfl⟩ := List.mem_map.1 ht
    exact hlines.1 heq d hd
  rw [hshown] at hwithin
  exact absurd (hwithin "c\rd".toList (by decide)) (by decide)

/-- An escape in a text domain breaks the line of the only diagnostic. -/
theorem line_of_escaped_break :
    ∃ ds, WithinLine "a.py".toList ∧
      lint "__('a', 'b\\nc')".toList { allowed := ["d".toList] } "a.py".toList = .ok ds ∧
      ds.length = 1 ∧ (∃ d ∈ ds, ¬ WithinLine d.line) ∧
      ∀ files, ∃ stdout, emit files .text none ds = .ok (stdout, files) ∧
        Text.lines stdout = ["a.py:1:1: error Invalid text domain 'b".toList,
          "c' [i18n-text-domain/invalidValue] (fixable)".toList, []] := by
  have hlines : (lint "__('a', 'b\\nc')".toList { allowed := ["d".toList] }
      "a.py".toList).toOption.map (List.map Diagnostic.line) =
      some ["a.py:1:1: error Invalid text domain 'b\nc'".toList ++
        " [i18n-text-domain/invalidValue] (fixable)".toList] := by decide +kernel
  obtain ⟨ds, hds, hlines⟩ := Option.map_eq_some_iff.1 hlines
  obtain ⟨d, rfl, hline⟩ := List.map_eq_singleton_iff.1 hlines
  refine ⟨[d], by decide, eq_ok_of_toOption hds, rfl, ⟨d, List.mem_cons_self, ?_⟩, fun files => ?_⟩
  · rw [hline]
    decide
  · refine ⟨_, emit_text ?_ files, ?_⟩
    · rw [List.forall_mem_singleton, hline]
      decide
    · rw [hlines]
      decide +kernel

end OutputFormat

end TextDomain
