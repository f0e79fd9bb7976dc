import TextDomain.Proofs.Rewriting.Basic
import TextDomain.Proofs.Source.Field

/-!
# What is moved is read alike

The lexer and the scan of a formatted piece look at the text that is left, and say at
which positions its parts stand; the positions themselves they never look at. So where
the same text is left behind a literal that was written anew, they find the same, moved.

## Main results

* `lexFrom?_moved`, `lexAt?_shift` — the tokens behind the literal are moved.
* `fields?_shift` — so are the fields of a formatted piece.
-/

namespace TextDomain

namespace Rewriting

variable (w : Rewriting)

/-! ## Cursors -/

/-- The cursor where it has come. -/
def movedCursor (c : Cursor) : Cursor := ⟨c.rest, w.shift c.position⟩

variable {w} {c : Cursor}

theorem movedCursor_advance (h : w.oldStop ≤ c.position) (n : Nat) :
    (w.movedCursor c).advance n = w.movedCursor (c.advance n) := by
  simp only [movedCursor, Cursor.advance, shift_after h]

theorem movedCursor_skipWhile (h : w.oldStop ≤ c.position) (p : Char → Bool) :
    (w.movedCursor c).skipWhile p = w.movedCursor (c.skipWhile p) := by
  simp only [movedCursor, Cursor.skipWhile, shift_after h]

theorem le_position_advance (h : w.oldStop ≤ c.position) (n : Nat) :
    w.oldStop ≤ (c.advance n).position := h.trans (Position.le_after _ _)

theorem le_position_skipWhile (h : w.oldStop ≤ c.position) (p : Char → Bool) :
    w.oldStop ≤ (c.skipWhile p).position := h.trans (Position.le_after _ _)

/-! ## The lexer -/

variable (w) in
/-- The state of the lexer where it has come. -/
def movedState (s : Token.Lexing) : Token.Lexing := { s with cursor := w.movedCursor s.cursor }

variable (w) in
/-- A step of the lexer where it has come. -/
def movedStep : Token.Step → Token.Step
  | .go tokens next => .go (tokens.map w.moved) (w.movedState next)
  | .stop token => .stop (w.moved token)

open Token

theorem startLine?_moved {s : Lexing} (h : w.oldStop ≤ s.cursor.position) :
    startLine? (w.movedState s) =
      (startLine? s).map fun r => (r.1.map w.moved, w.movedState r.2) := by
  unfold startLine?
  show (measure? ⟨0, 0⟩ 0 s.cursor.rest).bind _ = _
  cases measure? ⟨0, 0⟩ 0 s.cursor.rest with
  | none => rfl
  | some r =>
    obtain ⟨i, rest⟩ := r
    have hcursor : (w.movedState s).cursor.advance
        ((w.movedState s).cursor.rest.length - rest.length) =
          w.movedCursor (s.cursor.advance (s.cursor.rest.length - rest.length)) :=
      movedCursor_advance h _
    have hle := le_position_advance h (s.cursor.rest.length - rest.length)
    simp only [Option.bind_eq_bind, Option.bind_some, hcursor]
    generalize s.cursor.advance (s.cursor.rest.length - rest.length) = c at hle ⊢
    have hskip : ((w.movedCursor c).skipWhile (· != '\n')).advance 1 =
        w.movedCursor ((c.skipWhile (· != '\n')).advance 1) := by
      rw [movedCursor_skipWhile hle, movedCursor_advance (le_position_skipWhile hle _)]
    have hgo : (if (!s.brackets.isEmpty) = true then
          some ([], { w.movedState s with cursor := w.movedCursor c, atLineStart := false })
        else (layout? s.levels i).bind fun means =>
          some (means.1.map fun k => ⟨k, [], ⟨w.shift c.position, w.shift c.position⟩⟩,
            { w.movedState s with
              cursor := w.movedCursor c, levels := means.2, atLineStart := false })) =
        (if (!s.brackets.isEmpty) = true then
          some ([], { s with cursor := c, atLineStart := false })
        else (layout? s.levels i).bind fun means =>
          some (means.1.map fun k => ⟨k, [], ⟨c.position, c.position⟩⟩,
            { s with cursor := c, levels := means.2, atLineStart := false })).map
          fun r => (r.1.map w.moved, w.movedState r.2) := by
      split
      · rfl
      · cases layout? s.levels i with
        | none => rfl
        | some means =>
          simp only [Option.bind_some, Option.map_some, List.map_map]
          rfl
    cases rest with
    | nil => exact hgo
    | cons x rest =>
      by_cases hx : (x == '#' || x == '\n') = true
      · rw [if_pos hx, if_pos hx, hskip]
        rfl
      · rw [if_neg hx, if_neg hx]
        exact hgo

theorem stepInLine?_moved {s : Lexing} (h : w.oldStop ≤ s.cursor.position) :
    stepInLine? (w.movedState s) = (stepInLine? s).map w.movedStep := by
  unfold stepInLine?
  have hcursor : (w.movedState s).cursor.skipWhile isSpace =
      w.movedCursor (s.cursor.skipWhile isSpace) := movedCursor_skipWhile h _
  have hbrackets : (w.movedState s).brackets = s.brackets := rfl
  have hle := le_position_skipWhile h isSpace
  simp only [hcursor, hbrackets]
  generalize s.cursor.skipWhile isSpace = c at hle ⊢
  have hrest : (w.movedCursor c).rest = c.rest := rfl
  simp only [movedCursor_advance hle, movedCursor_skipWhile hle, hrest]
  split
  · split
    · rfl
    · rfl
  · rfl
  · split
    · rfl
    · rfl
  · split
    · rfl
    · rfl
  · show (lexeme? c.rest).bind _ = _
    cases lexeme? c.rest with
    | none => rfl
    | some r =>
      obtain ⟨k, n⟩ := r
      by_cases hk : k = .sign
      · simp only [Option.bind_eq_bind, Option.bind_some, hk, if_true]
        cases bracketsAfter? (c.rest.take n) s.brackets with
        | none => rfl
        | some brackets => rfl
      · simp only [Option.bind_eq_bind, Option.bind_some, hk, if_false]
        rfl

theorem le_position_of_passes {c' : Cursor} {t : Text} (h : w.oldStop ≤ c.position)
    (hpasses : c.Passes t c') : w.oldStop ≤ c'.position := by
  rw [hpasses.position]
  exact h.trans (Position.le_after _ _)

theorem le_position_of_yields {c' : Cursor} {ts : List Token} (h : w.oldStop ≤ c.position)
    (hyields : Yields c ts c') : w.oldStop ≤ c'.position := by
  induction hyields with
  | nil hpasses => exact le_position_of_passes h hpasses
  | cons hpasses _ htakes _ _ ih =>
    exact ih (le_position_of_passes (le_position_of_passes h hpasses) htakes)

theorem step?_moved {s : Lexing} (h : w.oldStop ≤ s.cursor.position) :
    step? (w.movedState s) = (step? s).map w.movedStep := by
  unfold step?
  show (if s.atLineStart = true then _ else _) = _
  split
  · rw [startLine?_moved h, Option.map_map, Option.map_map]
    rfl
  · exact stepInLine?_moved h

/-- What stands behind the literal is read as the same tokens, moved. -/
theorem lexFrom?_moved {s : Lexing} (h : w.oldStop ≤ s.cursor.position) (n : Nat) :
    lexFrom? n (w.movedState s) = (lexFrom? n s).map (List.map w.moved) := by
  induction n generalizing s with
  | zero => rfl
  | succ n ih =>
    rw [lexFrom?, lexFrom?, step?_moved h]
    cases hstep : step? s with
    | none => rfl
    | some step =>
      cases step with
      | stop t => rfl
      | go ts s' =>
        have hle : w.oldStop ≤ s'.cursor.position :=
          le_position_of_yields h (yields_of_step? hstep)
        show (lexFrom? n (w.movedState s')).map (ts.map w.moved ++ ·) = _
        rw [ih hle, Option.map_map]
        show _ = ((lexFrom? n s').map (ts ++ ·)).map _
        rw [Option.map_map]
        congr 1
        funext us
        exact (List.map_append ..).symm

/-- So is a text that begins behind the literal. -/
theorem lexAt?_shift {p : Position} (h : w.oldStop ≤ p) (t : Text) :
    lexAt? (w.shift p) t = (lexAt? p t).map (List.map w.moved) :=
  lexFrom?_moved (w := w) (s := ⟨⟨t, p⟩, [⟨0, 0⟩], [], true⟩) h _

/-! ## Replacement fields -/

open Literal Literal.Field

variable (w) in
/-- The field where it has come. -/
def movedField (f : Literal.Field) : Literal.Field := { f with position := w.shift f.position }

theorem afterEquals_moved (h : w.oldStop ≤ c.position) :
    afterEquals (w.movedCursor c) = w.movedCursor (afterEquals c) := by
  unfold afterEquals
  have hrest : (w.movedCursor c).rest = c.rest := rfl
  simp only [hrest, movedCursor_advance h, movedCursor_skipWhile (le_position_advance h 1)]
  split
  · rfl
  · rfl

theorem afterConversion?_moved (h : w.oldStop ≤ c.position) :
    afterConversion? (w.movedCursor c) = (afterConversion? c).map w.movedCursor := by
  unfold afterConversion?
  have hrest : (w.movedCursor c).rest = c.rest := rfl
  simp only [hrest, movedCursor_advance h]
  split
  · split
    · rfl
    · rfl
  · rfl
  · rfl

/-- What a scan that has found some fields finds from the brace on that closes the first. -/
def closedField (raw : Bool) (steps depth : Nat) (fields : List Literal.Field) (close : Cursor) :
    Option (List Literal.Field × Cursor) :=
  match close.rest with
  | '}' :: _ => (scan? raw steps depth (close.advance 1)).bind fun r => some (fields ++ r.1, r.2)
  | _ => none

/-- The scan of a body behind the literal finds the same fields, moved. -/
theorem scan?_moved (raw : Bool) (h : w.oldStop ≤ c.position) (steps depth : Nat) :
    scan? raw steps depth (w.movedCursor c) =
      (scan? raw steps depth c).map fun r => (r.1.map w.movedField, w.movedCursor r.2) := by
  induction steps generalizing depth c with
  | zero => rfl
  | succ steps ih =>
    have hrest : ∀ c, (w.movedCursor c).rest = c.rest := fun _ => rfl
    rw [scan?, scan?, hrest]
    cases plainRun? raw (depth != 0) 0 c.rest with
    | none => rfl
    | some r =>
      obtain ⟨length, how, width⟩ := r
      have hle := le_position_advance h width
      simp only [Option.bind_eq_bind, Option.bind_some, movedCursor_advance h, hrest]
      generalize c.advance width = next at hle ⊢
      by_cases hdecode : (!raw && (decode? (c.rest.take length)).isNone) = true
      · rw [if_pos hdecode, if_pos hdecode]
        rfl
      rw [if_neg hdecode, if_neg hdecode]
      cases how with
      | doubled => exact ih hle depth
      | boundary =>
        split
        next h => cases h
        next r heq hbrace =>
          have hinner : (w.movedCursor next).advance 1 = w.movedCursor (next.advance 1) :=
            movedCursor_advance hle 1
          have hle := le_position_advance hle 1
          rw [hinner]
          generalize next.advance 1 = inner at hle ⊢
          by_cases hdepth : 2 ≤ depth
          · rw [if_pos hdepth, if_pos hdepth]
            rfl
          rw [if_neg hdepth, if_neg hdepth, hrest]
          cases expressionLength? 0 0 ⟨none, []⟩ inner.rest with
          | none => rfl
          | some n =>
            simp only [Option.bind_some, movedCursor_advance hle,
              afterEquals_moved (le_position_advance hle n)]
            by_cases hcontent : isEmptyExpression (inner.rest.take n) = true
            · rw [if_pos hcontent, if_pos hcontent]
              rfl
            rw [if_neg hcontent, if_neg hcontent]
            obtain ⟨t, hequals⟩ := passes_afterEquals (inner.advance n)
            have hle := le_position_of_passes (le_position_advance hle n) hequals
            generalize afterEquals (inner.advance n) = c₁ at hle ⊢
            rw [afterConversion?_moved hle]
            cases htail : afterConversion? c₁ with
            | none => rfl
            | some tail =>
              obtain ⟨t', hconversion⟩ := passes_afterConversion? htail
              have hle := le_position_of_passes hle hconversion
              -- What is done behind the format, whether there was one or not.
              have hclose : ∀ (nested : List Literal.Field) {close : Cursor},
                  w.oldStop ≤ close.position →
                  closedField raw steps depth
                      (⟨inner.rest.take n, (w.movedCursor next).position⟩ ::
                        nested.map w.movedField) (w.movedCursor close) =
                    (closedField raw steps depth (⟨inner.rest.take n, next.position⟩ :: nested)
                      close).map fun r => (r.1.map w.movedField, w.movedCursor r.2) := by
                intro nested close hle
                unfold closedField
                simp only [movedCursor_advance hle, hrest, ih (le_position_advance hle 1)]
                split
                · cases scan? raw steps depth (close.advance 1) with
                  | none => rfl
                  | some r =>
                    simp only [Option.map_some, Option.bind_some, List.map_cons, List.map_append,
                      List.cons_append]
                    rfl
                · rfl
              simp only [Option.map_some, Option.bind_some, hrest]
              split
              · rw [movedCursor_advance hle, ih (le_position_advance hle 1)]
                cases hnested : scan? raw steps (depth + 1) (tail.advance 1) with
                | none => rfl
                | some r =>
                  obtain ⟨t'', hpasses, -⟩ := passes_of_scan? hnested
                  exact hclose r.1
                    (le_position_of_passes (le_position_advance hle 1) hpasses)
              · exact hclose [] hle
        next => rfl

/-- The fields of a body behind the literal are moved. -/
theorem fields?_shift (raw : Bool) (body : Text) {p : Position} (h : w.oldStop ≤ p) :
    fields? raw body (w.shift p) = (fields? raw body p).map (List.map w.movedField) := by
  have hscan := scan?_moved (w := w) (c := ⟨body, p⟩) raw h (body.length + 1) 0
  unfold fields?
  rw [show (⟨body, w.shift p⟩ : Cursor) = w.movedCursor ⟨body, p⟩ from rfl, hscan]
  cases scan? raw (body.length + 1) 0 ⟨body, p⟩ with
  | none => rfl
  | some r => rfl

end Rewriting

end TextDomain
