import TextDomain.Text.Basic

/-!
# Gettext functions

The linter knows four functions that look up a message in the catalog of a
text domain. Each takes a fixed number of positional arguments, and the last
of these names the text domain.

## Main results

* `ofName?_eq_some_iff`, `ofName?_eq_none_iff` — a callee names a function by the
  function's own name.
-/

namespace TextDomain

/-- A gettext function. The text domain is its last required argument. -/
structure GettextFunction where
  /-- The name under which it is called. -/
  name : Text
  /-- How many positional arguments it requires. -/
  requiredCount : Int
  /-- The place of the text domain among them, counted from zero. -/
  domainIndex : Int
  /-- The text domain comes last. -/
  domain_last : domainIndex = requiredCount - 1 := by decide

namespace GettextFunction

/-- A description that does not put the text domain last. -/
structure MisplacedDomain where
  /-- The name in the description. -/
  name : Text
  /-- The number of required arguments in it. -/
  requiredCount : Int
  /-- The place of the text domain in it. -/
  domainIndex : Int

/-- What is wrong with a description. -/
def MisplacedDomain.message (e : MisplacedDomain) : Text :=
  e.name ++ ": domain index ".toList ++ Text.ofInt e.domainIndex ++
    " must equal required argument count - 1 (".toList ++ Text.ofInt (e.requiredCount - 1) ++ [')']

/-- Checks a description. -/
def build (name : Text) (requiredCount domainIndex : Int) :
    Except MisplacedDomain GettextFunction :=
  if h : domainIndex = requiredCount - 1 then .ok ⟨name, requiredCount, domainIndex, h⟩
  else .error ⟨name, requiredCount, domainIndex⟩

/-- The function for a plain message. -/
def single : GettextFunction := { name := "__".toList, requiredCount := 2, domainIndex := 1 }

/-- The function for a message with a context. -/
def contextual : GettextFunction := { name := "_x".toList, requiredCount := 3, domainIndex := 2 }

/-- The function for a message with a plural. -/
def plural : GettextFunction := { name := "_n".toList, requiredCount := 4, domainIndex := 3 }

/-- The function for a message with a plural and a context. -/
def contextualPlural : GettextFunction :=
  { name := "_nx".toList, requiredCount := 5, domainIndex := 4 }

/-- The functions that the linter checks. -/
def table : List GettextFunction := [single, contextual, plural, contextualPlural]

/-- The gettext function that a callee names, if it names one. -/
def ofName? (name : Option Text) : Option GettextFunction :=
  name.bind fun n => table.find? fun f => f.name == n

/-- The function that a callee names is the one in the table with that name. -/
theorem ofName?_eq_some_iff {name : Option Text} {f : GettextFunction} :
    ofName? name = some f ↔ f ∈ table ∧ name = some f.name := by
  constructor
  · intro h
    obtain ⟨n, rfl, hfind⟩ := Option.bind_eq_some_iff.1 h
    have hname : (f.name == n) = true :=
      List.find?_some (p := fun g : GettextFunction => g.name == n) hfind
    exact ⟨List.mem_of_find?_eq_some hfind, by rw [eq_of_beq hname]⟩
  · rintro ⟨hmem, rfl⟩
    -- No two functions of the table share a name, so the search stops at this one.
    simp only [table, List.mem_cons, List.not_mem_nil, or_false] at hmem
    rcases hmem with rfl | rfl | rfl | rfl <;> rfl

/-- A callee names no function exactly if it has none of their names. -/
theorem ofName?_eq_none_iff {name : Option Text} :
    ofName? name = none ↔ ∀ f ∈ table, name ≠ some f.name := by
  rw [Option.eq_none_iff_forall_ne_some]
  simp only [ne_eq, ofName?_eq_some_iff, not_and]

/-- Whether a call with `count` positional arguments leaves out required ones. -/
def lacksArguments (f : GettextFunction) (count : Int) : Bool := decide (count < f.requiredCount)

end GettextFunction

end TextDomain
