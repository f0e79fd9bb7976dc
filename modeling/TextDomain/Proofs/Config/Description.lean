import TextDomain.Options

/-!
# What options describe

Which options describe a policy is said here without the order in which they
are looked at: what keys a mapping may have, and what may stand under the two
that it knows. There is nothing else to a policy than these two values, except
that no domain may be listed twice.

Options that describe no policy are refused. One kind of them is not refused in
words: a key that names no option is refused by its text, and a whole number of
more than 4300 digits has none.

## Main results

* `Value.get?_put_self`, `Value.get?_put_of_ne` — what an entry that is put into
  a mapping changes.
* `Policy.ofEntries_eq_ok_iff` — which entries describe which policy.
* `Policy.ofEntries_eq_unnameable_iff` — which entries cannot even be refused.
* `Policy.ofOptions_decides` — what becomes of options of any kind.
-/

namespace TextDomain

open Yaml (Value)

/-! ## Entries of a mapping -/

namespace Yaml.Value

/-- Only a text is the same key as a text. -/
theorem sameKey_text_iff {k : Value} {t : Text} : k.sameKey (.text t) = true ↔ k = .text t := by
  cases k <;> simp [sameKey, toInt?]
  next x => cases x.toInt? <;> simp

theorem get?_eq_none_iff {key : Text} {entries : List (Value × Value)} :
    get? key entries = none ↔ ∀ e ∈ entries, e.1 ≠ .text key := by
  simp only [get?, Option.map_eq_none_iff, List.find?_eq_none, sameKey_text_iff, ne_eq]

theorem get?_cons (key : Text) (e : Value × Value) (entries : List (Value × Value)) :
    get? key (e :: entries) = if e.1.sameKey (.text key) then some e.2 else get? key entries := by
  rw [get?, get?, List.find?_cons]
  cases e.1.sameKey (.text key) <;> rfl

/-- What is put into a mapping is there. -/
theorem get?_put_self (key : Text) (value : Value) (entries : List (Value × Value)) :
    get? key (put (.text key) value entries) = some value := by
  induction entries with
  | nil => rw [put, get?_cons, if_pos (sameKey_text_iff.2 rfl)]
  | cons e rest ih =>
    obtain ⟨k, v⟩ := e
    simp only [put]
    split
    next h => rw [get?_cons, if_pos h]
    next h => rw [get?_cons, if_neg h, ih]

/-- What is put into a mapping leaves the values of other keys alone. -/
theorem get?_put_of_ne {key other : Text} (h : key ≠ other) (value : Value)
    (entries : List (Value × Value)) :
    get? key (put (.text other) value entries) = get? key entries := by
  have hother : ¬ sameKey (.text other) (.text key) = true := by
    rw [sameKey_text_iff]
    intro heq
    cases heq
    exact h rfl
  induction entries with
  | nil => rw [put, get?_cons, if_neg hother]
  | cons e rest ih =>
    obtain ⟨k, v⟩ := e
    simp only [put]
    split
    next hk =>
      obtain rfl := sameKey_text_iff.1 hk
      rw [get?_cons, if_neg hother, get?_cons, if_neg hother]
    next hk => rw [get?_cons, get?_cons, ih]

/-- What is put into a mapping adds no other key than its own. -/
theorem forall_key_put_iff {P : Value → Prop} {key : Text} (value : Value)
    {entries : List (Value × Value)} :
    (∀ e ∈ put (.text key) value entries, P e.1) ↔ P (.text key) ∧ ∀ e ∈ entries, P e.1 := by
  induction entries with
  | nil => simp [put]
  | cons e rest ih =>
    obtain ⟨k, v⟩ := e
    simp only [put]
    split
    next h =>
      obtain rfl := sameKey_text_iff.1 h
      simp
    next h =>
      rw [List.forall_mem_cons, List.forall_mem_cons, ih]
      exact and_left_comm

end Yaml.Value

/-! ## The two options -/

/-- A key that names an option. -/
def IsOption (key : Value) : Prop := key = .text allowDefaultName ∨ key = .text allowedDomainsName

/-- The truth value that an option stands for; without it, no. -/
inductive IsTruth : Option Value → Bool → Prop where
  /-- There is no such option. -/
  | absent : IsTruth none false
  /-- It is a truth value. -/
  | bool (b : Bool) : IsTruth (some (.bool b)) b

/-- The texts that an option lists; without it, none. -/
inductive IsListing : Option Value → List Text → Prop where
  /-- There is no such option. -/
  | absent : IsListing none []
  /-- It is null. -/
  | null : IsListing (some .null) []
  /-- It is a list of texts. -/
  | texts (ts : List Text) : IsListing (some (.sequence (ts.map .text))) ts
  /-- It is a list of two texts that stands for an entry. -/
  | pair (key value : Text) : IsListing (some (.pair (.text key) (.text value))) [key, value]

namespace Policy

theorem isOptionName_iff {key : Value} : isOptionName key = true ↔ IsOption key := by
  rw [isOptionName, Bool.or_eq_true, Value.sameKey_text_iff, Value.sameKey_text_iff, IsOption]

theorem allowDefaultOf_eq_ok_iff {v? : Option Value} {b : Bool} :
    allowDefaultOf v? = .ok b ↔ IsTruth v? b := by
  constructor
  · intro h
    unfold allowDefaultOf at h
    split at h
    next => cases h; exact .absent
    next => cases h; exact .bool b
    next => cases h
  · intro h
    cases h <;> rfl

theorem mapM_textOf?_eq_some_iff {values : List Value} {ts : List Text} :
    values.mapM textOf? = some ts ↔ values = ts.map .text := by
  induction values generalizing ts with
  | nil => cases ts <;> simp
  | cons v rest ih =>
    cases ts with
    | nil => cases v <;> simp [textOf?, Option.bind_eq_some_iff]
    | cons t ts =>
      cases v with
      | text u => simpa [textOf?, Option.bind_eq_some_iff, ih] using and_comm
      | _ => simp [textOf?]

theorem textsOf_eq_ok_iff {values : List Value} {ts : List Text} :
    textsOf values = .ok ts ↔ values = ts.map .text := by
  rw [← mapM_textOf?_eq_some_iff, textsOf]
  cases values.mapM textOf? <;> simp

theorem allowedOf_eq_ok_iff {v? : Option Value} {ts : List Text} :
    allowedOf v? = .ok ts ↔ IsListing v? ts := by
  constructor
  · intro h
    unfold allowedOf at h
    split at h
    next => cases h; exact .absent
    next => cases h; exact .null
    next items =>
      obtain rfl := textsOf_eq_ok_iff.1 h
      exact .texts ts
    next key value =>
      have hpair := textsOf_eq_ok_iff.1 h
      match ts, hpair with
      | [k, v], hpair =>
        obtain ⟨rfl, rfl⟩ : key = .text k ∧ value = .text v := by simpa using hpair
        exact .pair k v
    next => cases h
  · intro h
    cases h with
    | absent => rfl
    | null => rfl
    | texts ts => exact textsOf_eq_ok_iff.2 rfl
    | pair key value =>
      show textsOf [.text key, .text value] = .ok [key, value]
      exact textsOf_eq_ok_iff.2 rfl

/-! ## Entries -/

/-- The entries of a mapping say what a policy says of leaving the domain out, and which
domains it allows. -/
structure EntriesDescribe (entries : List (Value × Value)) (allowDefault : Bool)
    (allowed : List Text) : Prop where
  /-- There is no other option. -/
  known : ∀ e ∈ entries, IsOption e.1
  /-- The one option. -/
  truth : IsTruth (Value.get? allowDefaultName entries) allowDefault
  /-- The other option. -/
  listing : IsListing (Value.get? allowedDomainsName entries) allowed

variable {entries : List (Value × Value)}

theorem ofKnown_eq_ok_iff {p : Policy} :
    ofKnown entries = .ok p ↔ IsTruth (Value.get? allowDefaultName entries) p.allowDefault ∧
      IsListing (Value.get? allowedDomainsName entries) p.allowed := by
  rw [← allowDefaultOf_eq_ok_iff, ← allowedOf_eq_ok_iff, ofKnown]
  cases allowDefaultOf (Value.get? allowDefaultName entries) with
  | error e => simp [bind, Except.bind]
  | ok b =>
    cases allowedOf (Value.get? allowedDomainsName entries) with
    | error e => simp [bind, Except.bind]
    | ok ts =>
      have hbuild : build b ts = .ok p ↔ b = p.allowDefault ∧ ts = p.allowed := by
        rw [build_eq_ok_iff]
        constructor
        · rintro ⟨-, rfl, rfl⟩
          exact ⟨rfl, rfl⟩
        · rintro ⟨rfl, rfl⟩
          exact ⟨p.distinct, rfl, rfl⟩
      simpa [bind, Except.bind] using hbuild

theorem mem_unknownKeys_iff {key : Value} :
    key ∈ unknownKeys entries ↔ ¬ IsOption key ∧ ∃ e ∈ entries, e.1 = key := by
  simp only [unknownKeys, List.mem_map, List.mem_filter, Bool.not_eq_true', ← Bool.not_eq_true,
    isOptionName_iff]
  constructor
  · rintro ⟨e, ⟨he, hunknown⟩, rfl⟩
    exact ⟨hunknown, e, he, rfl⟩
  · rintro ⟨hunknown, e, he, rfl⟩
    exact ⟨e, ⟨he, hunknown⟩, rfl⟩

theorem unknownKeys_eq_nil_iff : unknownKeys entries = [] ↔ ∀ e ∈ entries, IsOption e.1 := by
  rw [List.eq_nil_iff_forall_not_mem]
  simp only [mem_unknownKeys_iff, not_and, not_exists]
  constructor
  · intro h e he
    exact Classical.byContradiction fun hunknown => h e.1 hunknown e he rfl
  · rintro h _ hunknown e he rfl
    exact hunknown (h e he)

end Policy

/-- `Unnameable entries`: a key that names no option has no text. -/
def Unnameable (entries : List (Value × Value)) : Prop :=
  ∃ e ∈ entries, ¬ IsOption e.1 ∧ e.1.hasText = false

theorem hasText_eq_false_iff {v : Value} :
    v.hasText = false ↔ ∃ n, v = .int n ∧ Nat.pow 10 Value.maxDigits ≤ n.natAbs := by
  constructor
  · intro h
    cases v with
    | int n =>
      rw [Value.hasText, decide_eq_false_iff_not, Nat.not_lt] at h
      exact ⟨n, rfl, h⟩
    | _ => cases h
  · rintro ⟨n, rfl, h⟩
    rw [Value.hasText, decide_eq_false_iff_not, Nat.not_lt]
    exact h

/-- Only whole numbers have no text, from the first of more than 4300 digits on. -/
theorem unnameable_iff {entries : List (Value × Value)} :
    Unnameable entries ↔
      ∃ n v, (Value.int n, v) ∈ entries ∧ Nat.pow 10 Value.maxDigits ≤ n.natAbs := by
  constructor
  · rintro ⟨⟨k, v⟩, he, -, htext⟩
    obtain ⟨n, rfl, hlong⟩ := hasText_eq_false_iff.1 htext
    exact ⟨n, v, he, hlong⟩
  · rintro ⟨n, v, he, hlong⟩
    refine ⟨(.int n, v), he, ?_, hasText_eq_false_iff.2 ⟨n, rfl, hlong⟩⟩
    rintro (h | h) <;> cases h

namespace Policy

variable {entries : List (Value × Value)}

theorem all_hasText_unknownKeys_iff :
    (unknownKeys entries).all Value.hasText = true ↔ ¬ Unnameable entries := by
  simp only [List.all_eq_true, mem_unknownKeys_iff, Unnameable, not_exists, not_and,
    Bool.not_eq_false]
  constructor
  · intro h e he hunknown
    exact h e.1 ⟨hunknown, e, he, rfl⟩
  · rintro h _ ⟨hunknown, e, he, rfl⟩
    exact h e he hunknown

theorem ofEntries_of_unnameable (h : Unnameable entries) :
    ofEntries entries = .error .unnameable := by
  have hunknown : unknownOptions entries = .error .unnameable :=
    if_neg fun hall => all_hasText_unknownKeys_iff.1 hall h
  rw [ofEntries, hunknown]

theorem ofEntries_of_known (h : ∀ e ∈ entries, IsOption e.1) :
    ofEntries entries = (ofKnown entries).mapError .invalid := by
  have hunknown : unknownOptions entries = .ok [] := by
    simp only [unknownOptions, unknownKeys_eq_nil_iff.2 h]
    rfl
  rw [ofEntries, hunknown]

theorem ofEntries_of_unknown (h : ¬ Unnameable entries) (hkey : ¬ ∀ e ∈ entries, IsOption e.1) :
    ofEntries entries =
      .error (.invalid (.unknownOptions (Text.sort ((unknownKeys entries).map Value.keyText)))) := by
  have hunknown :
      unknownOptions entries = .ok (Text.sort ((unknownKeys entries).map Value.keyText)) :=
    if_pos (all_hasText_unknownKeys_iff.2 h)
  rw [ofEntries, hunknown]
  cases hnames : Text.sort ((unknownKeys entries).map Value.keyText) with
  | nil =>
    rw [← List.length_eq_zero_iff, Text.sort, length_sortBy, List.length_map,
      List.length_eq_zero_iff, unknownKeys_eq_nil_iff] at hnames
    exact absurd hnames hkey
  | cons name names => rfl

/-- Entries describe a policy exactly if they say what it says. -/
theorem ofEntries_eq_ok_iff {p : Policy} :
    ofEntries entries = .ok p ↔ EntriesDescribe entries p.allowDefault p.allowed := by
  by_cases hknown : ∀ e ∈ entries, IsOption e.1
  · have hdescribe : EntriesDescribe entries p.allowDefault p.allowed ↔ ofKnown entries = .ok p := by
      rw [ofKnown_eq_ok_iff]
      exact ⟨fun h => ⟨h.truth, h.listing⟩, fun ⟨h, h'⟩ => ⟨hknown, h, h'⟩⟩
    rw [hdescribe, ofEntries_of_known hknown]
    cases ofKnown entries with
    | error e => exact iff_of_false nofun nofun
    | ok q => exact ⟨fun h => congrArg _ (Except.ok.inj h), fun h => congrArg _ (Except.ok.inj h)⟩
  · have hnot : ¬ EntriesDescribe entries p.allowDefault p.allowed := fun h => hknown h.known
    by_cases hname : Unnameable entries
    · simp [ofEntries_of_unnameable hname, hnot]
    · simp [ofEntries_of_unknown hname hknown, hnot]

/-- Entries cannot even be refused exactly if a key that names no option has no text. -/
theorem ofEntries_eq_unnameable_iff :
    ofEntries entries = .error .unnameable ↔ Unnameable entries := by
  by_cases hname : Unnameable entries
  · simp [ofEntries_of_unnameable hname, hname]
  · by_cases hknown : ∀ e ∈ entries, IsOption e.1
    · rw [ofEntries_of_known hknown]
      refine iff_of_false ?_ hname
      cases ofKnown entries <;> nofun
    · simp [ofEntries_of_unknown hname hknown, hname]

/-! ## Options of any kind -/

/-- Options say what a policy says of leaving the domain out, and which domains it allows. -/
inductive Describes : Value → Bool → List Text → Prop where
  /-- Without options, the domain must not be left out and none is allowed. -/
  | absent : Describes .null false []
  /-- Options are a mapping. -/
  | mapping {entries : List (Value × Value)} {allowDefault : Bool} {allowed : List Text}
      (h : EntriesDescribe entries allowDefault allowed) :
      Describes (.mapping entries) allowDefault allowed

/-- The options that describe a policy. -/
def options (p : Policy) : Value :=
  .mapping [(.text allowDefaultName, .bool p.allowDefault),
    (.text allowedDomainsName, .sequence (p.allowed.map .text))]

theorem describes_options (p : Policy) : Describes p.options p.allowDefault p.allowed := by
  refine .mapping ⟨?_, ?_, ?_⟩
  · simp [IsOption]
  · exact .bool p.allowDefault
  · exact .texts p.allowed

theorem ofOptions_eq_ok_iff {v : Value} {p : Policy} :
    ofOptions v = .ok p ↔ Describes v p.allowDefault p.allowed := by
  cases v with
  | null =>
    constructor
    · intro h
      obtain rfl := Except.ok.inj h
      exact .absent
    · intro h
      obtain ⟨b, ts, distinct⟩ := p
      cases h
      rfl
  | mapping entries =>
    rw [ofOptions, ofEntries_eq_ok_iff]
    exact ⟨.mapping, fun h => by cases h; assumption⟩
  | _ => exact ⟨fun h => (by cases h), fun h => by cases h⟩

theorem exists_ofOptions_eq_ok_iff {v : Value} :
    (∃ p, ofOptions v = .ok p) ↔ ∃ b ts, Describes v b ts ∧ ts.Nodup := by
  constructor
  · rintro ⟨p, hp⟩
    exact ⟨p.allowDefault, p.allowed, ofOptions_eq_ok_iff.1 hp, p.distinct⟩
  · rintro ⟨b, ts, hdescribes, hdistinct⟩
    exact ⟨⟨b, ts, hdistinct⟩, ofOptions_eq_ok_iff.2 hdescribes⟩

theorem ofOptions_eq_unnameable_iff {v : Value} :
    ofOptions v = .error .unnameable ↔ ∃ entries, v = .mapping entries ∧ Unnameable entries := by
  cases v with
  | mapping entries => simp [ofOptions, ofEntries_eq_unnameable_iff]
  | _ => simp [ofOptions]

/-- Options are accepted exactly if they are absent, or a mapping of the two options to a truth
value and to a list of different texts, and what they say is what the policy says. All others are
refused as wrong, unless a key is a whole number of more than 4300 digits. Every policy is had
from its options, and there is one for a list of domains exactly if none is listed twice. -/
theorem ofOptions_decides (v : Value) :
    (∀ p : Policy, ofOptions v = .ok p ↔ Describes v p.allowDefault p.allowed) ∧
    ((∃ p, ofOptions v = .ok p) ↔ ∃ b ts, Describes v b ts ∧ ts.Nodup) ∧
    ((∃ e, ofOptions v = .error (.invalid e)) ↔
      (¬ ∃ b ts, Describes v b ts ∧ ts.Nodup) ∧
        ¬ ∃ entries n value, v = .mapping entries ∧ (Value.int n, value) ∈ entries ∧
          Nat.pow 10 Value.maxDigits ≤ n.natAbs) ∧
    (∀ p : Policy, ofOptions p.options = .ok p) ∧
    ∀ (b : Bool) (ts : List Text), (∃ p, build b ts = .ok p) ↔ ts.Nodup := by
  refine ⟨fun p => ofOptions_eq_ok_iff, exists_ofOptions_eq_ok_iff, ?_,
    fun p => ofOptions_eq_ok_iff.2 p.describes_options, fun b ts => ?_⟩
  · have hlong : (∃ entries n value, v = .mapping entries ∧ (Value.int n, value) ∈ entries ∧
        Nat.pow 10 Value.maxDigits ≤ n.natAbs) ↔ ofOptions v = .error .unnameable := by
      simp only [ofOptions_eq_unnameable_iff, unnameable_iff, exists_and_left]
    rw [← exists_ofOptions_eq_ok_iff, hlong]
    cases hv : ofOptions v with
    | ok p => simp
    | error e => cases e <;> simp
  · constructor
    · rintro ⟨p, hp⟩
      exact (build_eq_ok_iff.1 hp).1
    · intro hdistinct
      exact ⟨⟨b, ts, hdistinct⟩, build_eq_ok_iff.2 ⟨hdistinct, rfl, rfl⟩⟩

/-- The key is the smallest whole number of 4301 digits. -/
theorem ofOptions_of_long_number :
    ofOptions (.mapping [(.int (Nat.pow 10 Value.maxDigits), .null)]) = .error .unnameable := by
  refine ofOptions_eq_unnameable_iff.2 ⟨_, rfl, unnameable_iff.2 ⟨_, _, .head _, ?_⟩⟩
  exact Nat.le_of_eq (Int.natAbs_natCast _).symm

end Policy

end TextDomain
