import TextDomain.Command
import TextDomain.Proofs.Config.Description

/-!
# From a document to a policy

The policy of a request comes from a document and from the flags of the command
line. The document holds options in one of two shapes, and nothing at all is a
document without options. Flags go in front of what the document says, each
over its own option, before anything is checked. So a flag hides a wrong value
of its option; it does not hide a key that names none.

As only the options of the document count, it makes no difference in which
shape they are written.

## Main results

* `Options.ofDocument_eq_ok_iff` — which options a document holds.
* `CommandLine.Request.entriesDescribe_override_iff` — what they describe behind
  the flags.
* `CommandLine.Request.policy_of_document` — the policy of a request.
-/

namespace TextDomain

open Yaml (Value)
open CommandLine (Request)

/-! ## The options of a document -/

namespace Options

/-- `Of document? options`: these are the options that a document holds, if there is one. -/
inductive Of : Option Value → Options → Prop where
  /-- There is no document. -/
  | noDocument : Of none []
  /-- The document is empty. -/
  | empty : Of (some .null) []
  /-- A document without rules consists of the options. -/
  | direct {entries : Options} (hrules : Value.get? rulesName entries = none) :
      Of (some (.mapping entries)) entries
  /-- Of the rules, the one with its key has the options. -/
  | nested {entries rules options : Options}
      (hrules : Value.get? rulesName entries = some (.mapping rules))
      (hrule : Value.get? ruleKey rules = some (.mapping options)) :
      Of (some (.mapping entries)) options
  /-- The rule is not among the rules, or it is null there. -/
  | unlisted {entries rules : Options}
      (hrules : Value.get? rulesName entries = some (.mapping rules))
      (hrule : Value.get? ruleKey rules = none ∨ Value.get? ruleKey rules = some .null) :
      Of (some (.mapping entries)) []

variable {path : Text} {document : Value} {entries rules options options' : Options}

theorem ofRules_eq_ok_iff : ofRules path rules = .ok options ↔
    Value.get? ruleKey rules = some (.mapping options) ∨
      options = [] ∧ (Value.get? ruleKey rules = none ∨ Value.get? ruleKey rules = some .null) := by
  unfold ofRules
  cases Value.get? ruleKey rules with
  | none => simp [eq_comm]
  | some v => cases v <;> simp [eq_comm]

/-- The options that are found in a document are those that it holds. -/
theorem ofDocument_eq_ok_iff : ofDocument path document = .ok options ↔
    Of (some document) options := by
  constructor
  · intro h
    unfold ofDocument at h
    split at h
    next => cases h; exact .empty
    next entries =>
      split at h
      next hrules => cases h; exact .direct hrules
      next rules hrules =>
        rcases ofRules_eq_ok_iff.1 h with hrule | ⟨rfl, hrule⟩
        · exact .nested hrules hrule
        · exact .unlisted hrules hrule
      next => cases h
    next => cases h
  · intro h
    cases h with
    | empty => rfl
    | direct hrules => simp only [ofDocument, hrules]
    | nested hrules hrule =>
      simp only [ofDocument, hrules]
      exact ofRules_eq_ok_iff.2 (.inl hrule)
    | unlisted hrules hrule =>
      simp only [ofDocument, hrules]
      exact ofRules_eq_ok_iff.2 (.inr ⟨rfl, hrule⟩)

theorem Of.unique {document? : Option Value} (h : Of document? options)
    (h' : Of document? options') : options = options' := by
  cases document? with
  | none => cases h; cases h'; rfl
  | some document =>
    have hfound : ofDocument [] document = .ok options := ofDocument_eq_ok_iff.2 h
    exact Except.ok.inj (hfound.symm.trans (ofDocument_eq_ok_iff.2 h'))

/-- A document with these options under its rule. -/
def inRules (options : Options) : Value :=
  .mapping [(.text rulesName, .mapping [(.text ruleKey, .mapping options)])]

theorem of_inRules (options : Options) : Of (some (inRules options)) options := by
  have hfirst : ∀ (key : Text) (value : Value),
      Value.get? key [(.text key, value)] = some value := by
    intro key value
    rw [Value.get?_cons, if_pos (Value.sameKey_text_iff.2 rfl)]
  exact .nested (hfirst rulesName _) (hfirst ruleKey _)

end Options

/-! ## Flags -/

namespace CommandLine.Request

/-- `r.InForce options allowDefault allowed`: with the flags of the request in front, the options
say whether the domain may be left out, and which domains are allowed. -/
structure InForce (r : Request) (options : Options) (allowDefault : Bool) (allowed : List Text) :
    Prop where
  /-- There is no other option. -/
  known : ∀ e ∈ options, IsOption e.1
  /-- The flag stands for yes; without it, the option counts. -/
  truth : r.allowDefault = true ∧ allowDefault = true ∨
    r.allowDefault = false ∧ IsTruth (Value.get? allowDefaultName options) allowDefault
  /-- The domains of the flags are allowed, in their order; without them, the option counts. -/
  listing : r.domains ≠ [] ∧ r.domains = allowed.map some ∨
    r.domains = [] ∧ IsListing (Value.get? allowedDomainsName options) allowed

variable {r : Request} {options : Options}

theorem allowDefaultName_ne : allowDefaultName ≠ allowedDomainsName := by decide

/-- Flags add no key but those of the options. -/
theorem forall_key_override_iff {P : Value → Prop} (hdefault : P (.text allowDefaultName))
    (hdomains : P (.text allowedDomainsName)) :
    (∀ e ∈ r.override options, P e.1) ↔ ∀ e ∈ options, P e.1 := by
  have hput : ∀ (key : Text) (value : Value) (options : Options), P (.text key) →
      ((∀ e ∈ Value.put (.text key) value options, P e.1) ↔ ∀ e ∈ options, P e.1) := by
    intro key value options hkey
    rw [Value.forall_key_put_iff]
    exact and_iff_right hkey
  unfold override
  cases r.allowDefault <;> cases r.domains.isEmpty <;>
    simp only [Bool.false_eq_true, if_false, if_true, hput _ _ _ hdefault, hput _ _ _ hdomains]

theorem get?_allowDefault_override : Value.get? allowDefaultName (r.override options) =
    if r.allowDefault then some (.bool true) else Value.get? allowDefaultName options := by
  unfold override
  cases r.allowDefault <;> cases r.domains.isEmpty <;>
    simp [Value.get?_put_self, Value.get?_put_of_ne allowDefaultName_ne]

theorem get?_allowed_override : Value.get? allowedDomainsName (r.override options) =
    if r.domains = [] then Value.get? allowedDomainsName options
    else some (.sequence (r.domains.map domainValue)) := by
  unfold override
  cases r.allowDefault <;> cases r.domains <;>
    simp [Value.get?_put_self, Value.get?_put_of_ne allowDefaultName_ne.symm]

theorem isTruth_bool_iff {b b' : Bool} : IsTruth (some (.bool b)) b' ↔ b' = b :=
  ⟨fun h => (by cases h; rfl), fun h => h ▸ .bool b⟩

theorem map_domainValue_eq_iff {domains : List (Option Text)} {ts : List Text} :
    domains.map domainValue = ts.map .text ↔ domains = ts.map some := by
  induction domains generalizing ts with
  | nil => cases ts <;> simp
  | cons d rest ih => cases ts <;> cases d <;> simp [domainValue, ih]

theorem isListing_sequence_iff {domains : List (Option Text)} {ts : List Text} :
    IsListing (some (.sequence (domains.map domainValue))) ts ↔ domains = ts.map some := by
  rw [← map_domainValue_eq_iff]
  constructor
  · intro h
    generalize hitems : domains.map domainValue = items at h
    cases h
    rfl
  · intro h
    rw [h]
    exact .texts ts

/-- Options with those of the flags in their place describe what is in force. -/
theorem entriesDescribe_override_iff {b : Bool} {ts : List Text} :
    Policy.EntriesDescribe (r.override options) b ts ↔ r.InForce options b ts := by
  have hknown : (∀ e ∈ r.override options, IsOption e.1) ↔ ∀ e ∈ options, IsOption e.1 :=
    forall_key_override_iff (.inl rfl) (.inr rfl)
  have htruth : IsTruth (Value.get? allowDefaultName (r.override options)) b ↔
      r.allowDefault = true ∧ b = true ∨
        r.allowDefault = false ∧ IsTruth (Value.get? allowDefaultName options) b := by
    rw [get?_allowDefault_override]
    cases r.allowDefault <;> simp [isTruth_bool_iff]
  have hlisting : IsListing (Value.get? allowedDomainsName (r.override options)) ts ↔
      r.domains ≠ [] ∧ r.domains = ts.map some ∨
        r.domains = [] ∧ IsListing (Value.get? allowedDomainsName options) ts := by
    rw [get?_allowed_override]
    by_cases hdomains : r.domains = [] <;> simp [hdomains, isListing_sequence_iff]
  constructor
  · intro h
    exact ⟨hknown.1 h.known, htruth.1 h.truth, hlisting.1 h.listing⟩
  · intro h
    exact ⟨hknown.2 h.known, htruth.2 h.truth, hlisting.2 h.listing⟩

/-! ## The policy of a request -/

/-- `r.Reads files document?`: the request names no configuration file, or a file that holds a
document. -/
inductive Reads (r : Request) (files : FileSystem) : Option Value → Prop where
  /-- No file is named. -/
  | noFile (hconfig : r.config = none ∨ r.config = some []) : Reads r files none
  /-- The file can be read and parsed. -/
  | document {path : Text} {content : Bytes} {document : Value} (hconfig : r.config = some path)
      (hpath : path ≠ []) (hread : files.read path = .ok content)
      (hparse : Options.parse path content = .ok document) : Reads r files (some document)

variable {files : FileSystem} {document? : Option Value}

theorem fileOptions_of_path {path : Text} (hconfig : r.config = some path) (hpath : path ≠ []) :
    r.fileOptions files = Options.load files path := by
  unfold fileOptions
  rw [hconfig]
  cases path with
  | nil => exact absurd rfl hpath
  | cons c rest => rfl

theorem Reads.fileOptions_eq_ok_iff (h : r.Reads files document?) :
    r.fileOptions files = .ok options ↔ Options.Of document? options := by
  cases h with
  | noFile hconfig =>
    have hoptions : r.fileOptions files = .ok [] := by
      rcases hconfig with hconfig | hconfig <;> rw [fileOptions, hconfig]
    rw [hoptions]
    constructor
    · intro h
      cases h
      exact .noDocument
    · intro h
      cases h
      rfl
  | @document path content document hconfig hpath hread hparse =>
    have hfound : Options.ofDocument path document = .ok options ↔
        Options.Of (some document) options := Options.ofDocument_eq_ok_iff
    rw [fileOptions_of_path hconfig hpath, ← hfound, Options.load, hread]
    simp only [hparse]
    cases Options.ofDocument path document <;> simp

end CommandLine.Request

theorem Policy.ofLoaded_eq_ok_iff {options : Options} {p : Policy} :
    ofLoaded options = .ok p ↔ ofEntries options = .ok p := by
  unfold ofLoaded
  split <;> simp_all

namespace CommandLine.Request

variable {r : Request} {files : FileSystem} {document? : Option Value}

theorem Reads.policy_eq_ok_iff (h : r.Reads files document?) {p : Policy} :
    r.policy files = .ok p ↔
      ∃ options, Options.Of document? options ∧ r.InForce options p.allowDefault p.allowed := by
  simp only [← h.fileOptions_eq_ok_iff, ← entriesDescribe_override_iff,
    ← Policy.ofEntries_eq_ok_iff, ← Policy.ofLoaded_eq_ok_iff]
  unfold policy
  cases r.fileOptions files <;> simp

/-- The policy of a request is had exactly if the document holds options, the options in force are
known and of the right kinds, and no domain in force is listed twice; it is what is in force. So
a policy does not show whether its options are the document or stand under the rule in it. -/
theorem policy_of_document (h : r.Reads files document?) :
    (∀ p : Policy, r.policy files = .ok p ↔
      ∃ options, Options.Of document? options ∧ r.InForce options p.allowDefault p.allowed) ∧
    ((∃ p, r.policy files = .ok p) ↔
      ∃ options b ts, Options.Of document? options ∧ r.InForce options b ts ∧ ts.Nodup) ∧
    ∀ (options : Options) (config? : Option Text) (files' : FileSystem),
      document? = some (.mapping options) → Value.get? Options.rulesName options = none →
      Reads { r with config := config? } files' (some (Options.inRules options)) →
      ∀ p : Policy, r.policy files = .ok p ↔
        Request.policy { r with config := config? } files' = .ok p := by
  refine ⟨fun p => h.policy_eq_ok_iff, ?_, ?_⟩
  · constructor
    · rintro ⟨p, hp⟩
      obtain ⟨options, hoptions, hforce⟩ := h.policy_eq_ok_iff.1 hp
      exact ⟨options, p.allowDefault, p.allowed, hoptions, hforce, p.distinct⟩
    · rintro ⟨options, b, ts, hoptions, hforce, hdistinct⟩
      exact ⟨⟨b, ts, hdistinct⟩, h.policy_eq_ok_iff.2 ⟨options, hoptions, hforce⟩⟩
  · rintro options config? files' rfl hrules h' p
    rw [h.policy_eq_ok_iff, h'.policy_eq_ok_iff]
    constructor
    · rintro ⟨held, hheld, hforce⟩
      obtain rfl := hheld.unique (.direct hrules)
      exact ⟨held, Options.of_inRules held, hforce.known, hforce.truth, hforce.listing⟩
    · rintro ⟨held, hheld, hforce⟩
      obtain rfl := hheld.unique (Options.of_inRules options)
      exact ⟨held, .direct hrules, hforce.known, hforce.truth, hforce.listing⟩

/-- A configuration file with an option that is no truth value. -/
def wrongOption : Bytes := Text.encode
  "rules: \x7bi18n-text-domain: \x7ballowDefault: 1, allowedTextDomains: [b, a]\x7d\x7d".toList

/-- A directory with that file. -/
def wrongFiles : FileSystem := ⟨.directory [("c.yaml".toList, .file wrongOption)], []⟩

/-- A request with a flag for that option. -/
def insistent : Request := { config := some "c.yaml".toList, allowDefault := true }

/-- The flag hides the value of the file, and the domains of the file are in force. -/
theorem policy_of_document_hidden :
    ∃ document, insistent.Reads wrongFiles (some document) ∧
      ∃ options, Options.Of (some document) options ∧
        insistent.InForce options true [['b'], ['a']] := by
  have hparses : (Options.parse "c.yaml".toList wrongOption).toOption.isSome = true := by
    decide +kernel
  have hruns : (insistent.policy wrongFiles).toOption =
      some { allowDefault := true, allowed := [['b'], ['a']] } := by
    decide +kernel
  cases hparse : Options.parse "c.yaml".toList wrongOption with
  | error e =>
    rw [hparse] at hparses
    cases hparses
  | ok document =>
    have hreads : insistent.Reads wrongFiles (some document) :=
      .document rfl (by decide) (by rfl) hparse
    cases hpolicy : insistent.policy wrongFiles with
    | error e =>
      rw [hpolicy] at hruns
      cases hruns
    | ok p =>
      rw [hpolicy] at hruns
      obtain rfl := Option.some.inj hruns
      exact ⟨document, hreads, ((policy_of_document hreads).1 _).1 hpolicy⟩

end CommandLine.Request

end TextDomain
