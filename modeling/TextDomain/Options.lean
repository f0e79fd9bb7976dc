import TextDomain.Policy
import TextDomain.Yaml.Value

/-!
# Options

A policy is configured by a mapping with two options: whether the domain may
be left out, and the list of allowed domains. Both may be absent, and the list
may be null; every other name is refused, before the options themselves are
looked at. A name is refused by its text, and a number with too many digits has
none.
-/

namespace TextDomain

open Yaml (Value)

/-- The option that says whether the domain may be left out. -/
def allowDefaultName : Text := "allowDefault".toList

/-- The option that lists the allowed domains. -/
def allowedDomainsName : Text := "allowedTextDomains".toList

/-- Why options describe no policy. -/
inductive OptionsFailure where
  /-- They are wrong. -/
  | invalid (e : PolicyError)
  /-- A key that names no option has no text to refuse it by. -/
  | unnameable
deriving DecidableEq

namespace Policy

/-- Whether a key names an option. -/
def isOptionName (key : Value) : Bool :=
  key.sameKey (.text allowDefaultName) || key.sameKey (.text allowedDomainsName)

/-- The keys that name no option. -/
def unknownKeys (entries : List (Value × Value)) : List Value :=
  (entries.filter (!isOptionName ·.1)).map (·.1)

/-- The texts of the keys that name no option, in ascending order. -/
def unknownOptions (entries : List (Value × Value)) : Except OptionsFailure (List Text) :=
  let keys := unknownKeys entries
  if keys.all Value.hasText then .ok (Text.sort (keys.map Value.keyText))
  else .error .unnameable

/-- The value of the option that says whether the domain may be left out. -/
def allowDefaultOf : Option Value → Except PolicyError Bool
  | none => .ok false
  | some (.bool b) => .ok b
  | some _ => .error .allowDefaultNotBoolean

/-- The text that a value is. -/
def textOf? : Value → Option Text
  | .text t => some t
  | _ => none

/-- The texts that values are. -/
def textsOf (values : List Value) : Except PolicyError (List Text) :=
  match values.mapM textOf? with
  | some ts => .ok ts
  | none => .error .domainsNotTexts

/-- The value of the option that lists the allowed domains. -/
def allowedOf : Option Value → Except PolicyError (List Text)
  | none | some .null => .ok []
  | some (.sequence items) => textsOf items
  | some (.pair key value) => textsOf [key, value]
  | some _ => .error .domainsNotTexts

/-- The policy that the two options describe. -/
def ofKnown (entries : List (Value × Value)) : Except PolicyError Policy := do
  let allowDefault ← allowDefaultOf (Value.get? allowDefaultName entries)
  let allowed ← allowedOf (Value.get? allowedDomainsName entries)
  build allowDefault allowed

/-- The policy that the entries of a mapping describe. -/
def ofEntries (entries : List (Value × Value)) : Except OptionsFailure Policy :=
  match unknownOptions entries with
  | .error e => .error e
  | .ok [] => (ofKnown entries).mapError .invalid
  | .ok (name :: names) => .error (.invalid (.unknownOptions (name :: names)))

/-- The policy that options describe; without options it is the default. -/
def ofOptions : Value → Except OptionsFailure Policy
  | .null => .ok {}
  | .mapping entries => ofEntries entries
  | v => .error (.invalid (.optionsNotMapping v.typeName.toList))

end Policy

end TextDomain
