import TextDomain.FileSystem.Basic
import TextDomain.Options
import TextDomain.Text.Line
import TextDomain.Yaml.Document

/-!
# Configuration files

A configuration file holds the options of a policy, or a mapping of rules with
the options of this one among them. An empty file has no options, and neither
has a file without this rule.

Most faults of a file are reported as errors of the configuration. Three are
not: bytes that are no text, a document whose values do not exist, and the name
of an unknown option that is a number with too many digits to be written.
-/

namespace TextDomain

open Yaml (Value)

/-- What is wrong with a configuration. -/
inductive ConfigError where
  /-- The options describe no policy. -/
  | policy (e : PolicyError)
  /-- There is no such file. -/
  | notFound (path : Text)
  /-- The file cannot be read. -/
  | unreadable (path : Text) (e : PathError)
  /-- The file is no document. -/
  | unparsable (path : Text)
  /-- The document is something other than a mapping. -/
  | topLevelNotMapping (path : Text)
  /-- The rules are something other than a mapping. -/
  | rulesNotMapping (path : Text)
  /-- The options of the rule are something other than a mapping. -/
  | ruleNotMapping (path : Text)
deriving DecidableEq

/-- The wording of an error. -/
def ConfigError.message : ConfigError → Text
  | .policy e => e.message
  | .notFound path => "config file not found: ".toList ++ path
  | .unreadable path e => "could not read config file ".toList ++ path ++ ": ".toList ++ e.message path
  | .unparsable path => "could not parse config file ".toList ++ path
  | .topLevelNotMapping path => path ++ ": top level must be a mapping".toList
  | .rulesNotMapping path => path ++ ": 'rules' must be a mapping".toList
  | .ruleNotMapping path =>
    path ++ ": options for i18n-text-domain must be a mapping".toList

/-- Why a configuration cannot be had. -/
inductive ConfigFailure where
  /-- The configuration is wrong. -/
  | invalid (e : ConfigError)
  /-- The file is not a text. -/
  | undecodable
  /-- The document holds a value that does not exist, or an unknown option whose
  name has no text. -/
  | unrepresentable (f : Yaml.Fault)

/-- Options by name. -/
abbrev Options := List (Value × Value)

namespace Options

/-- The key under which rules are configured. -/
def rulesName : Text := "rules".toList

/-- The key of the rule among the rules. -/
def ruleKey : Text := "i18n-text-domain".toList

/-- The options of the rule among the rules. -/
def ofRules (path : Text) (rules : Options) : Except ConfigError Options :=
  match Value.get? ruleKey rules with
  | none | some .null => .ok []
  | some (.mapping options) => .ok options
  | some _ => .error (.ruleNotMapping path)

/-- The options in a document. -/
def ofDocument (path : Text) (document : Value) : Except ConfigError Options :=
  match document with
  | .null => .ok []
  | .mapping entries =>
    match Value.get? rulesName entries with
    | none => .ok entries
    | some (.mapping rules) => ofRules path rules
    | some _ => .error (.rulesNotMapping path)
  | _ => .error (.topLevelNotMapping path)

/-- The document that a file of a path holds. -/
def parse (path : Text) (content : Bytes) : Except ConfigFailure Value :=
  match Text.decode? content with
  | none => .error .undecodable
  | some t =>
    match Yaml.read (Text.unifyTerminators t) with
    | .ok v => .ok v
    | .error .malformed => .error (.invalid (.unparsable path))
    | .error f => .error (.unrepresentable f)

/-- The options in the file of a path. -/
def load (files : FileSystem) (path : Text) : Except ConfigFailure Options :=
  match files.read path with
  | .error .notFound => .error (.invalid (.notFound path))
  | .error e => .error (.invalid (.unreadable path e))
  | .ok content =>
    match parse path content with
    | .error e => .error e
    | .ok document =>
      match ofDocument path document with
      | .ok options => .ok options
      | .error e => .error (.invalid e)

end Options

namespace Policy

/-- The policy of given options. -/
def ofLoaded (options : Options) : Except ConfigFailure Policy :=
  match ofEntries options with
  | .ok p => .ok p
  | .error (.invalid e) => .error (.invalid (.policy e))
  | .error .unnameable => .error (.unrepresentable .impossible)

/-- The policy in the file of a path. -/
def load (files : FileSystem) (path : Text) : Except ConfigFailure Policy :=
  match Options.load files path with
  | .ok options => ofLoaded options
  | .error e => .error e

end Policy

end TextDomain
