import TextDomain.Call
import TextDomain.Diagnostic
import TextDomain.Literal.Marker
import TextDomain.Policy
import TextDomain.GettextFunction

/-!
# The rule on text domains

A call of a gettext function has to name an allowed text domain as a
string literal in its last required argument. Checking a call takes two steps.

1. `evaluate` finds the function, the argument in the domain slot, and the
   status of the call. It cannot fail.
2. `report` turns the status into a diagnostic, together with a fix where the
   fix is unambiguous. It fails only when the ranges that the host gave leave
   no room for the fix.

Fixes are attached in three situations: a missing domain is inserted and an
invalid one replaced when exactly one domain is allowed; the default domain is
removed when it may be left out.
-/

namespace TextDomain

/-- The domain that stands for leaving the domain out. -/
def defaultDomain : Text := "default".toList

/-! ## Evaluation -/

/-- How a call stands to the rule. -/
inductive Status where
  /-- Required arguments are left out. -/
  | missing
  /-- The domain is no string literal. -/
  | invalidType
  /-- The domain is not allowed. -/
  | invalidDomain
  /-- The domain is allowed. -/
  | valid
deriving DecidableEq

namespace Status

/-- The word for a status. -/
def word : Status → Text
  | .missing => "missing".toList
  | .invalidType => "invalid-type".toList
  | .invalidDomain => "invalid-domain".toList
  | .valid => "valid".toList

/-- The status that a word stands for. -/
def ofWord? (w : Text) : Option Status :=
  [Status.missing, .invalidType, .invalidDomain, .valid].find? fun s => s.word == w

end Status

/-- The argument in the domain slot of a call. Hosts may hand one over
directly, so its range is not known to be a span. -/
structure Domain where
  /-- Whether it is a string literal. -/
  isLiteral : Bool
  /-- Its value. -/
  value : Datum
  /-- The offset of its first character. -/
  start : Int
  /-- The offset after its last character. -/
  stop : Int
  /-- All arguments of the call. -/
  arguments : List Argument
  /-- Its text in the source, empty when the host has none. -/
  source : Text

/-- An argument in the domain slot. -/
def Domain.ofArgument (arguments : List Argument) (a : Argument) : Domain where
  isLiteral := a.isLiteral
  value := match a.literal? with
    | some v => .text v
    | none => .null
  start := a.span.start
  stop := a.span.stop
  arguments := arguments
  source := a.source

/-- The argument at a place counted from zero, as a domain. -/
def Call.domainAt? (call : Call) (index : Nat) : Option Domain :=
  call.arguments[index]?.map (Domain.ofArgument call.arguments)

/-- A place that is too far before the beginning. -/
structure OutOfRange where

/-- The argument at a place as a domain; a negative place counts from the end.
A place past the end is an empty slot, one before the beginning an error. -/
def Call.resolveDomain (call : Call) (index : Int) : Except OutOfRange (Option Domain) :=
  if 0 ≤ index then .ok (call.domainAt? index.toNat)
  else if 0 ≤ index + call.arguments.length then
    .ok (call.domainAt? (index + call.arguments.length).toNat)
  else .error {}

/-- The status of a domain that is a literal. -/
def Policy.statusOf (policy : Policy) (value : Datum) : Status :=
  match value with
  | .text t => if policy.allows t then .valid else .invalidDomain
  | _ => .invalidDomain

/-- The status of a call with the given number of arguments, if the number
alone decides it. -/
def GettextFunction.arityStatus (f : GettextFunction) (count : Int) : Option Status :=
  if f.lacksArguments count then some .missing else none

/-- What evaluation finds out about a call of a gettext function. -/
structure Outcome where
  /-- How the call stands to the rule. -/
  status : Status
  /-- The function that is called. -/
  function : GettextFunction
  /-- What stands in the domain slot. -/
  domain : Option Domain := none

/-- Evaluates a call. There is no outcome when the callee is no gettext
function. -/
def evaluate (call : Call) (policy : Policy) : Option Outcome :=
  match GettextFunction.ofName? call.functionName with
  | none => none
  | some f =>
    match f.arityStatus call.arguments.length with
    | some status => some { status := status, function := f }
    | none =>
      match call.domainAt? f.domainIndex.toNat with
      | none => some { status := .invalidType, function := f }
      | some domain =>
        if domain.isLiteral then some ⟨policy.statusOf domain.value, f, some domain⟩
        else some ⟨.invalidType, f, some domain⟩

/-! ## Fixes -/

/-- Inserts the only allowed domain after the last argument. There is no such
fix when the last argument ends with the call: a generator written without
parentheses of its own shares those of the call. -/
def insertionFix (call : Call) (policy : Policy) : Option Fix :=
  match policy.onlyAllowed?, call.arguments.getLast? with
  | some domain, some last =>
    if call.span.stop ≤ last.span.stop then none
    else some ⟨.insert, .empty last.span.stop, ", '".toList ++ domain ++ ['\'']⟩
  | _, _ => none

/-- Replaces the domain by the only allowed one: the value between the markers
where these are known, else the whole argument by a new literal. -/
def replacementFix (domain : Domain) (policy : Policy) : Except ContractError (Option Fix) :=
  match policy.onlyAllowed? with
  | none => .ok none
  | some allowed =>
    some <$> match Literal.markers? domain.source with
    | none => Fix.onPair .replace domain.start domain.stop ('\'' :: allowed ++ ['\''])
    | some m => Fix.onPair .replace (domain.start + m.opening) (domain.stop - m.closing) allowed

/-- Removes the domain together with everything after the argument before it. -/
def removalFix (domain : Domain) : Except ContractError Fix :=
  match domain.arguments.reverse.find? fun a => decide ((a.span.stop : Int) < domain.start) with
  | none => .error (.nothingPrecedes domain.start domain.stop)
  | some previous => Fix.onPair .delete previous.span.stop domain.stop []

/-! ## Reports -/

/-- A diagnostic on a call. -/
def diagnose (call : Call) (id : MessageId) (data : List (Text × Datum)) (fix : Option Fix) :
    Diagnostic where
  messageId := id.name
  message := id.render data
  location := call.location
  data := data
  fix := fix

/-- Whether a value is the default domain. -/
def isDefaultDomain : Datum → Bool
  | .text t => t == defaultDomain
  | _ => false

/-- The diagnostic that an outcome calls for, if any. -/
def report (call : Call) (status : Status) (domain : Option Domain) (policy : Policy) :
    Except ContractError (Option Diagnostic) :=
  match status with
  | .missing =>
    if policy.allowDefault then .ok none
    else .ok (some (diagnose call .missing [] (insertionFix call policy)))
  | .invalidType => .ok (some (diagnose call .invalidType [] none))
  | .invalidDomain =>
    match domain with
    | none => .error .domainMissing
    | some d =>
      if isDefaultDomain d.value && policy.allowDefault then do
        let fix ← removalFix d
        .ok (some (diagnose call .unnecessaryDefault [] (some fix)))
      else do
        let fix ← replacementFix d policy
        .ok (some (diagnose call .invalidValue [("textDomain".toList, d.value)] fix))
  | .valid => .ok none

/-- Checks a call: the diagnostic it gives rise to, if any. -/
def checkCall (call : Call) (policy : Policy) : Except ContractError (Option Diagnostic) :=
  match evaluate call policy with
  | none => .ok none
  | some o => report call o.status o.domain policy

/-- The status of a call and the fix of its diagnostic. -/
def validate (call : Call) (policy : Policy) :
    Except ContractError (Option Status × Option Fix) :=
  match evaluate call policy with
  | none => .ok (none, none)
  | some o => do
    let d ← report call o.status o.domain policy
    .ok (some o.status, d.bind (·.fix))

end TextDomain
