import TextDomain.CommandLine.Help
import TextDomain.Diagnostic

/-!
# Requests

A command line asks for help or for a check. The program has one command; all
words behind it belong to the command and are read by its own flags.

Flags take effect from left to right, so that a request for help ends the
reading where it stands. The arguments of a command are the first run of
arguments only; those behind the next flag have no meaning any more.
-/

namespace TextDomain.CommandLine

/-- How reading a command line ends without a request for a check. -/
inductive Halt where
  /-- Help is asked for. -/
  | help (t : Text)
  /-- The command line is wrong. -/
  | usage (program message : Text)
deriving DecidableEq

/-- A request for a check. -/
structure Request where
  /-- The configuration file. -/
  config : Option Text := none
  /-- The domains that are allowed instead of those of the configuration; a
  flag may come without a value. -/
  domains : List (Option Text) := []
  /-- Whether calls may leave the domain out, whatever the configuration says. -/
  allowDefault : Bool := false
  /-- Whether files are fixed. -/
  fix : Bool := false
  /-- The format of the output. -/
  format : OutputFormat := .json
  /-- The file for the output. -/
  out : Option Text := none
  /-- The files and directories to check. -/
  paths : List Text := []
deriving DecidableEq

/-! ## Flags -/

/-- The flag that asks for help. -/
def helpFlag : Flag := ⟨["-h".toList, "--help".toList], false⟩

/-- The flag for the configuration file. -/
def configFlag : Flag := ⟨["--config".toList], true⟩

/-- The flag for an allowed domain. -/
def domainFlag : Flag := ⟨["--allowed-text-domain".toList], true⟩

/-- The flag for calls without a domain. -/
def allowDefaultFlag : Flag := ⟨["--allow-default".toList], false⟩

/-- The flag for fixing. -/
def fixFlag : Flag := ⟨["--fix".toList], false⟩

/-- The flag for the format. -/
def formatFlag : Flag := ⟨["--format".toList], true⟩

/-- The flag for the output file. -/
def outFlag : Flag := ⟨["--out".toList], true⟩

/-- The flags of the command. -/
def checkFlags : List Flag :=
  [helpFlag, configFlag, domainFlag, allowDefaultFlag, fixFlag, formatFlag, outFlag]

/-- The name of the program with its command. -/
def checkName : Text := "tdlint check".toList

/-- The format of a name. Without a name the output is text. -/
def formatOf : Option Text → Except Halt OutputFormat
  | none => .ok .text
  | some t =>
    if t = "json".toList then .ok .json
    else if t = "text".toList then .ok .text
    else .error (.usage checkName (flagError formatFlag
      ("invalid choice: ".toList ++ t.quoted ++ " (choose from 'json', 'text')".toList)))

/-- The request with a flag in force. -/
def Request.set (r : Request) (s : Setting) : Except Halt Request :=
  if s.flag = helpFlag then .error (.help checkHelp)
  else if s.flag = configFlag then .ok { r with config := s.value }
  else if s.flag = domainFlag then .ok { r with domains := r.domains ++ [s.value] }
  else if s.flag = allowDefaultFlag then .ok { r with allowDefault := true }
  else if s.flag = fixFlag then .ok { r with fix := true }
  else if s.flag = formatFlag then (formatOf s.value).map fun f => { r with format := f }
  else .ok { r with out := s.value }

/-- The request with flags in force, one after another. -/
def Request.setAll : List Setting → Request → Except Halt Request
  | [], r => .ok r
  | s :: rest, r => do
    let r ← r.set s
    r.setAll rest

/-! ## The command -/

/-- How far reading has come. -/
structure Reading where
  /-- The request so far. -/
  request : Request := {}
  /-- Whether the paths have been read. -/
  hasPaths : Bool := false
  /-- The words without a meaning. -/
  extras : List Text := []

/-- The words up to the next flag. -/
def untilFlag (ws : List Word) : List Word × List Word :=
  (ws.takeWhile (!·.isFlag), ws.dropWhile (!·.isFlag))

/-- Takes words that are no flags: as paths, if those are still missing and
there is an argument, else as words without a meaning. The first mark among
paths is dropped. -/
def Reading.take (s : Reading) (ws : List Word) : Reading :=
  if !s.hasPaths && ws.any (· != .mark) then
    { s with
      hasPaths := true
      request := { s.request with paths := (ws.map Word.text).erase ['-', '-'] } }
  else { s with extras := s.extras ++ ws.map Word.text }

/-- Reads the words of the command, at most the given number of flags. -/
def Reading.readFrom : Nat → List Word → Reading → Except Halt Reading
  | 0, _, s => .ok s
  | fuel + 1, ws, s =>
    let (plain, rest) := untilFlag ws
    let s := if plain.isEmpty then s else s.take plain
    match rest with
    | .flag t w :: rest =>
      match w.flag with
      | none => readFrom fuel rest { s with extras := s.extras ++ [t] }
      | some f =>
        match w.settings checkFlags f rest with
        | .error message => .error (.usage checkName message)
        | .ok (settings, rest) =>
          match s.request.setAll settings with
          | .error h => .error h
          | .ok r => readFrom fuel rest { s with request := r }
    | _ => .ok s

/-- The request in the words behind the command, and those without a
meaning. -/
def parseCheck (args : List Text) : Except Halt (Request × List Text) :=
  match words checkFlags args with
  | .error message => .error (.usage checkName message)
  | .ok ws =>
    match Reading.readFrom (ws.length + 1) ws {} with
    | .error h => .error h
    | .ok s =>
      if s.hasPaths then .ok (s.request, s.extras)
      else .error (.usage checkName
        "the following arguments are required: paths".toList)

/-! ## The program -/

/-- The command. -/
def checkCommand : Text := "check".toList

/-- The name of the program. -/
def programName : Text := toolName

/-- Reads the words in front of the command and the command itself, at most
the given number of flags. -/
def parseFrom : Nat → List Word → List Text → Except Halt Request
  | 0, _, _ => .error (.usage programName "the following arguments are required: command".toList)
  | fuel + 1, ws, extras =>
    match ws with
    | .flag t w :: rest =>
      match w.flag with
      | none => parseFrom fuel rest (extras ++ [t])
      | some f =>
        match w.settings [helpFlag] f rest with
        | .error message => .error (.usage programName message)
        | .ok _ => .error (.help programHelp)
    | _ =>
      if ws.any (· != .mark) then
        match ws.map Word.text with
        | name :: args =>
          if name = checkCommand then
            match parseCheck args with
            | .error h => .error h
            | .ok (r, more) =>
              if (extras ++ more).isEmpty then .ok r
              else .error (.usage programName ("unrecognized arguments: ".toList ++
                Text.join [' '] (extras ++ more)))
          else .error (.usage programName ("argument command: invalid choice: ".toList ++
            name.quoted ++ " (choose from 'check')".toList))
        | [] => .error (.usage programName "the following arguments are required: command".toList)
      else .error (.usage programName "the following arguments are required: command".toList)

/-- The request in a command line. -/
def parse (args : List Text) : Except Halt Request :=
  match words [helpFlag] args with
  | .error message => .error (.usage programName message)
  | .ok ws => parseFrom (ws.length + 1) ws []

end TextDomain.CommandLine
