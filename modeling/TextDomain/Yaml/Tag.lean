import TextDomain.Text.Utf8
import TextDomain.Yaml.Cursor

/-!
# Tags and directives

A tag names the type of a node. It is written out between angle brackets, or
as a handle and a suffix; a directive before the document says what a handle
stands for.
-/

namespace TextDomain.Yaml

open Reader

/-! ## Reading -/

/-- A tag as it is written. -/
structure WrittenTag where
  /-- The handle that the suffix belongs to, if there is one. -/
  handle : Option Text
  /-- The suffix, or the tag itself where there is no handle. -/
  suffix : Text
deriving DecidableEq

/-- A directive. -/
inductive Directive where
  /-- The version that the document is written in. -/
  | version (major minor : Nat)
  /-- What a handle stands for. -/
  | handle (name meaning : Text)
  /-- Any other, which means nothing here. -/
  | other
deriving DecidableEq

/-- Whether a character may stand in a tag as it is. -/
def isTagChar (c : Char) : Bool :=
  c.isAlphanum || "-;/?:\x40&=+$,_.!~*'()[]".toList.contains c

/-- The byte behind a percent sign. -/
def percentByte? : Reader (Option UInt8) := do
  if (← peek) == some '%' then
    skip 1
    let digits ← take 2
    require (digits.length == 2 && digits.all isHexDigit)
    return some (UInt8.ofNat ((Text.toNat? 16 digits).getD 0))
  else return none

/-- A run of tag characters, or the text of a run of percent signs. -/
def tagPart? : Reader (Option Text) := do
  let plain ← takeWhile isTagChar
  if !plain.isEmpty then return some plain
  let bytes ← many percentByte?
  if bytes.isEmpty then return none
  match Text.decode? bytes with
  | some t => return some t
  | none => throw .malformed

/-- The characters of a tag; there is at least one part. -/
def tagChars : Reader Text := do
  let parts ← many tagPart?
  require !parts.isEmpty
  return parts.flatten

/-- A handle: an exclamation mark, or a name between two of them. -/
def tagHandle : Reader Text := do
  require ((← peek) == some '!')
  let name := ((← get).rest.drop 1).takeWhile isNameChar
  if (← peekAt 1) == some ' ' then take 1
  else
    require ((← peekAt (name.length + 1)) == some '!')
    take (name.length + 2)

/-- A tag, from its exclamation mark on. -/
def writtenTag : Reader WrittenTag := do
  let tag ← do
    match (← get).rest.drop 1 with
    | '<' :: _ =>
      skip 2
      let t ← tagChars
      require ((← peek) == some '>')
      skip 1
      pure ⟨none, t⟩
    | rest =>
      if endsWord rest.head? then
        skip 1
        pure ⟨none, ['!']⟩
      else if (rest.takeWhile fun c => !endsPart (some c)).contains '!' then
        let handle ← tagHandle
        pure ⟨some handle, ← tagChars⟩
      else
        skip 1
        pure ⟨some ['!'], ← tagChars⟩
  require (endsPart (← peek))
  return tag

/-- A number of a version. -/
def versionNumber : Reader Nat := do
  let digits ← takeWhile Char.isDigit
  match Text.toNat? 10 digits with
  | some n => return n
  | none => throw .malformed

/-- A directive, from its percent sign to the end of its line. -/
def directive : Reader Directive := do
  skip 1
  let name ← takeWhile isNameChar
  require (!name.isEmpty && endsPart (← peek))
  let d ← do
    if name == "YAML".toList then
      skipWhile (· == ' ')
      let major ← versionNumber
      require ((← peek) == some '.')
      skip 1
      let minor ← versionNumber
      require (endsPart (← peek))
      pure (.version major minor)
    else if name == "TAG".toList then
      skipWhile (· == ' ')
      let handle ← tagHandle
      require ((← peek) == some ' ')
      skipWhile (· == ' ')
      let meaning ← tagChars
      require (endsPart (← peek))
      pure (.handle handle meaning)
    else
      skipWhile (!isBreak ·)
      pure .other
  skipRestOfLine
  return d

/-! ## Types -/

/-- The type of a node, by the full name of its tag. -/
abbrev Tag := Text

/-- The tags of the types that are known everywhere begin so. -/
def standard (name : String) : Tag := ("tag:yaml.org,2002:" ++ name).toList

/-- The handles of a document, with what they stand for. -/
abbrev TagHandles := List (Text × Text)

/-- The handles that need no directive. -/
def defaultHandles : TagHandles := [(['!'], ['!']), (['!', '!'], standard "")]

/-- What the directives before a document say about handles, the defaults
behind. A version other than 1 is refused, and so is a second version or a
second meaning of one handle. -/
def handlesOf? : List Directive → Option TagHandles
  | ds =>
    let versions := ds.filterMap fun
      | .version major _ => some major
      | _ => none
    let handles := ds.filterMap fun
      | .handle name meaning => some (name, meaning)
      | _ => none
    if versions.length ≤ 1 ∧ versions.all (· == 1) ∧ (handles.map (·.1)).Nodup then
      some (handles ++ defaultHandles)
    else none

/-- The tag that is meant by a written one. -/
def WrittenTag.resolve? (handles : TagHandles) (t : WrittenTag) : Option Tag :=
  match t.handle with
  | none => some t.suffix
  | some h => (handles.lookup h).map (· ++ t.suffix)

end TextDomain.Yaml
