import TextDomain.Decimal.Binary64
import TextDomain.Text.DecimalDigit
import TextDomain.Yaml.Cursor

/-!
# Numbers

Whole numbers are written in base 2, 8, 10 or 16, or as groups separated by
colons, each group weighing sixty times the next. Fractions are decimal, or
end in such groups. Underscores between digits mean nothing.

Whether an untagged text is a number at all is decided by its form alone; the
readers accept a little more, since a tag may name the type as well.
-/

namespace TextDomain.Yaml

/-! ## Forms -/

/-- Whether a character is a decimal digit or an underscore. -/
def isSpacedDigit (c : Char) : Bool := c.isDigit || c == '_'

/-- A text without one sign at its beginning. -/
def dropSign : Text → Text
  | '+' :: rest => rest
  | '-' :: rest => rest
  | t => t

/-- Whether a group has one digit, or two that are less than sixty. -/
def isGroup : Text → Bool
  | [d] => d.isDigit
  | [e, d] => decide ('0' ≤ e ∧ e ≤ '5') && d.isDigit
  | _ => false

/-- Whether a text consists of groups, each after a colon. -/
def areGroups : Text → Bool
  | ':' :: rest => (Text.cutAt ':' rest).all isGroup
  | _ => false

/-- Whether an untagged text is a whole number. -/
def isWholeNumber (t : Text) : Bool :=
  match dropSign t with
  | '0' :: 'b' :: rest => !rest.isEmpty && rest.all fun c => c == '0' || c == '1' || c == '_'
  | '0' :: 'x' :: rest => !rest.isEmpty && rest.all fun c => isHexDigit c || c == '_'
  | '0' :: rest => rest.all fun c => decide ('0' ≤ c ∧ c ≤ '7') || c == '_'
  | c :: rest =>
    c.isDigit &&
      (let groups := rest.dropWhile isSpacedDigit
       groups.isEmpty || areGroups groups)
  | [] => false

/-- Whether a text is nothing or a signed exponent. -/
def isExponent : Text → Bool
  | [] => true
  | e :: sign :: rest =>
    (e == 'e' || e == 'E') && (sign == '+' || sign == '-') && !rest.isEmpty && rest.all Char.isDigit
  | _ => false

/-- Whether a text is a point, digits, and perhaps an exponent. -/
def isFractionPart : Text → Bool
  | '.' :: rest => isExponent (rest.dropWhile isSpacedDigit)
  | _ => false

/-- Whether an untagged text is a fraction. There must be a point; before one
that no digit precedes there is no sign either. -/
def isFraction (t : Text) : Bool :=
  if t == ".nan".toList || t == ".NaN".toList || t == ".NAN".toList then true
  else if [".inf", ".Inf", ".INF"].any (·.toList == dropSign t) then true
  else match t with
    | '.' :: c :: _ => c.isDigit && isFractionPart t
    | _ =>
      match dropSign t with
      | [] => false
      | c :: rest =>
        let tail := rest.dropWhile isSpacedDigit
        c.isDigit &&
          (isFractionPart tail ||
            areGroups (tail.takeWhile (· != '.')) &&
              (match tail.dropWhile (· != '.') with
               | '.' :: digits => digits.all isSpacedDigit
               | _ => false))

/-! ## Readers -/

/-- The letter that may stand between a zero and the digits of a base. -/
def baseLetter? (base : Nat) : Option Char :=
  if base = 2 then some 'b' else if base = 8 then some 'o'
  else if base = 16 then some 'x' else none

/-- The digits of a numeral, without the mark of its base. -/
def dropBaseMark (base : Nat) : Text → Text
  | '0' :: c :: rest => if some c.toLower = baseLetter? base then rest else '0' :: c :: rest
  | t => t

/-- A whole number in a base; in base ten there may be 4300 digits. -/
def readWhole (base : Nat) (t : Text) : Except Fault Int :=
  let u := Text.plainNumeral t
  let digits := dropBaseMark base (dropSign u)
  match Text.toNat? base digits with
  | some n =>
    if base = 10 ∧ 4300 < digits.length then .error .impossible
    else .ok (if u.head? = some '-' then -(n : Int) else n)
  | none => .error .impossible

/-- The number that the groups of a text denote together. -/
def readGroups (t : Text) : Except Fault Int := do
  let groups ← (Text.cutAt ':' t).mapM (readWhole 10)
  .ok (groups.foldl (fun n g => n * 60 + g) 0)

/-- A whole number without its sign. -/
def readUnsigned (t : Text) : Except Fault Int :=
  match t with
  | [] => .error .emptyNumber
  | ['0'] => .ok 0
  | '0' :: 'b' :: rest => readWhole 2 rest
  | '0' :: 'x' :: rest => readWhole 16 rest
  | '0' :: _ => readWhole 8 t
  | _ => if t.contains ':' then readGroups t else readWhole 10 t

/-- The sign of a text and what follows it. -/
def splitSign : Text → Bool × Text
  | '-' :: rest => (true, rest)
  | '+' :: rest => (false, rest)
  | t => (false, t)

/-- The whole number that a text denotes. -/
def wholeNumber (t : Text) : Except Fault Int := do
  let (negative, digits) := splitSign (t.filter (· != '_'))
  let n ← readUnsigned digits
  .ok (if negative then -n else n)

/-- A decimal number with digits before or after its point, and perhaps an
exponent. -/
def readDecimal? (negative : Bool) (t : Text) : Option Binary64 :=
  let whole := t.takeWhile Char.isDigit
  let afterWhole := t.dropWhile Char.isDigit
  let (fraction, rest) := match afterWhole with
    | '.' :: more => (more.takeWhile Char.isDigit, more.dropWhile Char.isDigit)
    | _ => ([], afterWhole)
  let exponent? : Option Int := match rest with
    | [] => some 0
    | e :: more =>
      if e = 'e' then
        let (minus, digits) := splitSign more
        (Text.toNat? 10 digits).map fun n => if minus then -(n : Int) else n
      else none
  match Text.toNat? 10 (whole ++ fraction), exponent? with
  | some digits, some e => some (.ofDecimal negative digits (e - fraction.length))
  | _, _ => none

/-- A double from its usual written forms. -/
def readDouble (t : Text) : Except Fault Binary64 :=
  let (negative, u) := splitSign (Text.plainNumeral t)
  if u == "inf".toList || u == "infinity".toList then .ok (.infinite negative)
  else if u == "nan".toList then .ok .nan
  else match readDecimal? negative u with
    | some x => .ok x
    | none => .error .impossible

/-- The sum of groups, the last first, from a total and the weight of the next
group on. -/
def addGroups (total : Binary64) (weight : Nat) : List Binary64 → Except Fault Binary64
  | [] => .ok total
  | g :: rest =>
    match Binary64.ofNat weight with
    | .infinite _ => .error .tooManyGroups
    | w => addGroups (total.add (g.mul w)) (weight * 60) rest

/-- The fraction that a text denotes. -/
def fraction (t : Text) : Except Fault Binary64 := do
  let u := Text.lowerAscii (t.filter (· != '_'))
  if u.isEmpty then throw .emptyNumber
  let (negative, v) := splitSign u
  let x ←
    if v == ".inf".toList then pure (.infinite false)
    else if v == ".nan".toList then pure .nan
    else if v.contains ':' then do
      let groups ← (Text.cutAt ':' v).mapM readDouble
      addGroups (.zero false) 1 groups.reverse
    else readDouble v
  .ok (if negative then x.neg else x)

end TextDomain.Yaml
