import TextDomain.Text.Identifier

/-!
# Numerals in source

`splitNumeral?` finds the numeral at the beginning of a text. A numeral is a
whole number in one of four bases, a decimal fraction, or either of the last
with a power of ten; a decimal one may end with `j`. Single underscores may
stand between digits. A whole decimal number other than zero does not begin
with zero.

A numeral must not run into a name, except that a keyword that may follow an
operand can do so: `1if x else 2` has three numerals' worth of tokens in it.
-/

namespace TextDomain.Numeral

/-- Digits with single underscores between them, and what follows; an
underscore without a digit after it is an error. -/
def digitTail? (isDigit : Char → Bool) : Text → Option (Text × Text)
  | [] => some ([], [])
  | '_' :: c :: rest =>
    if isDigit c then (digitTail? isDigit rest).map fun (d, r) => ('_' :: c :: d, r) else none
  | c :: rest =>
    if isDigit c then (digitTail? isDigit rest).map fun (d, r) => (c :: d, r)
    else if c = '_' then none
    else some ([], c :: rest)

/-- Whether a character can belong to a name: beyond ASCII all can, until the
name is looked at as a whole. -/
def isNameChar (c : Char) : Bool :=
  decide (0x80 ≤ c.toNat) || Text.isAsciiIdentifierStart c || c.isDigit

/-- Whether a numeral may end before the text. -/
def mayEndBefore : Text → Bool
  | [] => true
  | 'i' :: c :: _ => c == 'f' || c == 'n' || c == 's'
  | c :: rest =>
    [['a', 'n', 'd'], ['e', 'l', 's', 'e'], ['f', 'o', 'r'], ['o', 'r'], ['n', 'o', 't']].any
      (Text.startsWith · (c :: rest)) || !isNameChar c

/-- Ends a numeral, if it may end here. -/
def finish? (digits rest : Text) : Option (Text × Text) :=
  if mayEndBefore rest then some (digits, rest) else none

/-- The optional `j` of a decimal numeral. -/
def imaginary? (digits rest : Text) : Option (Text × Text) :=
  match rest with
  | c :: after => if c = 'j' ∨ c = 'J' then finish? (digits ++ [c]) after else finish? digits rest
  | [] => finish? digits rest

/-- The optional power of ten of a decimal numeral, and what may follow it. -/
def exponent? (digits rest : Text) : Option (Text × Text) :=
  match rest with
  | e :: after =>
    if e = 'e' ∨ e = 'E' then
      match after with
      | c :: more =>
        if c = '+' ∨ c = '-' then
          match more with
          | d :: _ =>
            if d.isDigit then
              (digitTail? Char.isDigit more).bind fun (ds, r) =>
                imaginary? (digits ++ e :: c :: ds) r
            else none
          | [] => none
        else if c.isDigit then
          (digitTail? Char.isDigit after).bind fun (ds, r) => imaginary? (digits ++ e :: ds) r
        else finish? digits rest
      | [] => finish? digits rest
    else imaginary? digits rest
  | [] => finish? digits rest

/-- The digits after the point of a decimal numeral, and what may follow. -/
def fraction? (digits rest : Text) : Option (Text × Text) :=
  match rest with
  | c :: _ =>
    if c.isDigit then
      (digitTail? Char.isDigit rest).bind fun (ds, r) => exponent? (digits ++ ds) r
    else exponent? digits rest
  | [] => exponent? digits rest

/-- Whether the digits of a whole decimal number are acceptable: no zero in
front of other digits, and at most 4300 of them. -/
def isWhole (digits : Text) : Bool :=
  let plain := digits.filter (· != '_')
  (plain.head? != some '0' || plain.all (· == '0')) && decide (plain.length ≤ 4300)

/-- A decimal numeral that begins with a digit. -/
def decimal? (t : Text) : Option (Text × Text) :=
  (digitTail? Char.isDigit t).bind fun (ds, rest) =>
    match rest with
    | '.' :: after => fraction? (ds ++ ['.']) after
    | c :: _ =>
      if c = 'j' ∨ c = 'J' then imaginary? ds rest
      else (exponent? ds rest).bind fun (digits, r) =>
        if digits.length = ds.length && !isWhole ds then none else some (digits, r)
    | [] => if isWhole ds then finish? ds rest else none

/-- A whole number in another base, after its two letters: an underscore may
come first, then a digit must. -/
def based? (letters : Text) (isDigit : Char → Bool) (t : Text) : Option (Text × Text) :=
  let (under, t) := match t with
    | '_' :: rest => (['_'], rest)
    | _ => ([], t)
  match t with
  | c :: _ =>
    if isDigit c then
      (digitTail? isDigit t).bind fun (ds, r) => finish? (letters ++ under ++ ds) r
    else none
  | [] => none

/-- Whether a character is a hexadecimal digit. -/
def isHexDigit (c : Char) : Bool := (Text.hexValue? c).isSome

/-- Whether a character is an octal digit. -/
def isOctalDigit (c : Char) : Bool := decide ('0' ≤ c ∧ c ≤ '7')

/-- Whether a character is a binary digit. -/
def isBinaryDigit (c : Char) : Bool := c == '0' || c == '1'

/-- The numeral at the beginning of a text that begins with a digit or with a
point and a digit, and the text after it. -/
def splitNumeral? : Text → Option (Text × Text)
  | '.' :: rest => fraction? ['.'] rest
  | '0' :: c :: rest =>
    if c = 'x' ∨ c = 'X' then based? ['0', c] isHexDigit rest
    else if c = 'o' ∨ c = 'O' then based? ['0', c] isOctalDigit rest
    else if c = 'b' ∨ c = 'B' then based? ['0', c] isBinaryDigit rest
    else decimal? ('0' :: c :: rest)
  | t => decimal? t

/-- Whether a numeral denotes an imaginary number. -/
def isImaginary (numeral : Text) : Bool :=
  match numeral.getLast? with
  | some c => c == 'j' || c == 'J'
  | none => false

end TextDomain.Numeral
