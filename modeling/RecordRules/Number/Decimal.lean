import RecordRules.Number.Integer

/-!
# Decimal numbers

A decimal number keeps its digits: `1.50` and `1.5` are equal numbers with different texts. Finite
decimals are a sign, a coefficient and a power of ten; besides them there are infinities and the
two kinds of "not a number". `Numeral.read?` is the grammar of numeric text, `Decimal.ofNumeral?`
its value, `Decimal.text` the written form, and `Decimal.compare` the exact order of the numbers
denoted.
-/

namespace RecordRules

/-- A decimal number: `(-1)^negative · coefficient · 10^exponent`, an infinity or not a number. -/
inductive Decimal
  | finite (negative : Bool) (coefficient : Nat) (exponent : Int)
  | infinite (negative : Bool)
  | nan (negative signaling : Bool) (payload : List Nat)
  deriving DecidableEq, Inhabited

/-- Numeric text: a sign, digits before and after the point, and a power of ten. -/
structure Numeral where
  negative : Bool
  whole : List Nat
  fraction : List Nat
  exponent : Int
  deriving DecidableEq, Inhabited

namespace Numeral

/-- The value of an ASCII digit. -/
def digit? (c : Char) : Option Nat :=
  if c.isDigit then some (c.toNat - '0'.toNat) else none

/-- The longest run of ASCII digits at the start of a text, and the rest. -/
def digits : List Char → List Nat × List Char
  | [] => ([], [])
  | c :: rest =>
    match digit? c with
    | some d => (d :: (digits rest).1, (digits rest).2)
    | none => ([], c :: rest)

/-- The digits after a point, if there is one, and the rest. -/
def fractionPart : List Char → Option (List Nat) × List Char
  | '.' :: rest => (some (digits rest).1, (digits rest).2)
  | s => (none, s)

/-- The power of ten after an `e`; the text must end there. No `e` means no power. -/
def exponentPart : List Char → Option Int
  | [] => some 0
  | c :: rest =>
    if c == 'e' || c == 'E' then
      let (negative, body) := Number.splitSign rest
      match digits body with
      | (d :: ds, []) => some (Number.signed negative (Number.ofDigits (d :: ds)))
      | _ => none
    else none

/-- Reads unsigned numeric text without white space: digits with an optional point and further
digits, or a point followed by digits, then an optional power of ten. -/
def readUnsigned? (negative : Bool) (s : List Char) : Option Numeral :=
  let (whole, afterWhole) := digits s
  let (fraction, afterFraction) := fractionPart afterWhole
  if whole.isEmpty && (fraction.getD []).isEmpty then none
  else (exponentPart afterFraction).map fun e => ⟨negative, whole, fraction.getD [], e⟩

/-- Removes ASCII white space from both ends. -/
def trimAscii (s : List Char) : List Char :=
  ((s.dropWhile Text.isAsciiBlank).reverse.dropWhile Text.isAsciiBlank).reverse

/-- Reads numeric text: optional ASCII white space around an optional sign and an unsigned
number. -/
def read? (s : List Char) : Option Numeral :=
  let (negative, body) := Number.splitSign (trimAscii s)
  readUnsigned? negative body

/-- All digits of a numeral read as one number. -/
def coefficient (n : Numeral) : Nat := Number.ofDigits (n.whole ++ n.fraction)

/-- The power of ten of a numeral's last digit. -/
def scale (n : Numeral) : Int := n.exponent - n.fraction.length

end Numeral

namespace Decimal

/-- The greatest power of ten of a leading digit; its negative is the least one of a number in
full precision. -/
def maxExponent : Int := 999999999999999999

/-- The least power of ten of any digit. -/
def minScale : Int := -1999999999999999997

/-- The power of ten of the leading digit. -/
def leadingExponent (coefficient : Nat) (exponent : Int) : Int :=
  exponent + Number.digitCount coefficient - 1

/-- A coefficient and exponent are in range when the number can be held without rounding. -/
def inRange (coefficient : Nat) (exponent : Int) : Bool :=
  let lead := leadingExponent coefficient exponent
  lead ≤ maxExponent && (-maxExponent ≤ lead || minScale ≤ exponent)

/-- The decimal a numeral denotes, if it is in range. -/
def ofNumeral? (n : Numeral) : Option Decimal :=
  if inRange n.coefficient n.scale then some (finite n.negative n.coefficient n.scale) else none

/-- An integer as a decimal. -/
def ofInt (n : Int) : Decimal := finite (n < 0) n.natAbs 0

/-- True of the numbers that are neither infinite nor "not a number". -/
def isFinite : Decimal → Bool
  | finite .. => true
  | _ => false

/-- Reads a decimal in full: numeric text, or a name of an infinity or of "not a number", which may
carry digits. -/
def read? (s : List Char) : Option Decimal :=
  let (negative, body) := Number.splitSign (Text.trim s)
  let word := body.map Char.toLower
  if word == "inf".toList || word == "infinity".toList then some (infinite negative)
  else if "nan".toList.isPrefixOf word then
    match Numeral.digits (word.drop 3) with
    | (ds, []) => some (nan negative false ds)
    | _ => none
  else if "snan".toList.isPrefixOf word then
    match Numeral.digits (word.drop 4) with
    | (ds, []) => some (nan negative true ds)
    | _ => none
  else (Numeral.readUnsigned? negative body).bind ofNumeral?

/-- The digits of a coefficient with its decimal point: positional when the exponent is not
positive and at most six zeros follow the point, otherwise one digit, a point and a power of
ten. -/
def finiteText (coefficient : Nat) (exponent : Int) : String :=
  let ds := coefficient.repr.toList
  let left : Int := exponent + ds.length
  let place : Int := if exponent ≤ 0 ∧ left > -6 then left else 1
  let (whole, fraction) :=
    if place ≤ 0 then ("0".toList, '.' :: List.replicate (-place).toNat '0' ++ ds)
    else if ds.length ≤ place.toNat then
      (ds ++ List.replicate (place.toNat - ds.length) '0', [])
    else (ds.take place.toNat, '.' :: ds.drop place.toNat)
  let power :=
    if left = place then ""
    else "E" ++ (if left - place < 0 then "-" else "+") ++ (left - place).natAbs.repr
  String.ofList (whole ++ fraction) ++ power

/-- The written form of a decimal. -/
def text : Decimal → String
  | finite negative coefficient exponent =>
    (if negative then "-" else "") ++ finiteText coefficient exponent
  | infinite negative => if negative then "-Infinity" else "Infinity"
  | nan negative signaling payload =>
    (if negative then "-" else "") ++ (if signaling then "sNaN" else "NaN") ++
      String.join (payload.map Nat.repr)

/-- The order of two positive numbers `c · 10^e` and `d · 10^f`: by the exponent of the leading
digit, and where those agree by the digits brought to one scale. -/
def compareMagnitude (c : Nat) (e : Int) (d : Nat) (f : Int) : Ordering :=
  match compare (leadingExponent c e) (leadingExponent d f) with
  | .eq =>
    if e ≤ f then compare c (d * tenTo (f - e).toNat) else compare (c * tenTo (e - f).toNat) d
  | order => order

/-- The order of two finite decimals as numbers; `none` when one of them is not finite. -/
def compareFinite? : Decimal → Decimal → Option Ordering
  | finite s c e, finite t d f =>
    some <|
      if c = 0 ∧ d = 0 then .eq
      else if c = 0 then (if t then .gt else .lt)
      else if d = 0 then (if s then .lt else .gt)
      else
        match s, t with
        | false, false => compareMagnitude c e d f
        | true, true => compareMagnitude d f c e
        | false, true => .gt
        | true, false => .lt
  | _, _ => none

/-- The first number is at most the second. -/
def le (a b : Decimal) : Bool := (compareFinite? a b).any (·.isLE)

/-- Two decimals are the same number. -/
def sameNumber : Decimal → Decimal → Bool
  | infinite s, infinite t => s == t
  | a, b => compareFinite? a b == some .eq

end Decimal

end RecordRules
