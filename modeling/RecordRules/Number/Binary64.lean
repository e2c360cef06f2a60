import RecordRules.Number.Decimal

/-!
# Double precision numbers

A double precision number is kept as the number it denotes: a sign, a mantissa below `2^53` and a
power of two not below `-1074`. `Binary64.ofRatio` rounds a fraction to the nearest such number, a
tie going to the even mantissa; `Binary64.shortest` finds the fewest decimal digits that read back
as the same number, and `FloatStyle.text` writes them.
-/

namespace RecordRules

/-- A double precision number. Of a finite one the value is `mantissa · 2^exponent`, and the
mantissa has its full 53 bits unless the exponent is the least one. -/
inductive Binary64
  | finite (negative : Bool) (mantissa : Nat) (exponent : Int)
  | infinite (negative : Bool)
  | nan
  deriving DecidableEq, Inhabited

namespace Binary64

/-- The least power of two. -/
def minExponent : Int := -1074

/-- The greatest power of two of a full mantissa. -/
def maxExponent : Int := 971

/-- The quotient rounded to the nearest integer, a tie going to the even one. -/
def roundDiv (num den : Nat) : Nat :=
  let q := num / den
  let r := num % den
  if 2 * r < den then q
  else if den < 2 * r then q + 1
  else if q % 2 = 0 then q else q + 1

/-- `num / den / 2^e` as a pair of a numerator and a denominator. -/
def scaled (num den : Nat) (e : Int) : Nat × Nat :=
  if e < 0 then (num * twoTo (-e).toNat, den) else (num, den * twoTo e.toNat)

/-- The power of two that gives `num / den` a mantissa of 53 bits, or the least power if that is
greater. -/
def exponentOf (num den : Nat) : Int :=
  let guess : Int := (Nat.log2 num : Int) - Nat.log2 den - 52
  let (n, d) := scaled num den guess
  let e := if n / d < twoTo 52 then guess - 1 else if n / d < twoTo 53 then guess else guess + 1
  max e minExponent

/-- The number nearest to `num / den`, with the given sign. -/
def ofRatio (negative : Bool) (num den : Nat) : Binary64 :=
  if num = 0 then finite negative 0 minExponent
  else
    let e := exponentOf num den
    let (n, d) := scaled num den e
    let m := roundDiv n d
    let (m, e) := if m = twoTo 53 then (twoTo 52, e + 1) else (m, e)
    if maxExponent < e then infinite negative else finite negative m e

/-- The number nearest to `coefficient · 10^exponent`. Powers of ten far outside the range are not
expanded. -/
def ofScientific (negative : Bool) (coefficient : Nat) (exponent : Int) : Binary64 :=
  let lead := Decimal.leadingExponent coefficient exponent
  if coefficient = 0 ∨ lead < -400 then finite negative 0 minExponent
  else if 400 < lead then infinite negative
  else if exponent < 0 then ofRatio negative coefficient (tenTo (-exponent).toNat)
  else ofRatio negative (coefficient * tenTo exponent.toNat) 1

/-- The number nearest to a numeral. -/
def ofNumeral (n : Numeral) : Binary64 := ofScientific n.negative n.coefficient n.scale

/-- The number nearest to an integer. -/
def ofInt (n : Int) : Binary64 := ofRatio (n < 0) n.natAbs 1

/-- Reads a number: numeric text, or a name of an infinity or of "not a number". -/
def read? (s : List Char) : Option Binary64 :=
  let (negative, body) := Number.splitSign (Text.trim s)
  let word := body.map Char.toLower
  if word == "inf".toList || word == "infinity".toList then some (infinite negative)
  else if word == "nan".toList then some nan
  else (Numeral.readUnsigned? negative body).map ofNumeral

/-- The integer a number is equal to, if it is one. -/
def toInt? : Binary64 → Option Int
  | finite negative m e =>
    if e < 0 then
      if m % twoTo (-e).toNat = 0 then some (Number.signed negative (m / twoTo (-e).toNat)) else none
    else some (Number.signed negative (m * twoTo e.toNat))
  | _ => none

/-- Two numbers are equal: "not a number" differs from everything, and the zeros are equal. -/
def sameNumber : Binary64 → Binary64 → Bool
  | finite s m e, finite t n f => (m = 0 && n = 0) || (s = t && m = n && e = f)
  | infinite s, infinite t => s = t
  | _, _ => false

/-- A double precision number and a decimal denote the same number. -/
def equalsDecimal : Binary64 → Decimal → Bool
  | infinite s, .infinite t => s = t
  | finite s m e, .finite t c k =>
    if m = 0 ∨ c = 0 then m = 0 && c = 0
    else
      let lead := Decimal.leadingExponent c k
      s = t && -400 ≤ lead && lead ≤ 400 &&
        m * twoTo e.toNat * tenTo (-k).toNat = c * tenTo k.toNat * twoTo (-e).toNat
  | _, _ => false

/-! ## The fewest digits that read back -/

/-- The floor of the decimal logarithm of a positive fraction. -/
def log10 (num den : Nat) : Int :=
  let guess : Int := (Number.digitCount num : Int) - Number.digitCount den
  let (n, d) := if guess < 0 then (num * tenTo (-guess).toNat, den) else (num, den * tenTo guess.toNat)
  if n < d then guess - 1 else guess

/-- The fractions that round to a positive number `m · 2^e` lie between `lower / 4` and `upper / 4`
times that power of two. The ends belong to them when the mantissa is even; below a power of two
the gap is half as wide. -/
def lowerQuarter (m : Nat) (e : Int) : Nat :=
  if m = twoTo 52 ∧ minExponent < e then 4 * m - 1 else 4 * m - 2

/-- A candidate `d · 10^p` reads back as `m · 2^e`. -/
def readsBack (m : Nat) (e : Int) (d : Nat) (p : Int) : Bool :=
  -- Both sides are brought to integers: the candidate times four on one scale with the quarters.
  let left := 4 * d * tenTo p.toNat * twoTo (-e).toNat
  let unit := tenTo (-p).toNat * twoTo e.toNat
  let lower := lowerQuarter m e * unit
  let upper := (4 * m + 2) * unit
  if m % 2 = 0 then lower ≤ left && left ≤ upper else lower < left && left < upper

/-- The decimal grid points `d · 10^p` on both sides of `m · 2^e`, nearest first; a tie goes to the
even one. -/
def gridNeighbours (m : Nat) (e p : Int) : List Nat :=
  let num := m * twoTo e.toNat * tenTo (-p).toNat
  let den := twoTo (-e).toNat * tenTo p.toNat
  let d := num / den
  if roundDiv num den = d then [d, d + 1] else [d + 1, d]

/-- Removes trailing zeros, at most `fuel` of them, counting them into the exponent. -/
def dropZeros : Nat → Nat → Int → Nat × Int
  | 0, d, p => (d, p)
  | fuel + 1, d, p => if d % 10 = 0 then dropZeros fuel (d / 10) (p + 1) else (d, p)

/-- The digits and the exponent of the shortest decimal that reads back as the positive number
`m · 2^e`, and of the shortest ones the nearest. -/
def shortest (m : Nat) (e : Int) : Nat × Int :=
  let lead := log10 (m * twoTo e.toNat) (twoTo (-e).toNat)
  let attempt (n : Nat) : Option (Nat × Int) :=
    let p : Int := lead - n
    ((gridNeighbours m e p).find? (readsBack m e · p)).map (·, p)
  let (d, p) := ((List.range 17).findSome? attempt).getD (m, e)
  dropZeros 17 d p

end Binary64

/-! ## Written forms -/

/-- How double precision numbers are written: positionally when the exponent of the leading digit
lies between `least` and `greatest`, else with a signed exponent of at least `exponentWidth`
digits. -/
structure FloatStyle where
  least : Int
  greatest : Int
  exponentWidth : Nat

namespace FloatStyle

/-- The style of values in messages and tables: `1e-05`, `0.0001`, `1000000000000000.0`, `1e+16`. -/
def plain : FloatStyle := ⟨-4, 15, 2⟩

/-- The style of reports in JSON: `1e-6`, `0.00001`, `1e+16`. -/
def json : FloatStyle := ⟨-5, 15, 1⟩

/-- Positional digits: `ds` with the point after `place` of them. A whole number keeps one zero
after the point. -/
def positional (ds : List Char) (place : Int) : List Char :=
  if place ≤ 0 then "0.".toList ++ List.replicate (-place).toNat '0' ++ ds
  else if ds.length ≤ place.toNat then
    ds ++ List.replicate (place.toNat - ds.length) '0' ++ ".0".toList
  else ds.take place.toNat ++ '.' :: ds.drop place.toNat

/-- Digits with an exponent: one digit, the others after a point. -/
def scientific (style : FloatStyle) (ds : List Char) (lead : Int) : List Char :=
  let power := lead.natAbs.repr.toList
  let point := match ds with
    | d :: e :: rest => d :: '.' :: e :: rest
    | short => short
  point ++ 'e' :: (if lead < 0 then '-' else '+') ::
    (List.replicate (style.exponentWidth - power.length) '0' ++ power)

/-- The digits of a positive decimal `d · 10^p`. -/
def digits (style : FloatStyle) (d : Nat) (p : Int) : List Char :=
  let ds := d.repr.toList
  let lead : Int := p + ds.length - 1
  if style.least ≤ lead ∧ lead ≤ style.greatest then positional ds (lead + 1)
  else scientific style ds lead

/-- The text of a double precision number. -/
def text (style : FloatStyle) : Binary64 → String
  | .nan => "nan"
  | .infinite negative => if negative then "-inf" else "inf"
  | .finite negative m e =>
    let body := if m = 0 then "0.0".toList
      else
        let (d, p) := Binary64.shortest m e
        digits style d p
    String.ofList (if negative then '-' :: body else body)

end FloatStyle

/-- The text of a double precision number in messages and tables. -/
def Binary64.text (x : Binary64) : String := FloatStyle.plain.text x

/-- A number as a whole percentage: the product with one hundred is rounded once to double
precision and once, a tie going to the even number, to an integer. -/
def Binary64.percent : Binary64 → String
  | .finite negative m e =>
    let rounded : Nat :=
      match ofRatio negative (m * 100 * twoTo e.toNat) (twoTo (-e).toNat) with
      | .finite _ n f => roundDiv (n * twoTo f.toNat) (twoTo (-f).toNat)
      | _ => 0
    (if negative then "-" else "") ++ rounded.repr ++ "%"
  | x => x.text ++ "%"

end RecordRules
