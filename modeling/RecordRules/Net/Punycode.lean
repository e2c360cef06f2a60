/-!
# Punycode

Texts in ASCII letters, digits and hyphens that stand for texts in any characters: the ASCII
characters come first, then, after a hyphen, numbers that tell which other characters to insert
where. `encode` writes that form and `decode?` reads it; both work on code points.
-/

namespace RecordRules.Net.Punycode

/-- The least value of a digit at a place of a number that ends it, given the current bias. -/
def threshold (bias place : Nat) : Nat := max 1 (min 26 (36 * (place + 1) - bias))

/-- Divides a large step down to a small one, counting the divisions; `fuel` bounds their
number. -/
def reduce : (fuel delta divisions : Nat) → Nat × Nat
  | 0, delta, divisions => (delta, divisions)
  | fuel + 1, delta, divisions =>
    if 455 < delta then reduce fuel (delta / 35) (divisions + 36) else (delta, divisions)

/-- The bias after a step, for a text that now has `size` characters. -/
def adapt (delta size : Nat) (first : Bool) : Nat :=
  let damped := if first then delta / 700 else delta / 2
  let start := damped + damped / size
  let (d, divisions) := reduce (start.log2 + 1) start 0
  divisions + 36 * d / (d + 38)

/-! ## Writing -/

/-- The letter or digit of a digit value. -/
def digitChar (d : Nat) : Char := if d < 26 then Char.ofNat (0x61 + d) else Char.ofNat (0x30 + d - 26)

/-- A number in digits, least first; `fuel` bounds their number. -/
def number (bias : Nat) : (fuel place n : Nat) → List Char
  | 0, _, _ => []
  | fuel + 1, place, n =>
    let t := threshold bias place
    if n < t then [digitChar n]
    else digitChar (t + (n - t) % (36 - t)) :: number bias fuel (place + 1) ((n - t) / (36 - t))

/-- The state of the writer: the step in progress, the bias, the number of characters that are
there and the digits written, in reverse order of numbers. -/
structure Writer where
  delta : Nat
  bias : Nat
  size : Nat
  digits : List (List Char)

/-- Goes through the text once for the code point `m`, of which every occurrence is written. -/
def Writer.pass (basic m : Nat) (w : Writer) (c : Nat) : Writer :=
  if c < m then { w with delta := w.delta + 1 }
  else if c = m then
    { delta := 0
      bias := adapt w.delta (w.size + 1) (w.size == basic)
      size := w.size + 1
      digits := number w.bias (w.delta.log2 + 2) 0 w.delta :: w.digits }
  else w

/-- Writes the code points that are not ASCII, in ascending order; `n` is the least that may
follow. -/
def Writer.codes (basic : Nat) (text : List Nat) : List Nat → Nat → Writer → Writer
  | [], _, w => w
  | m :: rest, n, w =>
    let start := { w with delta := w.delta + (m - n) * (w.size + 1) }
    let w := text.foldl (Writer.pass basic m) start
    codes basic text rest (m + 1) { w with delta := w.delta + 1 }

/-- The code points from 128 on, ascending, each once. -/
def extendedCodes (text : List Nat) : List Nat :=
  ((text.filter (128 ≤ ·)).mergeSort (· ≤ ·)).eraseDups

/-- The written form of a text. -/
def encode (text : List Nat) : List Char :=
  let basic := text.filter (· < 128)
  let w := Writer.codes basic.length text (extendedCodes text) 128 ⟨0, 72, basic.length, []⟩
  (if basic.isEmpty then [] else basic.map Char.ofNat ++ ['-']) ++ w.digits.reverse.flatten

/-! ## Reading -/

/-- The value of a letter or digit. -/
def digitValue? (c : Char) : Option Nat :=
  if c.isLower then some (c.toNat - 0x61)
  else if c.isUpper then some (c.toNat - 0x41)
  else if c.isDigit then some (c.toNat - 0x30 + 26)
  else none

/-- Reads a number and returns the digits after it. -/
def readNumber? (bias : Nat) : (place weight acc : Nat) → List Nat → Option (Nat × List Nat)
  | _, _, _, [] => none
  | place, weight, acc, d :: rest =>
    let t := threshold bias place
    let acc := acc + d * weight
    if d < t then some (acc, rest) else readNumber? bias (place + 1) (weight * (36 - t)) acc rest

/-- Inserts characters into a text as the digits tell; `code` and `place` are the code point and
the place reached so far, and `fuel` bounds the number of insertions. -/
def insertions? : (fuel code place bias : Nat) → (first : Bool) → List Nat → List Nat →
    Option (List Nat)
  | _, _, _, _, _, text, [] => some text
  | 0, _, _, _, _, _, _ => none
  | fuel + 1, code, place, bias, first, text, digits => do
    let (delta, rest) ← readNumber? bias 0 1 0 digits
    let size := text.length + 1
    let code := code + (place + delta) / size
    let place := (place + delta) % size
    if 0x10ffff < code then none
    else
      let text := text.take place ++ code :: text.drop place
      insertions? fuel code (place + 1) (adapt delta size first) false text rest

/-- The text that a written form stands for. -/
def decode? (s : List Char) : Option (List Nat) := do
  let tail := (s.reverse.takeWhile (· ≠ '-')).reverse
  let basic := (s.take (s.length - tail.length)).dropLast
  let digits ← tail.mapM digitValue?
  insertions? digits.length 128 0 72 true (basic.map Char.toNat) digits

end RecordRules.Net.Punycode
