import RecordRules.Text.DecompositionTable
import RecordRules.Text.Case
import RecordRules.Text.Split

/-!
# Normal forms

Texts that look alike may differ in their characters: an accented letter is one character or a
letter with a mark. The canonical normal form composes what can be composed; the compatibility
decomposition also takes apart ligatures, full-width forms and the like. `compose (decompose s)` is
the canonical normal form of `s`.
-/

namespace RecordRules.Text

/-! ## Reading the table -/

/-- How a decomposition may be used. -/
inductive DecompositionKind
  | canonical
  | oneWay
  | compatible
  deriving DecidableEq, Repr, Inhabited

/-- The decomposition of the code points from `first` to `last`. -/
structure Decomposition where
  first : Nat
  last : Nat
  kind : DecompositionKind
  parts : List Nat
  deriving Inhabited

/-- The value of a lower-case hexadecimal digit. -/
def lowerHexValue? (c : Char) : Option Nat :=
  if c.isDigit then some (c.toNat - 0x30)
  else if 'a' ≤ c && c ≤ 'f' then some (c.toNat - 0x57) else none

/-- The number that hexadecimal digits write. -/
def hexNumber (digits : List Char) : Nat :=
  digits.foldl (fun n c => 16 * n + (lowerHexValue? c).getD 0) 0

/-- Reads an entry of the table. -/
def readDecomposition (entry : List Char) : Decomposition :=
  let isSign (c : Char) := c == ':' || c == '!' || c == '='
  let range := entry.takeWhile (!isSign ·)
  let rest := entry.dropWhile (!isSign ·)
  let first := range.takeWhile (· ≠ '-')
  let last := (range.dropWhile (· ≠ '-')).drop 1
  let kind := match rest.head? with
    | some ':' => .canonical
    | some '!' => .oneWay
    | _ => .compatible
  ⟨hexNumber first, hexNumber (if last.isEmpty then first else last), kind,
    (splitAll '+' (rest.drop 1)).map hexNumber⟩

/-- All decompositions, in the order of code points. -/
def decompositions : Array Decomposition :=
  (decompositionLines.flatMap fun line => (splitAll ' ' line.toList).map readDecomposition).toArray

/-- Looks up the decomposition of a code point between two places of the table; `fuel` bounds the
number of halvings. -/
def findDecomposition (c : Nat) : (fuel low high : Nat) → Option Decomposition
  | 0, _, _ => none
  | fuel + 1, low, high =>
    if high ≤ low then none
    else
      let middle := (low + high) / 2
      match decompositions[middle]? with
      | none => none
      | some d =>
        if c < d.first then findDecomposition c fuel low middle
        else if d.last < c then findDecomposition c fuel (middle + 1) high
        else some d

/-- The decomposition of a code point. -/
def decomposition? (c : Nat) : Option Decomposition :=
  if c < 0xa0 then none else findDecomposition c 20 0 decompositions.size

/-! ## Hangul syllables -/

/-- The first syllable. -/
def hangulBase : Nat := 0xac00

/-- A code point is a syllable. -/
def isHangul (c : Nat) : Bool := hangulBase ≤ c && c < hangulBase + 11172

/-- The consonants and the vowel of a syllable. -/
def hangulParts (c : Nat) : List Nat :=
  let s := c - hangulBase
  [0x1100 + s / 588, 0x1161 + s % 588 / 28] ++ (if s % 28 = 0 then [] else [0x11a7 + s % 28])

/-- The syllable of a consonant and a vowel, or of a syllable without a final consonant and one. -/
def composeHangul? (a b : Nat) : Option Nat :=
  if 0x1100 ≤ a && a < 0x1113 && 0x1161 ≤ b && b < 0x1176 then
    some (hangulBase + ((a - 0x1100) * 21 + (b - 0x1161)) * 28)
  else if isHangul a && (a - hangulBase) % 28 == 0 && 0x11a8 ≤ b && b < 0x11c3 then
    some (a + (b - 0x11a7))
  else none

/-! ## Normal forms -/

/-- Takes a code point apart as far as possible; `fuel` bounds the depth. -/
def expand (compatible : Bool) : (fuel c : Nat) → List Nat
  | 0, c => [c]
  | fuel + 1, c =>
    if isHangul c then hangulParts c
    else
      match decomposition? c with
      | none => [c]
      | some d =>
        if d.kind = .compatible ∧ compatible = false then [c]
        else
          match d.parts with
          | [part] => expand compatible fuel (part + (c - d.first))
          | parts => parts.flatMap (expand compatible fuel)

/-- The combining class of a code point; it is zero for characters that start a new group. -/
def combiningClass (c : Nat) : Nat :=
  if c < 0x300 then 0
  else ((combiningClasses.find? fun (first, last, _) => first ≤ c && c ≤ last).map (·.2.2)).getD 0

/-- Puts a mark among marks that are in order, after those of the same class. -/
def insertMark (m : Nat × Nat) : List (Nat × Nat) → List (Nat × Nat)
  | [] => [m]
  | x :: rest => if x.2 ≤ m.2 then x :: insertMark m rest else m :: x :: rest

/-- Puts the marks of each group into the order of their classes; `marks` are the marks of the
group in progress. -/
def orderMarks (marks : List (Nat × Nat)) : List Nat → List (Nat × Nat)
  | [] => marks
  | c :: rest =>
    match combiningClass c with
    | 0 => marks ++ (c, 0) :: orderMarks [] rest
    | k => orderMarks (insertMark (c, k) marks) rest

/-- The decomposed form of a text, each code point with its class. -/
def decompose (compatible : Bool) (s : List Nat) : List (Nat × Nat) :=
  orderMarks [] (s.flatMap (expand compatible 8))

/-- The one code point that composes two. -/
def composePair? (a b : Nat) : Option Nat :=
  (composeHangul? a b).or <|
    (decompositions.find? fun d => d.kind = .canonical && d.parts == [a, b]).map (·.first)

/-- Composes a decomposed text. `starter` is the last group's first code point as composed so far,
`marks` what stayed apart from it, last first, with the class of the last one. -/
def composeFrom (starter : Option Nat) (marks : List (Nat × Nat)) : List (Nat × Nat) → List Nat
  | [] => starter.toList ++ marks.reverse.map (·.1)
  | (c, k) :: rest =>
    let blocked := marks.head?.any fun (_, last) => k ≤ last
    match starter.bind fun a => if blocked then none else composePair? a c with
    | some composed => composeFrom (some composed) marks rest
    | none =>
      if k = 0 then starter.toList ++ marks.reverse.map (·.1) ++ composeFrom (some c) [] rest
      else composeFrom starter ((c, k) :: marks) rest

/-- True of code points that every normal form leaves alone wherever they stand. -/
def isPlain (c : Char) : Bool := c.toNat < 0xa0

/-- The canonical normal form. -/
def canonical (s : List Char) : List Char :=
  if s.all isPlain then s
  else (composeFrom none [] (decompose false (s.map Char.toNat))).map Char.ofNat

end RecordRules.Text
