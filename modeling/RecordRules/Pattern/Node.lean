import RecordRules.Text.Blank
import RecordRules.Text.Letter
import RecordRules.Text.Case

/-!
# Patterns as trees

A pattern read from its text: `Node` is the tree, with the modes that were in force resolved into
its leaves, `Node.width` the least and greatest number of characters that a node matches, and
`Leaf.accepts` the characters that a node of one character matches.
-/

namespace RecordRules.Pattern

/-- How letters are compared: as they are, ignoring the case of ASCII letters, or ignoring case. -/
inductive Casing
  | exact
  | ascii
  | unicode
  deriving DecidableEq, Repr, Inhabited

/-- Classes of characters with a name of their own. -/
inductive Category
  | digit
  | space
  | word
  deriving DecidableEq, Repr

/-- A member of a character set. -/
inductive Member
  | single (code : Nat)
  | range (first last : Nat)
  | category (category : Category) (negated asciiOnly : Bool)
  deriving DecidableEq, Repr

/-- A pattern that matches exactly one character. -/
inductive Leaf
  | char (casing : Casing) (negated : Bool) (code : Nat)
  | any (acrossLines : Bool)
  | set (casing : Casing) (negated : Bool) (members : List Member)
  deriving DecidableEq, Repr

/-- Conditions on a place in the text. -/
inductive Anchor
  | textStart
  | lineStart
  | textEnd
  | lastLineEnd
  | lineEnd
  | boundary (negated asciiOnly : Bool)
  deriving DecidableEq, Repr

/-- The ways to repeat: as often as possible first, as seldom as possible first, and as often as
possible without giving back. -/
inductive Appetite
  | greedy
  | lazy
  | possessive
  deriving DecidableEq, Repr

/-- A pattern. -/
inductive Node
  | empty
  | leaf (u : Leaf)
  | anchor (a : Anchor)
  | seq (first second : Node)
  | alt (first second : Node)
  | capture (group : Nat) (body : Node)
  | repeated (appetite : Appetite) (least : Nat) (most : Option Nat) (body : Node)
  | atomic (body : Node)
  | ahead (negated : Bool) (body : Node)
  | behind (negated : Bool) (distance : Nat) (body : Node)
  | backref (casing : Casing) (group : Nat) (width : Nat × Nat)
  | conditional (group : Nat) (present absent : Node)
  deriving Repr, Inhabited

/-! ## Characters -/

/-- The characters of a category. -/
def Category.has (asciiOnly : Bool) (c : Char) : Category → Bool
  | digit => if asciiOnly then c.isDigit else Text.isDecimalDigit c
  | space => if asciiOnly then Text.isAsciiBlank c else Text.isBlank c
  | word => if asciiOnly then Text.isAsciiWordChar c else Text.isWordChar c

/-- Two code points agree under a casing. -/
def Casing.agrees (c d : Nat) : Casing → Bool
  | exact => c == d
  | ascii => Text.lowerAscii c == Text.lowerAscii d
  | unicode => Text.sameLetter c d

/-- The code points that are brought to the lower-case form `c`, siblings included. -/
def foldSources (c : Nat) : List Nat :=
  Text.lowerSources c ++ (Text.siblings c).flatMap Text.lowerSources

/-- A code point lies between two others, both included. -/
def between (first last c : Nat) : Bool := first ≤ c && c ≤ last

/-- A member of a set accepts a character. Where case is ignored the character is brought to lower
case, and a member beyond the basic plane is compared with that as it stands. -/
def Member.accepts (casing : Casing) (c : Char) : Member → Bool
  | single code =>
    match casing with
    | .exact => code == c.toNat
    | .ascii =>
      if code ≤ 0xffff then Text.lowerAscii code == Text.lowerAscii c.toNat
      else code == c.toNat
    | .unicode =>
      if code ≤ 0xffff then Text.sameLetter code c.toNat
      else code == Text.lowerCode c.toNat
  | range first last =>
    match casing with
    | .exact => between first last c.toNat
    | .ascii =>
      let low := Text.lowerAscii c.toNat
      between first last low ||
        (0x61 ≤ low && low ≤ 0x7a && between first last (low - 32)) ||
        (0xffff < last && (Text.lowerSources low).any (between first last))
    | .unicode => (foldSources (Text.lowerCode c.toNat)).any (between first last)
  | category k negated asciiOnly => k.has asciiOnly c != negated

/-- A pattern of one character accepts a character. -/
def Leaf.accepts (c : Char) : Leaf → Bool
  | char casing negated code => casing.agrees code c.toNat != negated
  | any acrossLines => acrossLines || c != '\n'
  | set casing negated members => members.any (Member.accepts casing c) != negated

/-! ## Widths -/

/-- The bound at which widths stop growing. -/
def widthLimit : Nat := 0x10000000000000000

/-- A width with both ends bounded. -/
def capWidth (w : Nat × Nat) : Nat × Nat := (min w.1 widthLimit, min w.2 widthLimit)

/-- The least and the greatest number of characters a pattern matches. -/
def Node.width : Node → Nat × Nat
  | empty | anchor _ | ahead .. | behind .. => (0, 0)
  | leaf _ => (1, 1)
  | seq a b => capWidth (a.width.1 + b.width.1, a.width.2 + b.width.2)
  | alt a b => (min a.width.1 b.width.1, max a.width.2 b.width.2)
  | capture _ a | atomic a => a.width
  | repeated _ least most a =>
    let w := a.width
    let high := match most with
      | some n => w.2 * n
      | none => if w.2 = 0 then 0 else widthLimit
    capWidth (w.1 * least, high)
  | backref _ _ w => w
  | conditional _ a b => (min a.width.1 b.width.1, max a.width.2 b.width.2)

/-- The name of a kind of repetition. -/
def Appetite.operator : Appetite → String
  | greedy => "MAX_REPEAT"
  | lazy => "MIN_REPEAT"
  | possessive => "POSSESSIVE_REPEAT"

end RecordRules.Pattern
