import RecordRules.Value.Equality
import RecordRules.Check.Basic

/-!
# Reading JSON

`Json.read` turns a JSON text into a value. Objects become dictionaries in which a repeated key
keeps its first place and takes its last value; integers and numbers with a fraction or an exponent
are told apart; `NaN`, `Infinity` and `-Infinity` are read as numbers. The reader keeps the open
containers on a stack, whose depth is limited, and reports the first fault with its place.
-/

namespace RecordRules.Json

/-- What is wrong with a JSON text. -/
inductive Complaint
  | byteOrderMark
  | expectingValue
  | expectingName
  | expectingColon
  | expectingComma
  | extraData
  | unterminatedString
  | controlCharacter
  | badEscape
  | badUnicodeEscape
  deriving DecidableEq, Repr

/-- The wording of a complaint, without its place. -/
def Complaint.text : Complaint → String
  | byteOrderMark => "Unexpected UTF-8 BOM (decode using utf-8-sig)"
  | expectingValue => "Expecting value"
  | expectingName => "Expecting property name enclosed in double quotes"
  | expectingColon => "Expecting ':' delimiter"
  | expectingComma => "Expecting ',' delimiter"
  | extraData => "Extra data"
  | unterminatedString => "Unterminated string starting at"
  | controlCharacter => "Invalid control character at"
  | badEscape => "Invalid \\escape"
  | badUnicodeEscape => "Invalid \\uXXXX escape"

/-- Why a JSON text cannot be read: it is malformed at a place, or a limit is passed. -/
inductive Fault
  | malformed (complaint : Complaint) (place : Nat)
  | limit (cause : Cause)
  deriving DecidableEq

/-- The wording of a complaint about a place in a text, with line and column. -/
def complaintMessage (text : List Char) (complaint : Complaint) (place : Nat) : String :=
  let (line, column) := Pattern.lineAndColumn text place
  s!"{complaint.text}: line {line} column {column} (char {place})"

/-- The wording of a fault of a JSON text. -/
def Fault.message (text : List Char) : Fault → String
  | malformed complaint place => complaintMessage text complaint place
  | limit cause => cause.message

/-- The depth of containers for which a program that does little else has room. -/
def usualDepth : Nat := 986

/-- A place in the text: the rest and the number of characters before it. -/
structure Source where
  rest : List Char
  place : Nat

namespace Source

/-- The source after a number of characters. -/
def skip (s : Source) (n : Nat) : Source := ⟨s.rest.drop n, s.place + n⟩

/-- True of the white space of JSON. -/
def isSpace (c : Char) : Bool := c == ' ' || c == '\t' || c == '\n' || c == '\r'

/-- The source after white space. -/
def skipSpace (s : Source) : Source :=
  let spaces := s.rest.takeWhile isSpace
  s.skip spaces.length

/-- A complaint about the place. -/
def fail {α : Type} (s : Source) (complaint : Complaint) : Except Fault α :=
  .error (.malformed complaint s.place)

end Source

/-! ## Strings -/

/-- The character of a one-letter escape. -/
def escapeChar? : Char → Option Char
  | '"' => some '"'
  | '\\' => some '\\'
  | '/' => some '/'
  | 'b' => some '\x08'
  | 'f' => some '\x0c'
  | 'n' => some '\n'
  | 'r' => some '\r'
  | 't' => some '\t'
  | _ => none

/-- The code of four hexadecimal digits. -/
def hexCode? (digits : List Char) : Option Nat :=
  if digits.length = 4 && digits.all fun d => (Pattern.hexValue? d).isSome then
    some (Pattern.valueIn 16 digits)
  else none

/-- The code point of a pair of surrogates, or the first code by itself, with the number of
characters read after the first escape. The pair counts only where text follows it. -/
def joinSurrogates (code : Nat) (rest : List Char) : Option (Nat × Nat) :=
  if 0xd800 ≤ code ∧ code ≤ 0xdbff ∧ 6 < rest.length ∧ rest.take 2 = ['\\', 'u'] then
    match hexCode? ((rest.drop 2).take 4) with
    | none => none
    | some low =>
      if 0xdc00 ≤ low ∧ low ≤ 0xdfff then
        some (0x10000 + (code - 0xd800) * 0x400 + (low - 0xdc00), 6)
      else some (code, 0)
  else some (code, 0)

/-- A code point as a character. A lone surrogate has none and is replaced, so texts that differ in
nothing but lone surrogates are read as the same. -/
def charOf (code : Nat) : Char := if code.isValidChar then Char.ofNat code else '\ufffd'

/-- Reads a string whose opening quote, at place `start`, has been taken; `fuel` bounds the number
of characters. -/
def readString (start : Nat) : (fuel : Nat) → List Char → Source →
    Except Fault (List Char × Source)
  | 0, _, _ => .error (.malformed .unterminatedString start)
  | fuel + 1, read, s =>
    match s.rest with
    | [] => .error (.malformed .unterminatedString start)
    | '"' :: _ => .ok (read.reverse, s.skip 1)
    | '\\' :: 'u' :: after =>
      match if 4 < after.length then hexCode? (after.take 4) else none with
      | none => (s.skip 1).fail .badUnicodeEscape
      | some code =>
        match joinSurrogates code (after.drop 4) with
        | none => (s.skip 7).fail .badUnicodeEscape
        | some (code, extra) => readString start fuel (charOf code :: read) (s.skip (6 + extra))
    | '\\' :: c :: _ =>
      match escapeChar? c with
      | some char => readString start fuel (char :: read) (s.skip 2)
      | none => s.fail .badEscape
    | ['\\'] => .error (.malformed .unterminatedString start)
    | c :: _ =>
      if c.toNat ≤ 0x1f then s.fail .controlCharacter
      else readString start fuel (c :: read) (s.skip 1)

/-! ## Numbers and words -/

/-- The fraction of a number: a point and digits after it, or nothing. -/
def fraction (s : List Char) : List Char :=
  match s with
  | '.' :: rest =>
    match rest.takeWhile Char.isDigit with
    | [] => []
    | digits => '.' :: digits
  | _ => []

/-- The exponent of a number, or nothing. -/
def exponent (s : List Char) : List Char :=
  match s with
  | e :: rest =>
    if e = 'e' ∨ e = 'E' then
      let sign := rest.takeWhile fun c => c == '+' || c == '-'
      match (rest.drop (sign.take 1).length).takeWhile Char.isDigit with
      | [] => []
      | digits => e :: sign.take 1 ++ digits
    else []
  | [] => []

/-- The digits before the point: a zero, or digits that do not start with one. -/
def wholeDigits (s : List Char) : List Char :=
  match s with
  | '0' :: _ => ['0']
  | _ => s.takeWhile Char.isDigit

/-- The value of a number given by its parts. -/
def numberValue (negative : Bool) (whole fraction exponent : List Char) : Except Fault Value :=
  if fraction.isEmpty && exponent.isEmpty then
    if Number.digitLimit < whole.length then .error (.limit (.tooManyDigits whole.length))
    else .ok (.int (Number.signed negative (Number.ofDigits (Numeral.digits whole).1)))
  else
    let text := whole ++ fraction ++ exponent
    .ok (.float (((Numeral.readUnsigned? negative text).map .ofNumeral).getD .nan))

/-- Reads a number. -/
def readNumber (s : Source) : Except Fault (Value × Source) :=
  let (sign, body) := match s.rest with
    | '-' :: rest => (['-'], rest)
    | rest => ([], rest)
  let whole := wholeDigits body
  if whole.isEmpty then s.fail .expectingValue
  else do
    let afterWhole := body.drop whole.length
    let fraction := fraction afterWhole
    let exponent := exponent (afterWhole.drop fraction.length)
    let v ← numberValue (!sign.isEmpty) whole fraction exponent
    return (v, s.skip (sign.length + whole.length + fraction.length + exponent.length))

/-- The words that stand for values. -/
def words : List (List Char × Value) :=
  [("null".toList, .null), ("true".toList, .bool true), ("false".toList, .bool false),
   ("NaN".toList, .float .nan), ("Infinity".toList, .float (.infinite false)),
   ("-Infinity".toList, .float (.infinite true))]

/-- Reads a word or a number. -/
def readScalar (s : Source) : Except Fault (Value × Source) :=
  match words.find? fun (word, _) => word.isPrefixOf s.rest with
  | some (word, v) => .ok (v, s.skip word.length)
  | none => readNumber s

/-! ## Containers -/

/-- An open container: an array with its items, last first, or an object with its entries, last
first, and the key whose value is awaited. -/
inductive Frame
  | array (items : List Value)
  | object (entries : List (Value × Value)) (key : String)

/-- What the reader does next: read a value, or put one into the innermost container. -/
inductive Task
  | read
  | put (v : Value)

/-- Reads the name of an entry and the colon after it. -/
def readName (s : Source) : Except Fault (String × Source) := do
  match s.rest with
  | '"' :: _ =>
    let (name, after) ← readString s.place (s.rest.length + 1) [] (s.skip 1)
    let after := after.skipSpace
    match after.rest with
    | ':' :: _ => return (.ofList name, (after.skip 1).skipSpace)
    | _ => after.fail .expectingColon
  | _ => s.fail .expectingName

/-- Starts an array. -/
def openArray (stack : List Frame) (s : Source) : Task × List Frame × Source :=
  let s := s.skipSpace
  match s.rest with
  | ']' :: _ => (.put (.list []), stack, s.skip 1)
  | _ => (.read, .array [] :: stack, s)

/-- Starts an object. -/
def openObject (stack : List Frame) (s : Source) : Except Fault (Task × List Frame × Source) := do
  let s := s.skipSpace
  match s.rest with
  | '\x7d' :: _ => return (.put (.dict []), stack, s.skip 1)
  | _ =>
    let (key, s) ← readName s
    return (.read, .object [] key :: stack, s)

/-- Reads the start of a value. -/
def readValue (depthLimit : Nat) (stack : List Frame) (s : Source) :
    Except Fault (Task × List Frame × Source) := do
  match s.rest with
  | [] => s.fail .expectingValue
  | '"' :: _ =>
    let (text, after) ← readString s.place (s.rest.length + 1) [] (s.skip 1)
    return (.put (.text (.ofList text)), stack, after)
  | '[' :: _ =>
    if depthLimit ≤ stack.length then throw (.limit (.nestedTooDeeply .array))
    else return openArray stack (s.skip 1)
  | '\x7b' :: _ =>
    if depthLimit ≤ stack.length then throw (.limit (.nestedTooDeeply .object))
    else openObject stack (s.skip 1)
  | _ =>
    let (v, after) ← readScalar s
    return (.put v, stack, after)

/-- Puts a value into the innermost container and reads on to the next value or to the end of the
container. -/
def putValue (v : Value) (frame : Frame) (stack : List Frame) (s : Source) :
    Except Fault (Task × List Frame × Source) := do
  let s := s.skipSpace
  match frame, s.rest with
  | .array items, ']' :: _ => return (.put (.list (v :: items).reverse), stack, s.skip 1)
  | .array items, ',' :: _ => return (.read, .array (v :: items) :: stack, (s.skip 1).skipSpace)
  | .object entries key, '\x7d' :: _ =>
    return (.put (Value.dictOf ((.text key, v) :: entries).reverse), stack, s.skip 1)
  | .object entries key, ',' :: _ =>
    let (next, s) ← readName (s.skip 1).skipSpace
    return (.read, .object ((.text key, v) :: entries) next :: stack, s)
  | _, _ => s.fail .expectingComma

/-- Works through the tasks; `fuel` bounds their number. -/
def work (depthLimit : Nat) : (fuel : Nat) → Task → List Frame → Source → Except Fault (Value × Source)
  | 0, _, _, s => s.fail .expectingValue
  | fuel + 1, .read, stack, s => do
    let (task, stack, s) ← readValue depthLimit stack s
    work depthLimit fuel task stack s
  | fuel + 1, .put v, stack, s => do
    match stack with
    | [] => return (v, s)
    | frame :: stack =>
      let (task, stack, s) ← putValue v frame stack s
      work depthLimit fuel task stack s

/-- Reads a JSON text whose containers are nested up to a limit. -/
def read (depthLimit : Nat) (text : List Char) : Except Fault Value := do
  if text.head? == some '\ufeff' then throw (.malformed .byteOrderMark 0)
  else
    let (v, after) ← work depthLimit (2 * text.length + 2) .read [] (Source.skipSpace ⟨text, 0⟩)
    let after := after.skipSpace
    if after.rest.isEmpty then return v else after.fail .extraData

end RecordRules.Json
