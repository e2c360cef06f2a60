import RecordRules.Parameter
import RecordRules.Value.Equality

/-!
# Uploads

A value has the shape of an upload when it is one or when it is a dictionary with a name and an
error code whose entries make an upload. Which entries do is for another package to decide;
`Upload.ofAttributes?` reads them leniently, with whole numbers as numbers of any kind or as text.
`Check.extension` compares the extension of the file name with a list.
-/

namespace RecordRules

namespace Upload

/-- The error code of an upload without a file. -/
def noFile : Int := 4

/-- An upload carries a file unless its error code says otherwise. -/
def hasFile (u : Upload) : Bool := u.error != noFile

/-- The part of a text after the last occurrence of a character, if the character occurs. -/
def afterLast? (c : Char) (s : List Char) : Option (List Char) :=
  if s.contains c then some ((s.reverse.takeWhile (· ≠ c)).reverse) else none

/-- The extension of a file name in lower case: what follows the last point after the last slash,
unless there is no such point or nothing follows it. -/
def extensionOf (name : List Char) : Option (List Char) :=
  let base := (afterLast? '/' name).getD name
  match afterLast? '.' base with
  | none | some [] => none
  | some ext => some (Text.lowercase ext)

/-- The extension of the uploaded file. -/
def extension (u : Upload) : Option String := (extensionOf u.name.toList).map .ofList

/-! ## Reading attributes -/

/-- White space around numbers in attributes: that of text without the information separators. -/
def isPadding (c : Char) : Bool :=
  Text.isBlank c && !(0x1c ≤ c.toNat && c.toNat ≤ 0x1f)

/-- ASCII digits with single underscores between them. -/
def digitGroup? (after : Bool) : List Char → Option (List Nat)
  | [] => if after then some [] else none
  | c :: rest =>
    if c = '_' then (if after then digitGroup? false rest else none)
    else (Numeral.digit? c).bind fun d => (digitGroup? true rest).map (d :: ·)

/-- Reads a whole number: a sign, digits, and perhaps a point followed by zeros only. -/
def readWhole? (s : List Char) : Option Int :=
  let trimmed := ((s.dropWhile isPadding).reverse.dropWhile isPadding).reverse
  let (negative, body) := Number.splitSign trimmed
  let whole := body.takeWhile (· ≠ '.')
  let fraction := (body.dropWhile (· ≠ '.')).drop 1
  if Number.digitLimit < trimmed.length || !fraction.all (· == '0') then none
  else (digitGroup? false whole).map fun ds => Number.signed negative (Number.ofDigits ds)

/-- The bound of the double precision numbers that are read as whole numbers. -/
def wholeLimit : Int := 0x8000000000000000

/-- The whole number that a decimal is, if it is one. -/
def decimalWhole? : Decimal → Option Int
  | .finite negative c e =>
    if e < 0 then
      if c = 0 then some 0
      else if (Number.digitCount c : Int) < -e then none
      else if c % tenTo (-e).toNat = 0 then
        some (Number.signed negative (c / tenTo (-e).toNat)) else none
    else if e ≤ Number.digitLimit then some (Number.signed negative (c * tenTo e.toNat)) else none
  | _ => none

/-- A value as a whole number. -/
def whole? : Value → Option Int
  | .int n => some n
  | .bool b => some (if b then 1 else 0)
  | .float x => x.toInt?.filter fun n => -wholeLimit < n && n < wholeLimit
  | .decimal d => decimalWhole? d
  | .text s => readWhole? s.toList
  | _ => none

/-- An attribute that is a whole number, with its value when it is missing. -/
def wholeAttribute? (missing : Int) : Option Value → Option Int
  | none => some missing
  | some v => whole? v

/-- An attribute that is a text or null. -/
def textAttribute? : Option Value → Option (Option String)
  | none | some .null => some none
  | some (.text s) => some (some s)
  | some _ => none

/-- The upload with the given attributes; the name is needed, others have defaults, unknown ones
are passed over. -/
def ofAttributes? (entries : List (Value × Value)) : Option Upload :=
  match Value.entry? "name" entries with
  | some (.text name) => do
    let error ← wholeAttribute? 0 (Value.entry? "error" entries)
    let size ← wholeAttribute? 0 (Value.entry? "size" entries)
    let type ← textAttribute? (Value.entry? "type" entries)
    let tmpName ← textAttribute? (Value.entry? "tmp_name" entries)
    return ⟨name, error, size, type, tmpName⟩
  | _ => none

/-- The upload that a value is or describes, given the uploads that entries make. -/
def ofValue? (v : Value) (make? : List (Value × Value) → Option Upload := ofAttributes?) :
    Option Upload :=
  match v with
  | .upload u => some u
  | .dict entries =>
    if (Value.entry? "name" entries).isSome && (Value.entry? "error" entries).isSome then
      make? entries
    else none
  | _ => none

/-- The upload whose file name a value is, or that it is or describes. -/
def named? (make? : List (Value × Value) → Option Upload) : Value → Option Upload
  | .text s => some ⟨s, 0, 0, none, none⟩
  | v => ofValue? v make?

end Upload

/-- The file name carries one of the listed extensions. An upload without a file is passed over. -/
def Check.extension (make? : List (Value × Value) → Option Upload) : Check :=
  Check.optional "extension" fun v _ param => do
    let allowed := Parameter.items (← Parameter.required "extension" param)
    let failure := Finding.fail (.list (allowed.map .text))
    match Upload.named? make? v with
    | none => return failure
    | some u =>
      if !u.hasFile then return .pass
      else if u.extension.any allowed.contains then return .pass
      else return failure

end RecordRules
