import RecordRules.Net.Domain
import RecordRules.Text.Printable

/-!
# Addresses of electronic mail

An address is a local part, an at sign and the name of a host that can be reached from anywhere. The
local part consists of atoms with single full stops between them; quoted local parts, addresses in
brackets and display names are not accepted.
-/

namespace RecordRules.Net.Email

/-- The most bytes of an address. -/
def addressLimit : Nat := 254

/-- The characters of atoms: ASCII letters, digits and some signs, and everything beyond ASCII. -/
def isAtomChar (c : Char) : Bool :=
  c.isAlphanum || "_!#$%&'*+-/=?^\x60\x7b|\x7d~".toList.contains c || 0x80 ≤ c.toNat

/-- Atoms with single full stops between them. -/
def isDotAtom (s : List Char) : Bool :=
  (Text.splitAll '.' s).all fun atom => !atom.isEmpty && atom.all isAtomChar

/-- True of texts without control, format, separator and unassigned characters, which do not start
with a mark either. -/
def isSafe (s : List Char) : Bool :=
  s.all (fun c => Text.isPrintable c && c != ' ') && !s.head?.any Text.isMark

/-- A local part. Its normal form is one as well. -/
def isLocalPart (s : List Char) : Bool :=
  isDotAtom s && isSafe s && isDotAtom (Text.canonical s)

/-- Names at the top of the name system that are reserved for special uses. -/
def specialNames : List (List Char) :=
  ["arpa", "invalid", "local", "localhost", "onion", "test"].map String.toList

/-- A name that mail can be sent to from anywhere: it has a full stop, ends with a letter and is not
reserved for special uses. -/
def isDeliverable (name : List Char) : Bool :=
  name.contains '.' && name.getLast?.any Char.isAlpha &&
    !specialNames.contains (((Text.splitAll '.' name).getLast?).getD [])

/-- The host of an address. -/
def host? (s : List Char) : Option DomainName := do
  if !isSafe s then none
  else
    let name ← DomainName.ofText? s
    if isDeliverable name.ascii && isSafe name.unicode then some name else none

/-- An address is short enough, counted in bytes. -/
def isShort (address : List Char) : Bool := (String.ofList address).utf8ByteSize ≤ addressLimit

/-- A text is an address. The address as written, its normal form and the form with the host in
ASCII must all be short enough. -/
def isAddress (s : List Char) : Bool :=
  let local_ := s.takeWhile (· ≠ '@')
  match s.dropWhile (· ≠ '@') with
  | [] => false
  | _ :: domain =>
    isShort s && isLocalPart local_ &&
      (host? domain).any fun host =>
        isShort (Text.canonical local_ ++ '@' :: host.unicode) &&
          isShort (Text.canonical local_ ++ '@' :: host.ascii)

end RecordRules.Net.Email
