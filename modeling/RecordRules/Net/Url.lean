import RecordRules.Net.Address
import RecordRules.Text.Blank

/-!
# Uniform resource locators

An absolute locator has a scheme and, unless the scheme can do without one, a host. It is taken
apart at its first delimiters: `scheme://authority/path?query#fragment`. White space is not
accepted anywhere.
-/

namespace RecordRules.Net.Url

/-- Characters of schemes. -/
def isSchemeChar (c : Char) : Bool := c.isAlphanum || "+-.".toList.contains c

/-- A scheme starts with a letter. -/
def isScheme (s : List Char) : Bool := s.head?.any Char.isAlpha && s.all isSchemeChar

/-- Splits a text at the first occurrence of a character. -/
def splitFirst? (d : Char) (s : List Char) : Option (List Char × List Char) :=
  match s.dropWhile (· ≠ d) with
  | [] => none
  | _ :: rest => some (s.takeWhile (· ≠ d), rest)

/-- The scheme in lower case and the rest. -/
def splitScheme? (s : List Char) : Option (List Char × List Char) :=
  match splitFirst? ':' s with
  | some (scheme, rest) => if isScheme scheme then some (scheme.map Char.toLower, rest) else none
  | none => none

/-- True of the characters that end the authority. -/
def endsAuthority (c : Char) : Bool := c == '/' || c == '?' || c == '#'

/-- The authority after two slashes, and the rest. -/
def splitAuthority : List Char → List Char × List Char
  | '/' :: '/' :: rest => (rest.takeWhile (!endsAuthority ·), rest.dropWhile (!endsAuthority ·))
  | s => ([], s)

/-- What follows the last occurrence of a character, or the whole text without one. -/
def afterLast (d : Char) (s : List Char) : List Char := (s.reverse.takeWhile (· ≠ d)).reverse

/-- An address of some later version in brackets: `v`, its number in hexadecimal, a full stop and
more. -/
def isFutureAddress : List Char → Bool
  | 'v' :: rest =>
    let version := rest.takeWhile (· ≠ '.')
    !version.isEmpty && version.all (fun c => isHextet [c]) &&
      1 < (rest.dropWhile (· ≠ '.')).length
  | _ => false

/-- What may stand between brackets: an address of version 6 or of some later version. -/
def isBracketed (s : List Char) : Bool :=
  if s.head? = some 'v' then isFutureAddress s else isIpv6 s

/-- The host and what follows it, inside brackets or before the colon of the port; the flag is
false when something stands between a bracket and the colon, or before a bracket. -/
def splitHost (s : List Char) : List Char × Bool :=
  match splitFirst? '[' s with
  | some (before, inside) =>
    let host := inside.takeWhile (· ≠ ']')
    let port := (inside.dropWhile (· ≠ ']')).drop 1
    (host, before.isEmpty && (port.isEmpty || port.head? = some ':'))
  | none => (s.takeWhile (· ≠ ':'), true)

/-- The host of an authority: what follows the last at sign, without the port. -/
def hostOf (authority : List Char) : List Char := (splitHost (afterLast '@' authority)).1

/-- Brackets come in pairs, around the host only, and hold an address. -/
def areBracketsRight (authority : List Char) : Bool :=
  let opened := authority.contains '['
  let closed := authority.contains ']'
  if opened && closed then
    let (host, wellPlaced) := splitHost (afterLast '@' authority)
    wellPlaced && isBracketed host
  else opened == closed

/-- Characters whose variants in plain text hold one of the delimiters. -/
def disguisedDelimiters : List Nat :=
  [0x2047, 0x2048, 0x2049, 0x2100, 0x2101, 0x2105, 0x2106, 0x2a74, 0xfe13, 0xfe16, 0xfe55, 0xfe56,
   0xfe5f, 0xfe6b, 0xff03, 0xff0f, 0xff1a, 0xff1f, 0xff20]

/-- The schemes that need no host. -/
def hostlessSchemes : List (List Char) := ["mailto", "news", "file"].map String.toList

/-- The path: what comes before the query and the fragment. -/
def pathOf (s : List Char) : List Char := s.takeWhile fun c => c ≠ '#' && c ≠ '?'

/-- An absolute locator. Control characters before it are passed over. -/
def isAbsolute (s : List Char) : Bool :=
  if s.any Text.isBlank then false
  else
    match splitScheme? (s.dropWhile (·.toNat ≤ 0x20)) with
    | none => false
    | some (scheme, rest) =>
      let (authority, rest) := splitAuthority rest
      areBracketsRight authority &&
        !authority.any (fun c => disguisedDelimiters.contains c.toNat) &&
        if hostlessSchemes.contains scheme then !authority.isEmpty || !(pathOf rest).isEmpty
        else !(hostOf authority).isEmpty

end RecordRules.Net.Url
