import RecordRules.Text.Split

/-!
# Internet addresses

The written forms of addresses of version 4, four decimal numbers between full stops, and of
version 6, eight hexadecimal groups between colons, where one run of zero groups may be left out,
the last two groups may be written as an address of version 4, and a zone may follow a percent sign.
-/

namespace RecordRules.Net

/-- A number below 256 in decimal digits, without leading zeros. -/
def isOctet (s : List Char) : Bool :=
  s.all Char.isDigit && (s == ['0'] || (s.head?.any (· ≠ '0') && s.length ≤ 3)) &&
    s.foldl (fun n c => 10 * n + (c.toNat - 0x30)) 0 ≤ 255

/-- An address of version 4. -/
def isIpv4 (s : List Char) : Bool :=
  let octets := Text.splitAll '.' s
  octets.length == 4 && octets.all isOctet

/-- One to four hexadecimal digits. -/
def isHextet (s : List Char) : Bool :=
  !s.isEmpty && s.length ≤ 4 &&
    s.all fun c => c.isDigit || ('a' ≤ c && c ≤ 'f') || ('A' ≤ c && c ≤ 'F')

/-- The groups of an address, with an address of version 4 at the end counted as two groups. -/
def groups? (s : List Char) : Option (List (List Char)) :=
  let groups := Text.splitAll ':' s
  let last := (groups.getLast?).getD []
  if groups.length < 3 then none
  else if last.contains '.' then
    if isIpv4 last then some (groups.dropLast ++ [['0'], ['0']]) else none
  else some groups

/-- The groups before the first empty group, and those after it. -/
def splitEmpty (groups : List (List Char)) : List (List Char) × List (List Char) :=
  (groups.takeWhile (!·.isEmpty), (groups.dropWhile (!·.isEmpty)).drop 1)

/-- Groups that leave out a run of zeros: fewer than eight stand on both sides of it. At an end of
the address the run is written with one more empty group. -/
def isCompressed (groups : List (List Char)) : Bool :=
  let (high, low) := match groups with
    | [] :: [] :: low => ([], low)
    | groups => splitEmpty groups
  let low := if low == [[]] then [] else low
  high.length + low.length ≤ 7 && (high ++ low).all isHextet

/-- The groups of an address: eight of them, or fewer with a run left out. -/
def areGroups (groups : List (List Char)) : Bool :=
  if (groups.drop 1).dropLast.any List.isEmpty then isCompressed groups
  else groups.length == 8 && groups.all isHextet

/-- A text without a percent sign, or followed by one and a zone. -/
def withoutZone? (s : List Char) : Option (List Char) :=
  match Text.splitAll '%' s with
  | [address] => some address
  | [address, zone] => if zone.isEmpty then none else some address
  | _ => none

/-- An address of version 6. -/
def isIpv6 (s : List Char) : Bool :=
  ((withoutZone? s).bind groups?).any areGroups && !s.contains '/'

end RecordRules.Net
