import RecordRules.Calendar.Format
import RecordRules.Proofs.Calendar.Written
import RecordRules.Proofs.Number.Literal
import RecordRules.Proofs.Pattern.Casing
import RecordRules.Proofs.Pattern.Taking

/-!
# What the patterns of dates take

The default formats of dates stand for patterns that are given here as trees (`Calendar.read_dateFormat`,
`Calendar.read_momentFormat`). Case is ignored in them, which makes no difference to digits
(`Calendar.sameLetter_iff_of_isDigit`). The pattern of a part takes every number of two digits within the
bounds of that part, whatever comes after it: of the alternatives the first character excludes all before the
one for two digits (`Calendar.takes_alt_pair`), so that none for a single digit has a turn.
-/

namespace RecordRules.Calendar

open Pattern (Effect Leaf Node Tree)

/-! ## Digits in patterns -/

section
variable {c d : Char} {code first last : Nat}

/-- A digit is the same letter as itself only. -/
theorem sameLetter_iff_of_isDigit (hc : c.isDigit = true) :
    Text.sameLetter code c.toNat = true ↔ code = c.toNat := by
  have hrange : 48 ≤ c.toNat ∧ c.toNat ≤ 57 := Char.isDigit_iff_toNat.1 hc
  have hsources : ∀ n ∈ List.range' 48 10, Pattern.foldSources (Text.lowerCode n) = [n] := by decide +kernel
  rw [Text.sameLetter_comm, ← Pattern.mem_foldSources_iff,
    hsources c.toNat (List.mem_range'_1.2 (by omega)), List.mem_singleton]

/-- A decimal digit of any script. -/
def anyDigit : Leaf := .set .exact false [.category .digit false false]

/-- A character from one code point to another, case aside. -/
def within (first last : Nat) : Leaf := .set .unicode false [.range first last]

/-- The character with a code point, case aside. -/
def same (code : Nat) : Leaf := .char .unicode false code

/-- The class of all digits is the class of decimal digits. -/
theorem anyDigit_accepts : anyDigit.accepts c = Text.isDecimalDigit c := by
  simp [anyDigit, Leaf.accepts, Pattern.Member.accepts, Pattern.Category.has]

/-- It holds the ASCII digits among others. -/
theorem anyDigit_accepts_of_isDigit (hc : c.isDigit = true) : anyDigit.accepts c = true := by
  rw [anyDigit_accepts, Text.isDecimalDigit, Number.digitValue?_of_isDigit hc]
  rfl

/-- A range accepts the digits that lie in it. -/
theorem within_accepts_iff (hc : c.isDigit = true) :
    (within first last).accepts c = true ↔ first ≤ c.toNat ∧ c.toNat ≤ last := by
  have haccepts : (within first last).accepts c = true ↔
      (Pattern.Member.range first last).accepts .unicode c = true := by
    simp [within, Leaf.accepts]
  rw [haccepts, Pattern.Member.accepts_range_iff]
  simp only [sameLetter_iff_of_isDigit hc]
  constructor
  · rintro ⟨_, hfirst, hlast, rfl⟩
    exact ⟨hfirst, hlast⟩
  · exact fun h => ⟨_, h.1, h.2, rfl⟩

/-- A single code point accepts the digit that has it. -/
theorem same_accepts_iff (hc : c.isDigit = true) : (same code).accepts c = true ↔ code = c.toNat := by
  rw [← sameLetter_iff_of_isDigit hc]
  simp [same, Leaf.accepts, Pattern.Casing.agrees]

end

/-! ## The patterns of the directives -/

/-- A leaf after another. -/
def pair (u v : Leaf) : Node := .seq (.leaf u) (.leaf v)

/-- What the pattern of the year stands for. -/
def yearNode : Node := .seq (.leaf anyDigit) (.seq (.leaf anyDigit) (pair anyDigit anyDigit))

/-- What the pattern of the month stands for. -/
def monthNode : Node :=
  .alt (pair (same 49) (within 48 50)) (.alt (pair (same 48) (within 49 57)) (.leaf (within 49 57)))

/-- What the pattern of the day stands for. -/
def dayNode : Node :=
  .alt (pair (same 51) (within 48 49)) (.alt (pair (within 49 50) anyDigit)
    (.alt (pair (same 48) (within 49 57)) (.alt (.leaf (within 49 57)) (pair (same 32) (within 49 57)))))

/-- What the pattern of the hour stands for. -/
def hourNode : Node :=
  .alt (pair (same 50) (within 48 51)) (.alt (pair (within 48 49) anyDigit) (.leaf anyDigit))

/-- What the pattern of the minute stands for. -/
def minuteNode : Node := .alt (pair (within 48 53) anyDigit) (.leaf anyDigit)

/-- What the pattern of the second stands for. -/
def secondNode : Node :=
  .alt (pair (same 54) (within 48 49)) (.alt (pair (within 48 53) anyDigit) (.leaf anyDigit))

/-- What the pattern of white space stands for. -/
def gapNode : Node := .repeated .greedy 1 none (.leaf (.set .exact false [.category .space false false]))

section
variable {n : Nat} {s after : List Char} {u v : Leaf} {c d : Char}

/-- Two classes in a row take two characters, and what follows them does not matter. -/
theorem takes_pair (hc : u.accepts c = true) (hd : v.accepts d = true) : (pair u v).Takes [c, d] after .keep :=
  (Node.takes_leaf hc).seq (Node.takes_leaf hd) rfl

/-- The first of two characters decides whether they are a pair or what the other alternative takes. -/
theorem takes_alt_pair {other : Node} (hpair : u.accepts c = true → v.accepts d = true)
    (hother : ¬u.accepts c = true → other.Takes [c, d] after .keep) :
    (Node.alt (pair u v) other).Takes [c, d] after .keep := by
  by_cases hc : u.accepts c = true
  · exact (takes_pair hc (hpair hc)).alt_left
  · exact .alt_right (Node.refuses_leaf (Bool.not_eq_true _ ▸ hc)).seq (hother hc)

/-- A number of two digits. -/
theorem exists_pair (h : Number.IsPadded 2 n s) : ∃ c d, s = [c, d] ∧ c.isDigit = true ∧ d.isDigit = true ∧
    n = 10 * (c.toNat - 48) + (d.toNat - 48) ∧ 48 ≤ c.toNat ∧ 48 ≤ d.toNat ∧ d.toNat ≤ 57 := by
  obtain ⟨c, d, rfl⟩ := List.length_eq_two.1 h.length
  have hc : c.isDigit = true := h.isDigit c (by simp)
  have hd : d.isDigit = true := h.isDigit d (by simp)
  refine ⟨c, d, rfl, hc, hd, ?_, (Char.isDigit_iff_toNat.1 hc).1, Char.isDigit_iff_toNat.1 hd⟩
  rw [← h.val, Nat.ofDigitChars_cons, Nat.ofDigitChars_cons, Nat.ofDigitChars_nil, Nat.mul_zero, Nat.zero_add]
  rfl

/-- Any four digits are a year. -/
theorem takes_year (h : Number.IsPadded 4 n s) : yearNode.Takes s after .keep := by
  obtain ⟨a, s, rfl⟩ := List.exists_cons_of_length_eq_add_one h.length
  obtain ⟨b, s, rfl⟩ := List.exists_cons_of_length_eq_add_one (Nat.succ.inj h.length)
  obtain ⟨c, d, rfl⟩ := List.length_eq_two.1 (Nat.succ.inj (Nat.succ.inj h.length))
  have hdigit {x : Char} (hx : x ∈ [a, b, c, d]) : anyDigit.accepts x = true :=
    anyDigit_accepts_of_isDigit (h.isDigit x hx)
  have hpair : (pair anyDigit anyDigit).Takes [c, d] after .keep :=
    takes_pair (hdigit (by simp)) (hdigit (by simp))
  exact (Node.takes_leaf (hdigit (by simp))).seq ((Node.takes_leaf (hdigit (by simp))).seq hpair rfl) rfl

/-- Two digits from `01` to `12` are a month, the alternative for two digits being tried first. -/
theorem takes_month (h : Number.IsPadded 2 n s) (hlower : 1 ≤ n) (hupper : n ≤ 12) :
    monthNode.Takes s after .keep := by
  obtain ⟨c, d, rfl, hc, hd, rfl, hrange⟩ := exists_pair h
  refine takes_alt_pair ?_ fun hone => takes_alt_pair ?_ fun hzero => ?_
  all_goals simp only [same_accepts_iff hc, within_accepts_iff hd] at *
  · omega
  · omega
  · omega

/-- Two digits from `01` to `31` are a day. -/
theorem takes_day (h : Number.IsPadded 2 n s) (hlower : 1 ≤ n) (hupper : n ≤ 31) :
    dayNode.Takes s after .keep := by
  obtain ⟨c, d, rfl, hc, hd, rfl, hrange⟩ := exists_pair h
  refine takes_alt_pair ?_ fun hthree => takes_alt_pair ?_ fun hmiddle => takes_alt_pair ?_ fun hzero => ?_
  all_goals simp only [same_accepts_iff hc, within_accepts_iff hc, within_accepts_iff hd] at *
  · omega
  · exact fun _ => anyDigit_accepts_of_isDigit hd
  · omega
  · omega

/-- Two digits below `24` are an hour. -/
theorem takes_hour (h : Number.IsPadded 2 n s) (hupper : n < 24) : hourNode.Takes s after .keep := by
  obtain ⟨c, d, rfl, hc, hd, rfl, hrange⟩ := exists_pair h
  refine takes_alt_pair ?_ fun htwo => takes_alt_pair ?_ fun hbelow => ?_
  all_goals simp only [same_accepts_iff hc, within_accepts_iff hc, within_accepts_iff hd] at *
  · omega
  · exact fun _ => anyDigit_accepts_of_isDigit hd
  · omega

/-- Two digits below `60` are a minute. -/
theorem takes_minute (h : Number.IsPadded 2 n s) (hupper : n < 60) : minuteNode.Takes s after .keep := by
  obtain ⟨c, d, rfl, hc, hd, rfl, hrange⟩ := exists_pair h
  refine takes_alt_pair (fun _ => anyDigit_accepts_of_isDigit hd) fun hbelow => ?_
  rw [within_accepts_iff hc] at hbelow
  omega

/-- Two digits below `60` are a second; the leap seconds `60` and `61` are not written. -/
theorem takes_second (h : Number.IsPadded 2 n s) (hupper : n < 60) : secondNode.Takes s after .keep := by
  obtain ⟨c, d, rfl, hc, hd, rfl, hrange⟩ := exists_pair h
  refine takes_alt_pair ?_ fun hsix => takes_alt_pair (fun _ => anyDigit_accepts_of_isDigit hd) fun hbelow => ?_
  all_goals simp only [same_accepts_iff hc, within_accepts_iff hc, within_accepts_iff hd] at *
  · omega
  · omega

/-- The white space of a format takes one space before a digit. -/
theorem takes_gap (h : ∀ c ∈ after.head?, c.isDigit = true) : gapNode.Takes [' '] after .keep := by
  refine Node.takes_repeated (by decide) fun c hc => ?_
  have hblank := Text.not_isBlank_of_isDigit (h c hc)
  simp [Leaf.accepts, Pattern.Member.accepts, Pattern.Category.has, hblank]

/-- A character of the format takes itself. -/
theorem takes_same (c : Char) : (Node.leaf (same c.toNat)).Takes [c] after .keep := by
  refine Node.takes_leaf ?_
  have hself : Text.sameLetter c.toNat c.toNat = true := Text.sameLetter_iff.2 (.inl rfl)
  simp [same, Leaf.accepts, Pattern.Casing.agrees, hself]

end

/-! ## The default formats -/

/-- The format of dates. -/
def dateFormat : Format := [.part .year, .char '-', .part .month, .char '-', .part .day]

/-- The format of dates with a time of day. -/
def momentFormat : Format :=
  dateFormat ++ [.gap [' '], .part .hour, .char ':', .part .minute, .char ':', .part .second]

/-- What the patterns of the year and of the month stand for, with what follows them. -/
def yearMonthNode (rest : Node) : Node :=
  .seq (.capture 1 yearNode) (.seq (.leaf (same 45)) (.seq (.capture 2 monthNode)
    (.seq (.leaf (same 45)) rest)))

/-- What the pattern of a time of day stands for. -/
def clockNode : Node :=
  .seq (.capture 4 hourNode) (.seq (.leaf (same 58)) (.seq (.capture 5 minuteNode)
    (.seq (.leaf (same 58)) (.capture 6 secondNode))))

/-- The pattern of dates. -/
def dateTree : Tree where
  root := yearMonthNode (.capture 3 dayNode)
  flags := { ignoreCase := true }
  groups := 3
  names := [("d", 3), ("m", 2), ("Y", 1)]

/-- The pattern of dates with a time of day. -/
def momentTree : Tree where
  root := yearMonthNode (.seq (.capture 3 dayNode) (.seq gapNode clockNode))
  flags := { ignoreCase := true }
  groups := 6
  names := [("S", 6), ("M", 5), ("H", 4), ("d", 3), ("m", 2), ("Y", 1)]

/-- The parts of the date format. -/
theorem ofText?_dateFormat : Format.ofText? "%Y-%m-%d".toList = some dateFormat := by rfl

/-- The parts of the format with a time of day. -/
theorem ofText?_momentFormat : Format.ofText? "%Y-%m-%d %H:%M:%S".toList = some momentFormat := by rfl

/-- The expression that the date format stands for is read as the tree of its nodes. -/
theorem read_dateFormat : Tree.read { ignoreCase := true } dateFormat.pattern = .ok dateTree := by rfl

set_option maxRecDepth 2000 in
/-- Likewise with a time of day. -/
theorem read_momentFormat : Tree.read { ignoreCase := true } momentFormat.pattern = .ok momentTree := by rfl

end RecordRules.Calendar
