/-!
# Sets of characters given by ranges

A property of characters is kept as a list of code point ranges, ascending and disjoint. `Ranges.has`
decides membership and stops at the first range that starts beyond the code point, so the common
characters at the bottom of the code space are found at once.
-/

namespace RecordRules.Text

/-- A set of code points: ascending, disjoint, inclusive ranges. -/
abbrev Ranges := List (Nat × Nat)

/-- Membership of a code point in a set of ranges. -/
def Ranges.has : Ranges → Nat → Bool
  | [], _ => false
  | (lo, hi) :: rest, c =>
    if c < lo then false else if c ≤ hi then true else Ranges.has rest c

@[simp] theorem Ranges.has_nil (c : Nat) : Ranges.has [] c = false := rfl

/-- The ranges are sorted, so the search ends at the first one that begins too late. -/
theorem Ranges.has_cons (lo hi : Nat) (rest : Ranges) (c : Nat) :
    Ranges.has ((lo, hi) :: rest) c =
      if c < lo then false else if c ≤ hi then true else Ranges.has rest c := rfl

/-- A code point in a set of ranges is in one of them. -/
theorem Ranges.exists_of_has {ranges : Ranges} {code : Nat} (h : ranges.has code = true) :
    ∃ r ∈ ranges, r.1 ≤ code ∧ code ≤ r.2 := by
  induction ranges with
  | nil => cases h
  | cons r ranges ih =>
    obtain ⟨lo, hi⟩ := r
    rw [has_cons] at h
    split at h
    · cases h
    · next hlo =>
      split at h
      · next hhi => exact ⟨(lo, hi), List.mem_cons_self, Nat.le_of_not_lt hlo, hhi⟩
      · obtain ⟨r, hr, hcode⟩ := ih h
        exact ⟨r, List.mem_cons_of_mem _ hr, hcode⟩

/-- Ranges that end before a stretch of code points or start after it hold none of them. -/
theorem Ranges.has_eq_false {ranges : Ranges} {first last code : Nat}
    (h : ranges.all (fun r => Nat.blt r.2 first || Nat.blt last r.1) = true)
    (hfirst : first ≤ code) (hlast : code ≤ last) : ranges.has code = false := by
  rw [← Bool.not_eq_true]
  intro hhas
  obtain ⟨r, hr, hlo, hhi⟩ := exists_of_has hhas
  have hapart := List.all_eq_true.1 h r hr
  rw [Bool.or_eq_true, Nat.blt_eq, Nat.blt_eq] at hapart
  omega

/-- A set is put together from its lower and its upper ranges. -/
theorem Ranges.has_append {ranges later : Ranges} {code : Nat}
    (h : ranges.all (fun r => later.all fun r' => Nat.ble r.1 r'.1) = true) :
    (ranges ++ later).has code = (ranges.has code || later.has code) := by
  induction ranges with
  | nil => rfl
  | cons r ranges ih =>
    obtain ⟨lo, hi⟩ := r
    rw [List.all_cons, Bool.and_eq_true] at h
    rw [List.cons_append, has_cons, has_cons, ih h.2]
    split
    · next hlo =>
      -- Below the first range there is nothing, neither in the lower ranges nor in the upper ones.
      cases hlater : later.has code with
      | false => rfl
      | true =>
        obtain ⟨r', hr', hfirst, -⟩ := exists_of_has hlater
        have hle := List.all_eq_true.1 h.1 r' hr'
        rw [Nat.ble_eq] at hle
        omega
    · split <;> rfl

end RecordRules.Text
