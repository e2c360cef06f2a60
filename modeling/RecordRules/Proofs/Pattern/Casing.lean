import RecordRules.Pattern.Node
import RecordRules.Proofs.Text.Case

/-!
# Sets of characters that ignore case

Two code points are the same letter if their lower-case forms agree or are siblings, and this goes both
ways (`Text.sameLetter_comm`). A range that ignores case accepts exactly the code points that are the same
letter as one of its own (`Pattern.Member.accepts_range_iff`): the code points with a lower-case form are
looked up the other way round in the same table (`Text.mem_lowerSources_iff`), because no run of the table
hides a later one (`Text.lowerRuns_apart`). What several ranges come to in this way is a set that is closed
under case and has no other code points (`Text.Ranges.exists_sameLetter_iff`).
-/

namespace RecordRules

namespace Text

/-! ## Code points by their lower-case forms -/

section
variable {runs : List CaseRun} {run : CaseRun} {c d n : Nat}

/-- No run takes a code point of a later one. Runs are ordered by their first code points, so only the later
ones that start inside a run are looked into. -/
def CaseRun.apart : List CaseRun → Bool
  | [] => true
  | run :: runs => (runs.takeWhile fun later => Nat.ble later.first run.last).all (fun later =>
      run.misses { later with target := later.first }) && apart runs

/-- In a sorted table, a run that begins early enough is among those that are looked at. -/
theorem CaseRun.mem_takeWhile (hsorted : runs.Pairwise (·.first ≤ ·.first)) (hrun : run ∈ runs)
    (hfirst : run.first ≤ n) : run ∈ runs.takeWhile fun later => Nat.ble later.first n := by
  induction hsorted with
  | nil => cases hrun
  | cons hhead _ ih =>
    rw [List.takeWhile_cons]
    rcases List.mem_cons.1 hrun with rfl | hrun
    · rw [if_pos (Nat.ble_eq_true_of_le hfirst)]
      exact List.mem_cons_self
    · rw [if_pos (Nat.ble_eq_true_of_le ((hhead run hrun).trans hfirst))]
      exact List.mem_cons_of_mem _ (ih hrun)

/-- A code point is found by the run that maps it. -/
theorem CaseRun.find?_of_maps (hsorted : runs.Pairwise (·.first ≤ ·.first)) (hapart : apart runs = true)
    (hrun : run ∈ runs) (hmaps : run.Maps n) : find? runs n = some (run.target + (n - run.first)) := by
  induction hsorted with
  | nil => cases hrun
  | @cons head runs hhead hsorted ih =>
    rw [apart, Bool.and_eq_true] at hapart
    rw [find?]
    rcases List.mem_cons.1 hrun with rfl | hrun
    · obtain ⟨hfirst, hlast, hstep⟩ := hmaps
      rw [if_neg (by omega), if_pos (by simp [hlast, hstep])]
    · -- The head neither ends the search, since it does not start later, nor takes the code point.
      have hfirst : head.first ≤ n := (hhead run hrun).trans hmaps.1
      have hnot : ¬head.Maps n := by
        intro htakes
        have hinside := mem_takeWhile hsorted hrun (hmaps.1.trans htakes.2.1)
        have hmiss := not_maps_of_misses (n := n) (List.all_eq_true.1 hapart.1 run hinside) hmaps
        rw [Nat.add_sub_cancel' hmaps.1] at hmiss
        exact hmiss htakes
      rw [if_neg (by omega), if_neg ?_, ih hapart.2 hrun]
      rw [Bool.and_eq_true, decide_eq_true_eq, beq_iff_eq]
      exact fun h => hnot ⟨hfirst, h⟩

/-- The table of lower-case forms is sorted. -/
theorem lowerRuns_sorted : lowerRuns.Pairwise (·.first ≤ ·.first) := by
  have hchain : lowerRuns.IsChain (·.first ≤ ·.first) := by decide +kernel
  have : Trans (fun run later : CaseRun => run.first ≤ later.first)
      (fun run later : CaseRun => run.first ≤ later.first)
      (fun run later : CaseRun => run.first ≤ later.first) := ⟨Nat.le_trans⟩
  exact hchain.pairwise

/-- No two of its runs map the same code point. -/
theorem lowerRuns_apart : CaseRun.apart lowerRuns = true := by decide +kernel

/-- So a code point that a run maps goes where this run says. -/
theorem lowerCode_of_maps (hrun : run ∈ lowerRuns) (hmaps : run.Maps n) :
    lowerCode n = run.target + (n - run.first) := by
  rw [lowerCode, CaseRun.find?_of_maps lowerRuns_sorted lowerRuns_apart hrun hmaps, Option.getD_some]

/-- **The sources of a code point** are those with this lower-case form. -/
theorem mem_lowerSources_iff : d ∈ lowerSources n ↔ lowerCode d = n := by
  have hmapped : d ∈ lowerRuns.filterMap (fun run =>
      if run.target ≤ n && (n - run.target) % run.step == 0 && run.first + (n - run.target) ≤ run.last
        then some (run.first + (n - run.target)) else none) ↔
      ∃ run ∈ lowerRuns, run.Maps d ∧ run.target + (d - run.first) = n := by
    simp only [List.mem_filterMap, Option.ite_none_right_eq_some, Option.some.injEq, Bool.and_eq_true,
      decide_eq_true_eq, beq_iff_eq]
    constructor
    · rintro ⟨run, hrun, ⟨⟨htarget, hstep⟩, hlast⟩, rfl⟩
      exact ⟨run, hrun, ⟨by omega, hlast, by rwa [Nat.add_sub_cancel_left]⟩, by omega⟩
    · rintro ⟨run, hrun, ⟨hfirst, hlast, hstep⟩, rfl⟩
      refine ⟨run, hrun, ⟨⟨by omega, ?_⟩, by omega⟩, by omega⟩
      rwa [Nat.add_sub_cancel_left]
  have hsource : (∃ run ∈ lowerRuns, run.Maps d ∧ run.target + (d - run.first) = n) → lowerCode d = n := by
    rintro ⟨run, hrun, hmaps, rfl⟩
    exact lowerCode_of_maps hrun hmaps
  rw [lowerSources]
  constructor
  · intro h
    split at h
    · next hself =>
      rcases List.mem_cons.1 h with rfl | h
      · exact hself
      · exact hsource (hmapped.1 h)
    · exact hsource (hmapped.1 h)
  · -- A code point without a run is its own lower-case form, and then the first one in the list.
    rintro rfl
    rcases lowerCode_cases d with hself | ⟨run, hrun, hmaps, himage⟩
    · rw [if_pos (by rw [hself, hself])]
      exact List.mem_cons.2 (.inl hself.symm)
    · have hmem := hmapped.2 ⟨run, hrun, hmaps, himage.symm⟩
      split
      · exact List.mem_cons_of_mem _ hmem
      · exact hmem

/-! ## The same letter -/

/-- The table of siblings lists each pair in both directions. -/
theorem lowerSiblings_symm :
    (lowerSiblings.all fun entry => entry.2.all fun d => (siblings d).contains entry.1) = true := by
  decide +kernel

/-- Being siblings is symmetric. -/
theorem mem_siblings_of_mem (h : d ∈ siblings c) : c ∈ siblings d := by
  rw [siblings] at h
  cases hfound : lowerSiblings.lookup c with
  | none => simp [hfound] at h
  | some others =>
    rw [hfound, Option.getD_some] at h
    obtain ⟨before, after, htable, -⟩ := List.lookup_eq_some_iff.1 hfound
    have hentry : (c, others) ∈ lowerSiblings := by simp [htable]
    exact List.contains_iff_mem.1
      (List.all_eq_true.1 (List.all_eq_true.1 lowerSiblings_symm _ hentry) d h)

/-- Two code points are the same letter if their lower-case forms are the same or siblings. -/
theorem sameLetter_iff :
    sameLetter c d = true ↔ lowerCode c = lowerCode d ∨ lowerCode d ∈ siblings (lowerCode c) := by
  rw [sameLetter, Bool.or_eq_true, beq_iff_eq, List.contains_iff_mem]

/-- Being the same letter is symmetric. -/
theorem sameLetter_comm : sameLetter c d = true ↔ sameLetter d c = true := by
  have hsymm {c d : Nat} (h : sameLetter c d = true) : sameLetter d c = true :=
    sameLetter_iff.2 ((sameLetter_iff.1 h).imp Eq.symm mem_siblings_of_mem)
  exact ⟨hsymm, hsymm⟩

/-! ## Sets that are closed under case -/

/-- Every code point whose lower-case form is in a set is in it. Only the runs that do not go past the set
are looked into. -/
def Ranges.hasOrigins (ranges : Ranges) : Bool :=
  lowerRuns.all fun run => ranges.all fun r =>
    (Nat.blt r.2 run.target || Nat.blt (run.target + (run.last - run.first)) r.1) ||
      every [(run.first, run.last)] fun n => !ranges.has (lowerCode n) || ranges.has n

/-- A set that is closed under going back to capitals has what has its lower-case form in it. -/
theorem Ranges.has_of_has_lowerCode {ranges : Ranges} (h : ranges.hasOrigins = true)
    (hhas : ranges.has (lowerCode n) = true) : ranges.has n = true := by
  rcases lowerCode_cases n with hself | ⟨run, hrun, ⟨hfirst, hlast, -⟩, hform⟩
  · rwa [hself] at hhas
  · obtain ⟨r, hr, hlo, hhi⟩ := exists_of_has hhas
    have hrun := List.all_eq_true.1 (List.all_eq_true.1 h run hrun) r hr
    rw [Bool.or_eq_true, Bool.or_eq_true, Nat.blt_eq, Nat.blt_eq] at hrun
    rcases hrun with hpast | hevery
    · omega
    · have hclosed := every_iff.1 hevery _ (List.mem_singleton_self _) hfirst hlast
      rwa [hhas, Bool.not_true, Bool.false_or] at hclosed

/-- Case aside, the code points of some ranges are those of a set: the set is closed under case, and each
of its code points comes from one in the ranges. -/
def Ranges.foldTo (ranges folded : Ranges) : Bool :=
  (ranges.every fun d => (lowerCode d :: siblings (lowerCode d)).all folded.has) && folded.hasOrigins &&
    folded.every fun n => (lowerCode n :: siblings (lowerCode n)).any fun d => ranges.has d && sameLetter d n

/-- The characters that are the same letter as one of a set are those of its folding. -/
theorem Ranges.exists_sameLetter_iff {ranges folded : Ranges} (h : ranges.foldTo folded = true) :
    (∃ r ∈ ranges, ∃ d, r.1 ≤ d ∧ d ≤ r.2 ∧ sameLetter d n = true) ↔ folded.has n = true := by
  rw [foldTo, Bool.and_eq_true, Bool.and_eq_true] at h
  obtain ⟨⟨hforms, horigins⟩, hfrom⟩ := h
  constructor
  · rintro ⟨r, hr, d, hlo, hhi, hsame⟩
    have hform := List.all_eq_true.1 (every_iff.1 hforms r hr hlo hhi)
    refine has_of_has_lowerCode horigins (hform _ (List.mem_cons.2 ?_))
    exact (sameLetter_iff.1 hsame).imp_left Eq.symm
  · intro hhas
    obtain ⟨d, -, hd⟩ := List.any_eq_true.1 (of_every hfrom hhas)
    rw [Bool.and_eq_true] at hd
    obtain ⟨r, hr, hlo, hhi⟩ := exists_of_has hd.1
    exact ⟨r, hr, d, hlo, hhi, hd.2⟩

end

end Text

namespace Pattern

/-! ## Members of sets -/

section
variable {c d first last code : Nat} {ch : Char}

/-- The code points that a character stands for without its case are those of the same letter. -/
theorem mem_foldSources_iff : d ∈ foldSources (Text.lowerCode c) ↔ Text.sameLetter c d = true := by
  rw [foldSources, List.mem_append, List.mem_flatMap, Text.mem_lowerSources_iff, Text.sameLetter_iff]
  constructor
  · rintro (hlower | ⟨sibling, hsibling, hsource⟩)
    · exact .inl hlower.symm
    · rw [Text.mem_lowerSources_iff] at hsource
      exact .inr (hsource ▸ hsibling)
  · rintro (hlower | hsibling)
    · exact .inl hlower.symm
    · exact .inr ⟨_, hsibling, Text.mem_lowerSources_iff.2 rfl⟩

/-- **A range that ignores case** accepts what is the same letter as one of its code points. -/
theorem Member.accepts_range_iff : (range first last).accepts .unicode ch = true ↔
    ∃ d, first ≤ d ∧ d ≤ last ∧ Text.sameLetter d ch.toNat = true := by
  simp only [accepts, between, List.any_eq_true, mem_foldSources_iff, Bool.and_eq_true, decide_eq_true_eq]
  constructor
  · rintro ⟨d, hsame, hfirst, hlast⟩
    exact ⟨d, hfirst, hlast, Text.sameLetter_comm.1 hsame⟩
  · rintro ⟨d, hfirst, hlast, hsame⟩
    exact ⟨d, Text.sameLetter_comm.1 hsame, hfirst, hlast⟩

/-- A single code point of the basic plane that ignores case is a range by itself. -/
theorem Member.accepts_single (h : code ≤ 0xffff) :
    (single code).accepts .unicode ch = (range code code).accepts .unicode ch := by
  rw [Bool.eq_iff_iff, accepts_range_iff]
  simp only [accepts, if_pos h]
  constructor
  · intro hsame
    exact ⟨code, Nat.le_refl code, Nat.le_refl code, hsame⟩
  · rintro ⟨d, hfirst, hlast, hsame⟩
    obtain rfl := Nat.le_antisymm hlast hfirst
    exact hsame

end

end Pattern

end RecordRules
