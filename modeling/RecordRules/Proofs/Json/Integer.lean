import Mathlib.Data.List.TakeWhile
import RecordRules.Proofs.Json.Limits
import RecordRules.Proofs.Number.Written

/-!
# Integers in JSON

The text of an integer is a JSON text, and its value is the integer (`Json.read_integerText`).
-/

namespace RecordRules.Json

variable {n : Int} {s : List Char} {depthLimit : Nat}

/-- Digits without a leading zero are the whole part of a number. -/
theorem wholeDigits_of_isCanonical (h : Check.isCanonical s = true) : wholeDigits s = s := by
  have hdigits := Check.isDigit_of_isCanonical h
  unfold wholeDigits
  split
  · next rest =>
    unfold Check.isCanonical at h
    split at h <;> simp_all
  · exact List.takeWhile_eq_self_iff.2 hdigits

/-- Digits of which there are not too many are the value of a number without a fraction and an
exponent. -/
theorem numberValue_written (h : Number.digitCount n.natAbs ≤ Number.digitLimit) :
    numberValue (decide (n < 0)) (Number.written n.natAbs) [] [] = .ok (.int n) := by
  have hlimit : ¬Number.digitLimit < (Number.written n.natAbs).length := Nat.not_lt.2 h
  simp only [numberValue, List.isEmpty_nil, Bool.and_self, if_true, if_neg hlimit,
    Number.ofDigits_written, Number.signed_natAbs]

/-- The text of an integer is read as a number to its end. -/
theorem readNumber_integerText (place : Nat) (h : Number.digitCount n.natAbs ≤ Number.digitLimit) :
    ∃ place', readNumber ⟨(Number.integerText n).toList, place⟩ = .ok (.int n, ⟨[], place'⟩) := by
  have hwhole : wholeDigits (Number.written n.natAbs) = Number.written n.natAbs :=
    wholeDigits_of_isCanonical (Check.isCanonical_written n.natAbs)
  have hne : (Number.written n.natAbs).isEmpty = false :=
    List.isEmpty_eq_false_iff.2 Nat.toDigits_ne_nil
  have hvalue := numberValue_written h
  by_cases hsign : n < 0
  · rw [decide_eq_true hsign] at hvalue
    rw [Number.toList_integerText, if_pos hsign]
    simp [readNumber, hwhole, hne, fraction, exponent, hvalue, Source.skip, bind, Except.bind,
      Nat.add_comm 1]
    exact ⟨_, rfl⟩
  · rw [decide_eq_false hsign] at hvalue
    rw [Number.toList_integerText, if_neg hsign]
    have hhead : ∀ rest, Number.written n.natAbs ≠ '-' :: rest := by
      intro rest hcons
      have hdigit := Number.isDigit_of_mem_written (c := '-') (n := n.natAbs) (by simp [hcons])
      cases hdigit
    simp [readNumber, hwhole, hne, fraction, exponent, hvalue, Source.skip, bind, Except.bind]
    exact ⟨_, rfl⟩

/-- No word stands for a value at the start of the text of an integer. -/
theorem readScalar_integerText (n : Int) (place : Nat) :
    readScalar ⟨(Number.integerText n).toList, place⟩ =
      readNumber ⟨(Number.integerText n).toList, place⟩ := by
  have hletter : ∀ entry ∈ words, ∃ c ∈ entry.1, c ≠ '-' ∧ c.isDigit = false := by
    have hany : words.all (·.1.any fun c => c != '-' && !c.isDigit) = true := by decide
    simpa using hany
  unfold readScalar
  split
  · next word v hfound =>
    obtain ⟨c, hc, hsign, hdigit⟩ := hletter _ (List.mem_of_find?_eq_some hfound)
    have hprefix := List.find?_some hfound
    exact absurd ((List.isPrefixOf_iff_prefix.1 hprefix).subset hc)
      (Number.not_mem_integerText hsign hdigit)
  · rfl

/-- **An integer is read as itself.** -/
theorem read_integerText (h : Number.digitCount n.natAbs ≤ Number.digitLimit) :
    read depthLimit (Number.integerText n).toList = .ok (.int n) := by
  obtain ⟨place', hnumber⟩ := readNumber_integerText 0 h
  obtain ⟨c, rest, hcons⟩ := List.exists_cons_of_ne_nil (Number.integerText_ne_nil n)
  have hscalar := readScalar_integerText n 0
  rw [hnumber, hcons] at hscalar
  -- A sign and a digit are no mark, no space and no start of a string or of a container.
  have hne : ∀ d : Char, d ≠ '-' → d.isDigit = false → c ≠ d := by
    rintro d hsign hdigit rfl
    exact Number.not_mem_integerText hsign hdigit (by rw [hcons]; exact List.mem_cons_self)
  have hmark : c ≠ '\ufeff' := hne _ (by decide) (by decide)
  have hspace : Source.isSpace c = false := by
    simp [Source.isSpace, hne ' ' (by decide) (by decide), hne '\t' (by decide) (by decide),
      hne '\n' (by decide) (by decide), hne '\r' (by decide) (by decide)]
  have hvalue : readValue depthLimit [] ⟨c :: rest, 0⟩ = .ok (.put (.int n), [], ⟨[], place'⟩) := by
    unfold readValue
    split
    · next h => cases h
    · next h => exact absurd (List.cons.inj h).1 (hne _ (by decide) (by decide))
    · next h => exact absurd (List.cons.inj h).1 (hne _ (by decide) (by decide))
    · next h => exact absurd (List.cons.inj h).1 (hne _ (by decide) (by decide))
    · rw [hscalar]
      rfl
  rw [hcons, read, if_neg (by simpa using hmark), Source.skipSpace_of_not_isSpace hspace, work,
    hvalue]
  rfl

end RecordRules.Json
