import RecordRules.Frame
import RecordRules.Host.Standard
import RecordRules.Proofs.Outcome

/-!
# Frames row by row

A rule set that has been read can be written as declarations of its invocations, and these are read
as the same rule set (`parseRuleset_declarations`). So it makes no difference for an evaluation
whether it gets declarations as they were written or the rule set that was read from them
(`Registry.evaluate_declarations`), and evaluating a frame is evaluating its rows one after the other
(`Registry.evaluateFrame_row_by_row`). Only a frame without rows differs: its declarations are read
although there is nothing to evaluate.
-/

namespace RecordRules

variable {r : Registry Check} {f : Frame} {declarations : Declarations}

/-! ## Declarations of what was read -/

/-- Invocations are declared as they are. -/
theorem parseDeclaration_invocations (field : String) (invocations : List Invocation) :
    parseDeclaration field (.list (invocations.map .rule)) = .ok invocations := by
  rw [parseDeclaration, mapM_eq_ok_iff, List.forall₂_map_left_iff]
  exact List.forall₂_same.2 fun _ _ => rfl

/-- **A rule set is read back** from the declarations of its invocations. -/
theorem parseRuleset_declarations (rules : Ruleset) :
    parseRuleset rules.declarations = .ok rules := by
  rw [parseRuleset, mapM_eq_ok_iff, Ruleset.declarations, List.forall₂_map_left_iff]
  refine List.forall₂_same.2 fun (field, invocations) _ => ?_
  simp only [parseDeclaration_invocations]
  rfl

/-- Declarations and the rule set that was read from them are evaluated alike. -/
theorem Registry.evaluate_declarations {rules : Ruleset} (r : Registry Check) (record : Record)
    (h : parseRuleset declarations = .ok rules) :
    r.evaluate record rules.declarations = r.evaluate record declarations := by
  rw [evaluate_of_parsed (parseRuleset_declarations rules), evaluate_of_parsed h]

/-! ## Rows -/

/-- A frame with rows has records. -/
theorem Frame.records_ne_nil (h : 0 < f.height) : f.records ≠ [] := by
  have hlength : f.records.length = f.height := by simp [Frame.records]
  exact List.ne_nil_of_length_pos (hlength ▸ h)

/-- Declarations that make no rule set are found at the first row. -/
theorem Registry.mapM_evaluate_of_rejected {records : List Record} {e : RulesetError}
    (hne : records ≠ []) (h : parseRuleset declarations = .error e) :
    records.mapM (r.evaluate · declarations) = .error (.ruleset e) := by
  obtain ⟨record, rest, rfl⟩ := List.exists_cons_of_ne_nil hne
  have hfirst : r.evaluate record declarations = .error (.ruleset e) := evaluate_rejected_iff.2 h
  exact mapM_eq_error_iff.2 ⟨[], record, rest, rfl, by simp, hfirst⟩

/-- A frame with rows is evaluated row by row. -/
theorem Registry.evaluateFrame_eq_mapM (h : 0 < f.height) :
    r.evaluateFrame f declarations = f.records.mapM (r.evaluate · declarations) := by
  rw [evaluateFrame]
  cases hparse : parseRuleset declarations with
  | error e =>
    rw [mapM_evaluate_of_rejected (Frame.records_ne_nil h) hparse]
    rfl
  | ok rules =>
    have hrows : (r.evaluate · rules.declarations) = (r.evaluate · declarations) :=
      funext fun record => r.evaluate_declarations record hparse
    change f.records.mapM (r.evaluate · rules.declarations) = _
    rw [hrows]

/-- **A frame is evaluated row by row.** A frame with rows has the results of its rows in order, each
evaluated against the declarations as they were written, or the error of the first row that has one.
The rule set that is handed on to the rows is read as itself. -/
theorem Registry.evaluateFrame_row_by_row (r : Registry Check) (declarations : Declarations)
    (h : 0 < f.height) :
    (∀ results, r.evaluateFrame f declarations = .ok results ↔
      List.Forall₂ (fun record result => r.evaluate record declarations = .ok result)
        f.records results) ∧
    (∀ e, r.evaluateFrame f declarations = .error e ↔ ∃ before record after,
      f.records = before ++ record :: after ∧
        (∀ earlier ∈ before, ∃ result, r.evaluate earlier declarations = .ok result) ∧
          r.evaluate record declarations = .error e) ∧
    ∀ rules, parseRuleset declarations = .ok rules → parseRuleset rules.declarations = .ok rules := by
  rw [evaluateFrame_eq_mapM h]
  exact ⟨fun _ => mapM_eq_ok_iff, fun _ => mapM_eq_error_iff,
    fun rules _ => parseRuleset_declarations rules⟩

/-- A rule without its parameter passes the gap in the first row and is at fault in the second, although
the third row would fail another rule. -/
theorem Registry.evaluateFrame_row_by_row_fault :
    let r := builtins (.standard ⟨2026, 6, 15, rfl⟩)
    let f : Frame := ⟨[("code", [.null, .text "ab", .null]), ("name", [.text "x", .text "y", .null])]⟩
    let declarations : Declarations :=
      [("code", .tuple [.text "max_len", .rule ⟨"alpha", some "a|b"⟩]), ("name", .text "required|alpha")]
    let e : EvaluationError := .routine ⟨"code", "max_len", .missingParam "max_len"⟩
    0 < f.height ∧ r.evaluateFrame f declarations = .error e := by
  intro r f declarations e
  have hheight : 0 < f.height := by decide
  have hfirst : r.evaluate [("code", .null), ("name", .text "x")] declarations = .ok ⟨[]⟩ := rfl
  have hsecond : r.evaluate [("code", .text "ab"), ("name", .text "y")] declarations = .error e := rfl
  refine ⟨hheight, ((r.evaluateFrame_row_by_row declarations hheight).2.1 e).2 ?_⟩
  exact ⟨[[("code", .null), ("name", .text "x")]], _, _, rfl, by simpa using ⟨_, hfirst⟩, hsecond⟩

end RecordRules
