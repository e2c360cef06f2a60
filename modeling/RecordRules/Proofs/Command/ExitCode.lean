import RecordRules.Display.Plain
import RecordRules.Proofs.Display.Failures
import RecordRules.Proofs.Message.Bundled
import RecordRules.Proofs.Report.Accounting
import RecordRules.Command.Run

/-!
# Exit codes of validations

A validation that has no usable inputs, or a record that cannot be evaluated, is refused; otherwise it
ends with a code that tells whether all records are in order, however the report is presented
(`Validation.respond_cases`). On a screen that accepts what is to be shown the exit code says so
(`Validation.tells_on`), and since this determines the code (`Loads.Tells.exitCode_eq`), it depends on no
option. A screen that refuses a text makes it 1 whatever became of the inputs: `Validation.run_tells`
says both, and `Validation.run_refused_message` has a rule set whose name for a rule is such a text.
-/

namespace RecordRules

/-! ## Screens -/

/-- Nothing is done but lines are shown: no report is printed, as tables or as a text, and no document is
written. -/
def Ending.NoReport (e : Ending) : Prop := ∀ action ∈ e.done, ∃ markup, action = .print (.line markup)

namespace Outcome

variable {screen : Screen} {o : Outcome}

/-- A screen accepts all that is to be shown. -/
def IsAcceptedBy (screen : Screen) (o : Outcome) : Prop :=
  ∀ item, Action.print item ∈ o.actions → screen.Accepts item

/-- Nothing is in the way of what is to be done on a screen that accepts all that is to be shown. -/
theorem isAcceptedBy_iff :
    o.IsAcceptedBy screen ↔ o.actions.findSome? screen.obstacle? = none := by
  rw [List.findSome?_eq_none_iff]
  constructor
  · intro h action haction
    cases action with
    | print item => exact Screen.complaintAbout?_eq_none_iff.2 (h item haction)
    | output | write => rfl
  · exact fun h item hitem => Screen.complaintAbout?_eq_none_iff.1 (h _ hitem)

/-- On a screen that accepts all that is to be shown a command ends as it would. -/
theorem on_of_isAcceptedBy (h : o.IsAcceptedBy screen) :
    o.on screen = ⟨o.exitCode, o.actions, o.crash.map .crash⟩ := by
  rw [on, isAcceptedBy_iff.1 h]

/-- On any other screen it ends with the code 1. -/
theorem on_of_not_isAcceptedBy (h : ¬o.IsAcceptedBy screen) :
    (o.on screen).exitCode = 1 ∧ ∃ complaint, (o.on screen).halt = some (.refused complaint) := by
  obtain ⟨complaint, hcomplaint⟩ := Option.ne_none_iff_exists'.1 (mt isAcceptedBy_iff.2 h)
  rw [on, hcomplaint]
  exact ⟨rfl, complaint, rfl⟩

/-- No more is done on a screen than was to be done. -/
theorem done_on_subset : (o.on screen).done ⊆ o.actions := by
  rw [on]
  split
  · exact List.Subset.refl _
  · exact List.takeWhile_subset _

/-- What a refusal is about to do is to show lines, if that is what went before. -/
theorem exists_line_of_mem_refused {actions : List Action} {title message : String} {action : Action}
    (hactions : ∀ action ∈ actions, ∃ markup, action = .print (.line markup))
    (h : action ∈ (refused actions title message).actions) : ∃ markup, action = .print (.line markup) := by
  rcases List.mem_append.1 h with h | h
  · exact hactions action h
  · exact ⟨_, List.mem_singleton.1 h⟩

end Outcome

/-! ## Inputs -/

/-- The result of a record that is in order is the one without failures. -/
theorem Result.eq_valid_iff {r : Result} : r = .valid ↔ r.failures = [] := by
  rw [valid, Result.mk.injEq]

namespace Validation

variable {v : Validation} {find : Path → Entry String} {host : Host} {generatedAt : String}
  {loads : Loads} {inputs : Inputs} {results : List Result} {report : Report} {actions : List Action}
  {screen : Screen} {ending : Ending}

/-- Loading fails only in ways that a command reports. -/
structure Loads.Reported (loads : Loads) : Prop where
  rules : ∀ e, loads.rules = .error e → e.isReported = true
  records : ∀ e, loads.records = .error e → e.isReported = true

/-- What an evaluation of one of the records leads to. -/
def Loads.Evaluates (loads : Loads) (host : Host) (outcome : Except EvaluationError Result) : Prop :=
  ∃ rules records record, loads.rules = .ok rules ∧ loads.records = .ok records ∧ record ∈ records ∧
    (Registry.builtins host).evaluate record rules.declarations = outcome

/-- Something cannot be loaded, or a record cannot be evaluated. -/
def Loads.Unusable (loads : Loads) (host : Host) : Prop :=
  Raises loads.rules ∨ Raises loads.records ∨ Raises loads.catalog ∨
    ∃ e, loads.Evaluates host (.error e)

/-- The inputs cannot be loaded if one of the three loads fails. -/
theorem Loads.raises_inputs_iff :
    Raises loads.inputs ↔ Raises loads.rules ∨ Raises loads.records ∨ Raises loads.catalog := by
  simp only [inputs]
  rw [raises_bind_iff fun _ => raises_bind_iff fun _ => raises_bind_pure]
  simp only [raises_mapError]

/-- The inputs are loaded if all three loads succeed. -/
theorem Loads.inputs_eq_ok_iff : loads.inputs = .ok inputs ↔ loads.rules = .ok inputs.rules ∧
    loads.records = .ok inputs.records ∧ loads.catalog = .ok inputs.catalog := by
  simp only [Loads.inputs, bind_eq_ok_iff, mapError_eq_ok_iff]
  constructor
  · rintro ⟨rules, hrules, records, hrecords, catalog, hcatalog, h⟩
    cases h
    exact ⟨hrules, hrecords, hcatalog⟩
  · rintro ⟨hrules, hrecords, hcatalog⟩
    exact ⟨_, hrules, _, hrecords, _, hcatalog, rfl⟩

/-- The evaluations of loaded inputs are those of their records. -/
theorem Loads.evaluates_iff (h : loads.inputs = .ok inputs)
    {outcome : Except EvaluationError Result} : loads.Evaluates host outcome ↔
      outcome ∈ inputs.records.map
        ((Registry.builtins host).evaluate · inputs.rules.declarations) := by
  obtain ⟨hrules, hrecords, -⟩ := inputs_eq_ok_iff.1 h
  simp [Evaluates, hrules, hrecords]

/-- Loaded inputs cannot be used if a record cannot be evaluated. -/
theorem Loads.unusable_iff (h : loads.inputs = .ok inputs) :
    loads.Unusable host ↔ Raises (inputs.results host) := by
  obtain ⟨hrules, hrecords, hcatalog⟩ := inputs_eq_ok_iff.1 h
  simp only [Unusable, hrules, hrecords, hcatalog, raises_ok, false_or, evaluates_iff h,
    Inputs.results, raises_mapM_iff, List.mem_map]
  constructor
  · rintro ⟨e, record, hmem, he⟩
    exact ⟨record, hmem, e, he⟩
  · rintro ⟨record, hmem, e, he⟩
    exact ⟨e, record, hmem, he⟩

/-- When every record can be evaluated, the evaluations lead to their results. -/
theorem Loads.evaluates_iff_of_results (h : loads.inputs = .ok inputs)
    (hresults : inputs.results host = .ok results) {outcome : Except EvaluationError Result} :
    loads.Evaluates host outcome ↔ outcome ∈ results.map .ok := by
  rw [evaluates_iff h, map_eq_of_mapM_eq_ok hresults]

/-- An error in loading is reported if those of the loads are. -/
theorem Loads.Reported.of_inputs (hreported : loads.Reported) {e : LoadError}
    (h : loads.inputs = .error (.load e)) : e.isReported = true := by
  simp only [Loads.inputs, bind_eq_error_iff, mapError_eq_error_iff] at h
  obtain ⟨e', hrules, h⟩ | ⟨rules, -, h⟩ := h
  · cases h
    exact hreported.rules e hrules
  obtain ⟨e', hrecords, h⟩ | ⟨records, -, h⟩ := h
  · cases h
    exact hreported.records e hrecords
  obtain ⟨e', -, h⟩ | ⟨catalog, -, h⟩ := h
  · cases h
  · cases h

/-! ## Outcomes -/

/-- The document can be written where it is asked for. -/
def Writable (v : Validation) (find : Path → Entry String) : Prop :=
  ∀ path ∈ v.markdown, writeFault? find path = none

/-- Whether a document is written or not, the exit code tells whether the report has failures. -/
theorem conclude_exitCode (hwritable : v.Writable find) :
    (v.conclude find report actions).exitCode = if report.allValid then 0 else 1 := by
  rw [conclude]
  split
  · rfl
  · next path hpath => simp only [hwritable path hpath]

/-- However a report is presented, the exit code tells whether it has failures. -/
theorem present_exitCode (hwritable : v.Writable find)
    (hrows : report.allValid = true → report.rows = []) :
    (v.present find host report actions).exitCode = if report.allValid then 0 else 1 := by
  rw [present]
  split
  · exact conclude_exitCode hwritable
  · cases hfailures : report.showFailures v.limit host.writing with
    | ok failures => exact conclude_exitCode hwritable
    | error e =>
      -- Without rows there is nothing that cannot be shown.
      have hinvalid : ¬ report.allValid = true := fun hvalid => by
        simp [Report.showFailures, hrows hvalid] at hfailures
      rw [if_neg hinvalid]
      rfl

/-- When every record can be evaluated, the exit code tells whether all are in order. -/
theorem evaluate_exitCode (hwritable : v.Writable find) (h : inputs.results host = .ok results) :
    (v.evaluate find host generatedAt inputs actions).exitCode =
      if results.all (·.isValid) then 0 else 1 := by
  simp only [evaluate, h]
  cases hreport : Report.ofResults inputs.catalog v.data.name generatedAt results with
  | ok report =>
    have hvalid := Report.allValid_iff_of_ofResults hreport
    rw [present_exitCode hwritable (Report.rows_eq_nil_of_ofResults hreport)]
    simp only [hvalid, List.all_eq_true]
  | error fault =>
    obtain ⟨r, hr, hinvalid⟩ := Report.exists_not_isValid_of_raises ⟨fault, hreport⟩
    rw [if_neg fun h => by simpa [hinvalid] using List.all_eq_true.1 h r hr]
    rfl

/-- Remarks are lines. -/
theorem exists_line_of_mem_remarks {lines : List String} {action : Action}
    (h : action ∈ v.remarks lines) : ∃ markup, action = .print (.line markup) := by
  rw [remarks] at h
  split at h
  · cases h
  · obtain ⟨markup, -, rfl⟩ := List.mem_map.1 h
    exact ⟨markup, rfl⟩

/-- **A validation is refused or ends with a report**, and which of these does not depend on how the
report is presented. -/
theorem respond_cases (host : Host) (generatedAt : String) (hwritable : v.Writable find)
    (hreported : loads.Reported) :
    let o := v.respond find host generatedAt loads
    (loads.Unusable host ∧ o.exitCode = 2 ∧
      ∀ action ∈ o.actions, ∃ markup, action = .print (.line markup)) ∨
    ∃ inputs results, loads.inputs = .ok inputs ∧ inputs.results host = .ok results ∧
      o.exitCode = if results.all (·.isValid) then 0 else 1 := by
  cases hinputs : loads.inputs with
  | error e =>
    left
    have hunusable : loads.Unusable host := by
      have := Loads.raises_inputs_iff.1 ⟨e, hinputs⟩
      tauto
    cases e with
    | load e =>
      have he : e.isReported = true := hreported.of_inputs hinputs
      simp only [respond, hinputs, he, if_true]
      exact ⟨hunusable, rfl, fun _ =>
        Outcome.exists_line_of_mem_refused fun _ => exists_line_of_mem_remarks⟩
    | catalog e =>
      simp only [respond, hinputs]
      exact ⟨hunusable, rfl, fun _ =>
        Outcome.exists_line_of_mem_refused fun _ => exists_line_of_mem_remarks⟩
  | ok inputs =>
    cases hresults : inputs.results host with
    | error e =>
      left
      refine ⟨(Loads.unusable_iff hinputs).2 ⟨e, hresults⟩, ?_⟩
      simp only [respond, hinputs, evaluate, hresults]
      refine ⟨rfl, fun _ => Outcome.exists_line_of_mem_refused fun action haction => ?_⟩
      rcases List.mem_append.1 haction with haction | haction <;>
        exact exists_line_of_mem_remarks haction
    | ok results =>
      right
      refine ⟨inputs, results, rfl, hresults, ?_⟩
      simp only [respond, hinputs]
      exact evaluate_exitCode hwritable hresults

/-! ## What the exit code tells -/

/-- The exit code at the end of a validation tells what became of it: it is 2 when the inputs cannot be
used, and otherwise 1 or 0, as some record has a failure or none has. With the code 2 there is no
report. -/
structure Loads.Tells (loads : Loads) (host : Host) (ending : Ending) : Prop where
  unusable : ending.exitCode = 2 ↔ loads.Unusable host
  invalid : ¬ loads.Unusable host →
    (ending.exitCode = 1 ↔ ∃ result, loads.Evaluates host (.ok result) ∧ result.failures ≠ [])
  valid : ¬ loads.Unusable host →
    (ending.exitCode = 0 ↔ ∀ outcome, loads.Evaluates host outcome → outcome = .ok .valid)
  noReport : ending.exitCode = 2 → ending.NoReport

/-- There is no report on any screen when the inputs cannot be used. -/
theorem noReport_on (screen : Screen) (generatedAt : String) (hwritable : v.Writable find)
    (hreported : loads.Reported) (hunusable : loads.Unusable host) :
    ((v.respond find host generatedAt loads).on screen).NoReport := by
  obtain ⟨-, -, hlines⟩ | ⟨inputs, results, hinputs, hresults, -⟩ :=
    respond_cases host generatedAt hwritable hreported
  · exact fun action haction => hlines action (Outcome.done_on_subset haction)
  · rw [Loads.unusable_iff hinputs, hresults] at hunusable
    exact absurd hunusable (raises_ok results)

/-- **On a screen that accepts all that is to be shown** the exit code tells what became of the
validation. -/
theorem tells_on (hwritable : v.Writable find) (hreported : loads.Reported)
    (haccepted : (v.respond find host generatedAt loads).IsAcceptedBy screen) :
    loads.Tells host ((v.respond find host generatedAt loads).on screen) := by
  have hon := Outcome.on_of_isAcceptedBy haccepted
  obtain ⟨hunusable, hcode, -⟩ | ⟨inputs, results, hinputs, hresults, hcode⟩ :=
    respond_cases host generatedAt hwritable hreported
  · have hcode' : ((v.respond find host generatedAt loads).on screen).exitCode = 2 := by rw [hon, hcode]
    exact ⟨iff_of_true hcode' hunusable, absurd hunusable, absurd hunusable,
      fun _ => noReport_on screen generatedAt hwritable hreported hunusable⟩
  · have husable : ¬ loads.Unusable host := by
      rw [Loads.unusable_iff hinputs, hresults]
      exact raises_ok results
    have hcode' : ((v.respond find host generatedAt loads).on screen).exitCode =
        if results.all (·.isValid) then 0 else 1 := by rw [hon, hcode]
    have hne : ((v.respond find host generatedAt loads).on screen).exitCode ≠ 2 := by
      rw [hcode']
      split <;> decide
    refine ⟨iff_of_false hne husable, fun _ => ?_, fun _ => ?_, fun h => absurd h hne⟩
    · rw [hcode']
      simp [Loads.evaluates_iff_of_results hinputs hresults, Result.isValid]
    · rw [hcode']
      simp [Loads.evaluates_iff_of_results hinputs hresults, Result.isValid, Result.eq_valid_iff]

/-- **The exit code is determined** by the rule set and the records, and by whether there is a
catalog. -/
theorem Loads.Tells.exitCode_eq {catalog : Except CatalogError Catalog} {ending' : Ending}
    (h : loads.Tells host ending) (h' : Loads.Tells { loads with catalog } host ending')
    (hcatalog : Raises catalog ↔ Raises loads.catalog) : ending'.exitCode = ending.exitCode := by
  have hunusable : Loads.Unusable { loads with catalog } host ↔ loads.Unusable host :=
    or_congr Iff.rfl (or_congr Iff.rfl (or_congr hcatalog Iff.rfl))
  by_cases hbad : loads.Unusable host
  · rw [h.unusable.2 hbad, h'.unusable.2 (hunusable.2 hbad)]
  have hbad' := mt hunusable.1 hbad
  by_cases hinvalid : ∃ result, loads.Evaluates host (.ok result) ∧ result.failures ≠ []
  · rw [(h.invalid hbad).2 hinvalid, (h'.invalid hbad').2 hinvalid]
  · have hvalid : ∀ outcome, loads.Evaluates host outcome → outcome = .ok .valid := by
      rintro (e | result) houtcome
      · exact absurd (.inr (.inr (.inr ⟨e, houtcome⟩))) hbad
      · have hnone : result.failures = [] := by_contra fun h => hinvalid ⟨result, houtcome, h⟩
        rw [Result.eq_valid_iff.2 hnone]
    rw [(h.valid hbad).2 hvalid, (h'.valid hbad').2 hvalid]

/-- The catalogs of the library can be loaded. -/
theorem raises_load_of_mem_locales {locale : String} (h : locale ∈ Catalog.locales) :
    ¬ Raises (Catalog.load locale) := by
  obtain ⟨entry, hentry, rfl⟩ := List.mem_map.1 h
  rw [Catalog.load_bundled entry hentry]
  exact raises_ok _

/-- **Exit codes of validations** of files that are there, on a screen. Whatever loading leads to, the exit
code tells what became of it if the screen accepts all that is to be shown, and is 1 if it refuses some of
it; and without usable inputs there is no report. With the locales of the library and nothing refused the
code depends neither on the locale nor on how the report is presented. -/
theorem run_tells (screen : Screen) (host : Host) (generatedAt : String)
    (hdata : (find v.data).isFile = true) (hrules : (find v.rules).isFile = true)
    (hwritable : v.Writable find) :
    v.run find host generatedAt = v.respond find host generatedAt (v.loads find host) ∧
      (∀ loads : Loads, loads.Reported →
        let o := v.respond find host generatedAt loads
        (o.IsAcceptedBy screen → loads.Tells host (o.on screen)) ∧
          (¬o.IsAcceptedBy screen → (o.on screen).exitCode = 1) ∧
          (loads.Unusable host → (o.on screen).NoReport)) ∧
      ((v.loads find host).Reported → v.locale ∈ Catalog.locales →
        ∀ locale ∈ Catalog.locales, ∀ markdown asJson limit,
          let v' := { v with locale, markdown, asJson, limit }
          v'.Writable find → (v.run find host generatedAt).IsAcceptedBy screen →
            (v'.run find host generatedAt).IsAcceptedBy screen →
            ((v'.run find host generatedAt).on screen).exitCode =
              ((v.run find host generatedAt).on screen).exitCode) := by
  have hrun (v' : Validation) (hdata' : v'.data = v.data) (hrules' : v'.rules = v.rules) :
      v'.run find host generatedAt = v'.respond find host generatedAt (v'.loads find host) := by
    simp [run, hdata', hrules', hdata, hrules]
  refine ⟨hrun v rfl rfl, fun loads hreported => ⟨tells_on hwritable hreported, fun hrefused =>
    (Outcome.on_of_not_isAcceptedBy hrefused).1, noReport_on screen generatedAt hwritable hreported⟩, ?_⟩
  intro hreported hlocale locale hlocale' markdown asJson limit v' hwritable' haccepted haccepted'
  have hloads : v'.loads find host = { v.loads find host with catalog := Catalog.load locale } := rfl
  have hreported' : (v'.loads find host).Reported := by
    rw [hloads]
    exact ⟨hreported.rules, hreported.records⟩
  rw [hrun v rfl rfl] at haccepted ⊢
  rw [hrun v' rfl rfl] at haccepted' ⊢
  have htells := tells_on hwritable hreported haccepted
  have htells' := tells_on hwritable' hreported' haccepted'
  rw [hloads] at htells' ⊢
  exact htells.exitCode_eq htells'
    (iff_of_false (raises_load_of_mem_locales hlocale') (raises_load_of_mem_locales hlocale))

/-- The first record has a failure, and the last one makes a rule give up. -/
theorem run_tells_late_fault :
    let host : Host := .standard ⟨2026, 6, 15, rfl⟩
    let v : Validation := ⟨.ofText "data.json", .ofText "rules.json", "es", some (.ofText "report.md"),
      true, 1⟩
    let data := "[\x7b\x7d, \x7b\"a\": \"x\"\x7d]"
    let rules := "\x7b\"a\": [\"required\", \"min_len,x\"]\x7d"
    let find : Path → Entry String := fun path =>
      if path = v.data then .file data else if path = v.rules then .file rules else .absent
    let v' := { v with locale := "en", markdown := none, asJson := false, limit := 50 }
    (find v.data).isFile = true ∧ (find v.rules).isFile = true ∧ v.Writable find ∧ v'.Writable find ∧
      (v.run find host "").IsAcceptedBy .ofMarks ∧ (v'.run find host "").IsAcceptedBy .ofMarks ∧
      (v.loads find host).Reported ∧
      (v.loads find host).Evaluates host (.ok ⟨[⟨"a", .null, "required", .null⟩]⟩) ∧
      ((v.run find host "").on .ofMarks).exitCode = 2 ∧ ((v.run find host "").on .ofMarks).NoReport ∧
      ((v'.run find host "").on .ofMarks).exitCode = 2 := by
  -- What is to be evaluated gets its value before the terms in it get names, which keeps it closed.
  have hreadRules : Ruleset.load (.ofText "rules.json")
      (.file "\x7b\"a\": [\"required\", \"min_len,x\"]\x7d") Json.usualDepth =
        .ok [("a", [⟨"required", none⟩, ⟨"min_len", some "x"⟩])] := rfl
  have hreadRecords : Record.load (.ofText "data.json") (.file "[\x7b\x7d, \x7b\"a\": \"x\"\x7d]")
      Csv.records Json.usualDepth = .ok [[], [("a", .text "x")]] := rfl
  intro host v data rules find v'
  have hfindData : find v.data = .file data := if_pos rfl
  have hfindRules : find v.rules = .file rules := rfl
  have hdata : (find v.data).isFile = true := by rw [hfindData, Entry.isFile]
  have hrules : (find v.rules).isFile = true := by rw [hfindRules, Entry.isFile]
  have hwritable : v.Writable find := by
    rintro path ⟨⟩
    rfl
  have hwritable' : v'.Writable find := fun _ => nofun
  have haccepted : (v.run find host "").IsAcceptedBy .ofMarks :=
    Outcome.isAcceptedBy_iff.2 (by decide +kernel)
  have haccepted' : (v'.run find host "").IsAcceptedBy .ofMarks :=
    Outcome.isAcceptedBy_iff.2 (by decide +kernel)
  have hloadRules : (v.loads find host).rules =
      .ok [("a", [⟨"required", none⟩, ⟨"min_len", some "x"⟩])] := by
    simp only [loads, hfindRules]
    exact hreadRules
  have hloadRecords : (v.loads find host).records = .ok [[], [("a", .text "x")]] := by
    simp only [loads, hfindData]
    exact hreadRecords
  have hreported : (v.loads find host).Reported := by
    constructor <;> intro e he
    · rw [hloadRules] at he
      cases he
    · rw [hloadRecords] at he
      cases he
  have hfirst : (v.loads find host).Evaluates host (.ok ⟨[⟨"a", .null, "required", .null⟩]⟩) :=
    ⟨_, _, [], hloadRules, hloadRecords, .head _, rfl⟩
  have hlast : (v.loads find host).Evaluates host
      (.error (.routine ⟨"a", "min_len", .notInteger "min_len" "x"⟩)) :=
    ⟨_, _, _, hloadRules, hloadRecords, .tail _ (.head _), rfl⟩
  obtain ⟨hrun, htells, hsame⟩ := run_tells .ofMarks host "" hdata hrules hwritable
  have htold := (htells _ hreported).1 (hrun ▸ haccepted)
  have hcode := htold.unusable.2 (.inr (.inr (.inr ⟨_, hlast⟩)))
  have hnone := htold.noReport hcode
  rw [← hrun] at hcode hnone
  refine ⟨hdata, hrules, hwritable, hwritable', haccepted, haccepted', hreported, hfirst, hcode, hnone, ?_⟩
  exact (hsame hreported (.tail _ (.head _)) "en" (.head _) none false 50 hwritable' haccepted
    haccepted').trans hcode

/-- A rule without a definition makes the inputs unusable, and the name of this one closes what is not open:
the message about it is refused, and the exit code is 1. -/
theorem run_refused_message :
    let host : Host := .standard ⟨2026, 6, 15, rfl⟩
    let v : Validation := ⟨.ofText "data.json", .ofText "rules.json", "en", none, false, 50⟩
    let data := "[\x7b\"n\": \"1\"\x7d]"
    let rules := "\x7b\"n\": \"[/x]\"\x7d"
    let find : Path → Entry String := fun path =>
      if path = v.data then .file data else if path = v.rules then .file rules else .absent
    (find v.data).isFile = true ∧ (find v.rules).isFile = true ∧ v.Writable find ∧
      (v.loads find host).Reported ∧ (v.loads find host).Unusable host ∧
      ((v.run find host "").on .ofMarks).exitCode = 1 := by
  have hreadRules : Ruleset.load (.ofText "rules.json") (.file "\x7b\"n\": \"[/x]\"\x7d")
      Json.usualDepth = .ok [("n", [⟨"[/x]", none⟩])] := rfl
  have hreadRecords : Record.load (.ofText "data.json") (.file "[\x7b\"n\": \"1\"\x7d]")
      Csv.records Json.usualDepth = .ok [[("n", .text "1")]] := rfl
  intro host v data rules find
  have hfindData : find v.data = .file data := if_pos rfl
  have hfindRules : find v.rules = .file rules := rfl
  have hloadRules : (v.loads find host).rules = .ok [("n", [⟨"[/x]", none⟩])] := by
    simp only [loads, hfindRules]
    exact hreadRules
  have hloadRecords : (v.loads find host).records = .ok [[("n", .text "1")]] := by
    simp only [loads, hfindData]
    exact hreadRecords
  have hreported : (v.loads find host).Reported := by
    constructor <;> intro e he
    · rw [hloadRules] at he
      cases he
    · rw [hloadRecords] at he
      cases he
  obtain ⟨e, hunknown⟩ : Raises ((Registry.builtins host).evaluate [("n", .text "1")]
      (Ruleset.declarations [("n", [⟨"[/x]", none⟩])])) := isOk_eq_false_iff.1 (by decide +kernel)
  have hevaluates : (v.loads find host).Evaluates host (.error e) :=
    ⟨_, _, _, hloadRules, hloadRecords, .head _, hunknown⟩
  refine ⟨?_, ?_, fun _ => nofun, hreported, .inr (.inr (.inr ⟨e, hevaluates⟩)), by decide +kernel⟩
  · rw [hfindData, Entry.isFile]
  · rw [hfindRules, Entry.isFile]

/-- A path that closes what is not open is refused after the document has been written there, although every
record is in order. -/
example :
    let host : Host := .standard ⟨2026, 6, 15, rfl⟩
    let v : Validation := ⟨.ofText "data.json", .ofText "rules.json", "en", some (.ofText "out[/x]/r.md"),
      false, 50⟩
    let find : Path → Entry String := fun path =>
      if path = v.data then .file "[\x7b\"n\": \"1\"\x7d]"
      else if path = v.rules then .file "\x7b\"n\": \"required\"\x7d" else .absent
    (v.run find host "").exitCode = 0 ∧ ((v.run find host "").on .ofMarks).exitCode = 1 := by
  decide +kernel

end Validation

end RecordRules
