import RecordRules.Message.Catalog
import RecordRules.Proofs.Builtin.Failures
import RecordRules.Proofs.Message.Faults
import RecordRules.Proofs.Message.Template

/-!
# Messages of failures

A failure has a message, from the template of its rule or from the default template, unless the
template of its rule asks a text for something that no text has (`Catalog.render_or_default`,
`Catalog.render_asking`). So the failures of an evaluation can be rendered together
(`Catalog.exists_renderAll`).
-/

namespace RecordRules

/-! ## Parameters -/

section
variable {words : List String} {param : Option String}

/-- A parameter is shown as it was given, and a missing one as nothing. -/
theorem Value.paramText_paramValue : (paramValue param).paramText = .ok (param.getD "") := by
  cases param <;> rfl

/-- The items of a list are put together with commas. -/
theorem Value.paramText_listParam :
    (Check.listParam words).paramText = .ok (", ".intercalate words) := by
  have hplain : (words.map Value.text).mapM plain = .ok words := by
    rw [mapM_eq_ok_iff, List.forall₂_map_left_iff]
    exact List.forall₂_same.2 fun _ _ => rfl
  rw [Check.listParam, paramText, hplain]
  rfl

/-- Every parameter that a rule of the library shows can be written. -/
theorem Builtin.exists_paramText_shown (name : String) (param : Option String) :
    ∃ text, (shown name param).paramText = .ok text := by
  have hlist : ∀ read : String → List String,
      ∃ text, ((param.map fun p => Check.listParam (read p)).getD .null).paramText = .ok text := by
    intro read
    cases param with
    | none => exact ⟨_, rfl⟩
    | some p => exact ⟨_, Value.paramText_listParam⟩
  have htext : ∃ text, ((param.map fun p => Value.text (Text.trimmed p)).getD .null).paramText =
      .ok text := by
    cases param <;> exact ⟨_, rfl⟩
  unfold shown
  split
  · exact hlist _
  · exact hlist _
  · exact hlist _
  · exact hlist _
  · exact htext
  · exact ⟨_, Value.paramText_paramValue⟩

end

namespace Catalog

variable {c : Catalog} {f : Failure} {template param : String} {label shown : List Char}
  {segments : List Template.Segment}

/-! ## Slots -/

@[simp] theorem slotText_field : slotText label shown "field".toList = label := rfl

@[simp] theorem slotText_param : slotText label shown "param".toList = shown := rfl

/-! ## Messages -/

/-- The parts of the default template of catalogs that do not give one. -/
def genericSegments : List Template.Segment :=
  [.literal "The ".toList, .slot "field".toList, .literal " field is invalid".toList]

/-- The template for rules without one, in its segments. -/
theorem source_genericSegments :
    String.ofList (Template.source genericSegments) = genericTemplate := by decide

/-- Its slots have names. -/
theorem isSlotName_of_mem_genericSegments (name : List Char)
    (h : .slot name ∈ genericSegments) : Template.isSlotName name = true := by
  obtain rfl : name = "field".toList := by simpa [genericSegments] using h
  decide

/-- The source of segments is formatted by filling the segments. -/
theorem formatValue_source {label param : String}
    (hnames : ∀ name, .slot name ∈ segments → Template.isSlotName name = true) :
    formatValue label param (.text (.ofList (Template.source segments))) =
      .ok (.ofList (Template.filled (slotText label.toList param.toList) segments)) := by
  rw [formatValue, String.toList_ofList, Template.format_source hnames]

/-- The default template takes the place of one that cannot be formatted. -/
theorem render_of_recovers (hdefault : c.default = .text (.ofList (Template.source segments)))
    (hnames : ∀ name, .slot name ∈ segments → Template.isSlotName name = true)
    (hparam : f.param.paramText = .ok param) (htemplate : c.templateFor f.rule = .text template)
    (hrecovers : Template.Recovers
      (Template.format (slotText (c.labelFor f.field).toList param.toList) template.toList)) :
    let slots := slotText (c.labelFor f.field).toList param.toList
    c.render f = .ok (.ofList
      ((Template.format slots template.toList).toOption.getD (Template.filled slots segments))) := by
  intro slots
  simp only [render, hparam, htemplate, hdefault, formatValue_source hnames, Except.mapError,
    bind, Except.bind]
  rw [formatValue]
  cases hformat : Template.format slots template.toList with
  | ok text => rfl
  | error fault => simp only [hrecovers fault hformat]; rfl

/-- **A template that cannot be formatted does not break rendering**, as long as it asks for nothing
that texts lack: the failure has a message, from the default template with the label and the
parameter filled in when the other one has a fault. -/
theorem render_or_default (hdefault : c.default = .text (.ofList (Template.source segments)))
    (hnames : ∀ name, .slot name ∈ segments → Template.isSlotName name = true)
    (hparam : f.param.paramText = .ok param) (htemplate : c.templateFor f.rule = .text template)
    (hasks : ¬Template.Asks template.toList) :
    let slots := slotText (c.labelFor f.field).toList param.toList
    c.render f = .ok (.ofList
      ((Template.format slots template.toList).toOption.getD (Template.filled slots segments))) :=
  render_of_recovers hdefault hnames hparam htemplate (Template.format_recovers hasks)

/-- A slot that is not closed. -/
theorem render_or_default_openSlot :
    let template := "At least \x7bparam\x7d for \x7bfield"
    let c := (ofTemplates [("min_len", template)]).setLabel "pin" "PIN"
    let f : Failure := ⟨"pin", .text "1", "min_len", .text "4"⟩
    c.default = .text (.ofList (Template.source genericSegments)) ∧
      (∀ name, .slot name ∈ genericSegments → Template.isSlotName name = true) ∧
      f.param.paramText = .ok "4" ∧ c.templateFor f.rule = .text template ∧
      ¬Template.Asks template.toList ∧ c.render f = .ok "The PIN field is invalid" := by
  intro template c f
  have hdefault : c.default = .text (.ofList (Template.source genericSegments)) := by
    rw [source_genericSegments]
    rfl
  have hasks : ¬Template.Asks template.toList := Template.not_asks_of_isPlain (by decide)
  refine ⟨hdefault, isSlotName_of_mem_genericSegments, rfl, rfl, hasks, ?_⟩
  rw [render_or_default hdefault isSlotName_of_mem_genericSegments rfl rfl hasks]
  exact congrArg Except.ok (by decide)

/-- An attribute of a text and a character picked by a name are faults that no other template is
tried for. -/
theorem render_asking :
    let c := ofTemplates [("r", "\x7bfield.x\x7d"), ("q", "\x7bfield[x]\x7d")]
    c.default = .text (.ofList (Template.source genericSegments)) ∧
      c.render ⟨"a", .null, "r", .null⟩ = .error (.template (.noAttribute "x")) ∧
      c.render ⟨"a", .null, "q", .null⟩ = .error (.template .namedPlace) := by
  intro c
  have hdefault : c.default = .text (.ofList (Template.source genericSegments)) := by
    rw [source_genericSegments]
    rfl
  exact ⟨hdefault, rfl, rfl⟩

/-! ## Evaluations -/

section
variable {host : Host} {record : Record} {declarations : Declarations} {result : Result}

/-- The parameter in a failure of an evaluation can be written. -/
theorem exists_paramText_of_mem
    (h : (Registry.builtins host).evaluate record declarations = .ok result)
    (hf : f ∈ result.failures) : ∃ param, f.param.paramText = .ok param := by
  obtain ⟨rules, answers, -, hanswers, hfailures⟩ := Registry.evaluate_eq_ok_iff.1 h
  rw [hfailures, List.reduceOption_mem_iff] at hf
  obtain ⟨rule, -, hanswer⟩ := exists_of_mem_results hanswers hf
  rw [hanswer.eq_report rfl]
  exact Builtin.exists_paramText_shown rule.2.name rule.2.param

/-- **The failures of an evaluation have messages**, when the templates of the catalog ask for
nothing that texts lack. -/
theorem exists_renderAll
    (h : (Registry.builtins host).evaluate record declarations = .ok result)
    (hdefault : c.default = .text (.ofList (Template.source segments)))
    (hnames : ∀ name, .slot name ∈ segments → Template.isSlotName name = true)
    (hasks : ∀ rule template, c.templates.lookup rule = some template →
      ¬Template.Asks template.toList) :
    ∃ messages, c.renderAll result.failures = .ok messages := by
  refine exists_mapM_eq_ok fun f hf => ?_
  obtain ⟨param, hparam⟩ := exists_paramText_of_mem h hf
  cases hlookup : c.templates.lookup f.rule with
  | some template =>
    have htemplate : c.templateFor f.rule = .text template := by rw [templateFor, hlookup]
    exact ⟨_, render_of_recovers hdefault hnames hparam htemplate
      (Template.format_recovers (hasks f.rule template hlookup))⟩
  | none =>
    have htemplate : c.templateFor f.rule = .text (.ofList (Template.source segments)) := by
      rw [templateFor, hlookup, hdefault]
    refine ⟨_, render_of_recovers hdefault hnames hparam htemplate ?_⟩
    rw [String.toList_ofList, Template.format_source hnames]
    exact Template.recovers_ok _

end

end Catalog

end RecordRules
