import RecordRules.Message.Catalog
import RecordRules.Proofs.Message.Rendering
import RecordRules.Proofs.Text.Letter

/-!
# Messages from their parts

A template is made of parts: literal texts, the slot for the label of the field, the slot for the
parameter, and slots with other names. In the message each part stands for its own text, a slot with
another name for itself, and nothing that was put in is read again (`Catalog.render_templateOf`). The
names of slots are identifiers, which start with no digit and hold none of the characters that end a
name (`Template.isSlotName_of_isIdentifier`).
-/

namespace RecordRules

/-! ## Identifiers -/

section
variable {c : Char} {name : List Char}

/-- The characters that end the name of a slot are no parts of identifiers. -/
theorem Template.isNameEnd_of_isIdentifierPart (h : Text.isIdentifierPart c = true) :
    isNameEnd c = false := by
  have hends : ("\x7b\x7d:!.[".toList.all fun d => !Text.isIdentifierPart d) = true := by
    decide +kernel
  cases hend : isNameEnd c with
  | false => rfl
  | true =>
    have hc := List.all_eq_true.1 hends c (List.contains_iff_mem.1 hend)
    simp [h] at hc

/-- An identifier is looked up as it stands. -/
theorem Template.isSlotName_of_isIdentifier (h : Text.isIdentifier name = true) :
    isSlotName name = true := by
  cases name with
  | nil => cases h
  | cons c name =>
    obtain ⟨hstart, hrest⟩ : Text.isIdentifierStart c = true ∧
        ∀ d ∈ name, Text.isIdentifierPart d = true := by
      simpa [Text.isIdentifier] using h
    have hpart : Text.isIdentifierPart c = true := by simp [Text.isIdentifierPart, hstart]
    simp only [isSlotName, List.head?_cons, Option.any_some, List.all_cons, Bool.and_eq_true,
      Bool.not_eq_true', List.all_eq_true]
    exact ⟨Text.isDecimalDigit_of_isIdentifierStart hstart, isNameEnd_of_isIdentifierPart hpart,
      fun d hd => isNameEnd_of_isIdentifierPart (hrest d hd)⟩

end

namespace Catalog

/-! ## Parts -/

/-- A part of a message: a literal text, the label of the field, the text of the parameter, or
something else by its name. -/
inductive Part
  | literal (text : String)
  | label
  | param
  | other (name : String)
  deriving DecidableEq

/-- How a part stands in a template. -/
def Part.segment : Part → Template.Segment
  | literal text => .literal text.toList
  | label => .slot "field".toList
  | param => .slot "param".toList
  | other name => .slot name.toList

/-- How a part stands in a message with the given label and parameter. -/
def Part.text (label param : String) : Part → String
  | literal text => text
  | .label => label
  | .param => param
  | other name => "\x7b" ++ name ++ "\x7d"

/-- The template of parts: the braces of literal texts are doubled, other parts are slots. -/
def templateOf (parts : List Part) : String := .ofList (Template.source (parts.map Part.segment))

/-- The part has a name of its own: an identifier that stands neither for the label nor for the
parameter. -/
def Part.IsNamed : Part → Prop
  | other name => Text.isIdentifier name.toList = true ∧ name ≠ "field" ∧ name ≠ "param"
  | _ => True

/-- A parameter and its text in messages: nothing, a text, or texts with commas between them. -/
inductive ParamText : Value → String → Prop
  | none : ParamText .null ""
  | text (s : String) : ParamText (.text s) s
  | list (texts : List String) : ParamText (.list (texts.map .text)) (", ".intercalate texts)
  | tuple (texts : List String) : ParamText (.tuple (texts.map .text)) (", ".intercalate texts)

variable {c : Catalog} {f : Failure} {label param : String} {part : Part} {parts : List Part}

/-- The text of a parameter is what is shown of it. -/
theorem ParamText.eq {v : Value} (h : ParamText v param) : v.paramText = .ok param := by
  cases h with
  | none | text => rfl
  | list texts | tuple texts => exact Value.paramText_listParam

/-- The slots of named parts have names. -/
theorem isSlotName_of_isNamed (h : ∀ part ∈ parts, part.IsNamed) (name : List Char)
    (hname : .slot name ∈ parts.map Part.segment) : Template.isSlotName name = true := by
  obtain ⟨part, hpart, heq⟩ := List.mem_map.1 hname
  cases part with
  | literal text => cases heq
  | label | param =>
    cases heq
    decide
  | other other =>
    cases heq
    exact Template.isSlotName_of_isIdentifier (h _ hpart).1

/-- What fills the slot of a part is the text of the part. -/
theorem filled_segment (h : part.IsNamed) :
    part.segment.filled (slotText label.toList param.toList) = (part.text label param).toList := by
  cases part with
  | literal | label | param => rfl
  | other name =>
    obtain ⟨-, hfield, hparam⟩ := h
    have hfield' : name.toList ≠ "field".toList := fun heq => hfield (String.toList_injective heq)
    have hparam' : name.toList ≠ "param".toList := fun heq => hparam (String.toList_injective heq)
    rw [Part.segment, Template.Segment.filled, slotText, if_neg hfield', if_neg hparam', Part.text]
    simp

/-- Filling the segments of parts is replacing each part by its text. -/
theorem filled_parts (h : ∀ part ∈ parts, part.IsNamed) :
    Template.filled (slotText label.toList param.toList) (parts.map Part.segment) =
      (String.join (parts.map (Part.text label param))).toList := by
  rw [String.toList_join, Template.filled, List.flatMap_map, List.flatMap_map]
  exact List.flatMap_congr fun part hpart => filled_segment (h part hpart)

/-- **A message is put together in one pass** from the parts of its template. -/
theorem render_templateOf (hparts : ∀ part ∈ parts, part.IsNamed)
    (htemplate : c.templateFor f.rule = .text (templateOf parts))
    (hparam : ParamText f.param param) :
    c.render f = .ok (String.join (parts.map (Part.text (c.labelFor f.field) param))) := by
  have hnames := isSlotName_of_isNamed hparts
  simp only [render, hparam.eq, htemplate, templateOf, formatValue_source hnames,
    filled_parts hparts, String.ofList_toList]
  rfl

/-- Braces next to slots, and a label and a parameter that look like slots. -/
theorem render_templateOf_braces :
    let parts : List Part := [.literal "\x7b", .label, .literal "\x7d", .param, .other "x"]
    let c := (ofTemplates [("r", templateOf parts)]).setLabel "a" "\x7bparam\x7d"
    let f : Failure := ⟨"a", .null, "r", .list [.text "\x7bfield\x7d", .text "\x7d"]⟩
    templateOf parts = "\x7b\x7b\x7bfield\x7d\x7d\x7d\x7bparam\x7d\x7bx\x7d" ∧
      (∀ part ∈ parts, part.IsNamed) ∧ c.templateFor f.rule = .text (templateOf parts) ∧
      ParamText f.param "\x7bfield\x7d, \x7d" ∧
      c.render f = .ok "\x7b\x7bparam\x7d\x7d\x7bfield\x7d, \x7d\x7bx\x7d" := by
  intro parts c f
  have hparts : ∀ part ∈ parts, part.IsNamed := by
    simpa [parts, Part.IsNamed] using by decide +kernel
  have hparam : ParamText f.param "\x7bfield\x7d, \x7d" := .list ["\x7bfield\x7d", "\x7d"]
  refine ⟨rfl, hparts, rfl, hparam, ?_⟩
  rw [render_templateOf hparts rfl hparam]
  exact congrArg Except.ok (by decide +kernel)

end Catalog

end RecordRules
