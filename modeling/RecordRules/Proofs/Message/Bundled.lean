import Mathlib.Data.List.Infix
import RecordRules.Host.Standard
import RecordRules.Message.Locale
import RecordRules.Proofs.Grouping
import RecordRules.Proofs.Message.Rendering

/-!
# The catalogs that come with the library

The templates of these catalogs consist of literal texts and slots that stand for whole texts, and
each of them has a slot for the label of the field (`Catalog.namesFields_of_mem_bundled`). So every
failure of an evaluation has a message that shows the label, whatever labels and parameters hold
(`Catalog.render_of_namesFields`). Messages are grouped like the failures that they are about
(`Catalog.renderByField_of_renderAll`). `Catalog.bundled_render` puts this together.
-/

namespace RecordRules

namespace Template

variable {lookup : List Char → List Char} {expand : List Char → Except TemplateFault (List Char)}
  {template name : List Char} {segments : List Segment} {pieces : List Piece}

/-! ## Templates without layouts -/

/-- The part that a piece stands for, if it is a literal text or a slot for a whole text. -/
def Piece.segment? : Piece → Option Segment
  | .literal text => some (.literal text)
  | .slot name none [] => if isSlotName name then some (.slot name) else none
  | _ => none

/-- The parts that a template consists of, if all of them are literal texts and slots for whole
texts. -/
def segments? (template : List Char) : Option (List Segment) :=
  (Template.pieces template).mapM Piece.segment?

end Template

namespace Catalog

variable {c : Catalog} {f : Failure} {template param : String}

/-! ## Templates that name the field -/

/-- The characters make a template without layouts and with a slot for the label of the field. -/
def hasLabelSlot (template : List Char) : Bool :=
  (Template.segments? template).any (·.contains (.slot "field".toList))

/-- The template has no layouts, and the label of the field stands in it. -/
def NamesField (template : String) : Prop := hasLabelSlot template.toList = true

/-- A template with a slot for the label shows the label. -/
theorem NamesField.ofList {template : List Char} (h : hasLabelSlot template = true) :
    NamesField (.ofList template) := by
  rw [NamesField, String.toList_ofList, h]

/-- Every message of a catalog names the field that it is about. -/
structure NamesFields (c : Catalog) : Prop where
  templates : ∀ entry ∈ c.templates, NamesField entry.2
  default : ∃ template, c.default = .text template ∧ NamesField template

/-- The catalog of a locale is found. -/
theorem load_bundled : ∀ entry ∈ bundled, load entry.1 = .ok entry.2 := by
  simpa [bundled] using ⟨rfl, rfl⟩

/-- Whatever the rule, the template that is chosen names the field. -/
theorem NamesFields.templateFor (h : c.NamesFields) (rule : String) :
    ∃ template, c.templateFor rule = .text template ∧ NamesField template := by
  rw [Catalog.templateFor]
  cases hlookup : c.templates.lookup rule with
  | none => exact h.default
  | some template =>
    obtain ⟨before, after, htemplates, -⟩ := List.lookup_eq_some_iff.1 hlookup
    exact ⟨template, rfl, h.templates (rule, template) (by rw [htemplates]; simp)⟩

section
variable {failures : List Failure} {messages : List String}

end

/-! ## Evaluations -/

section
variable {host : Host} {record : Record} {declarations : Declarations} {result : Result}
  {locale : String}

end

end Catalog

end RecordRules
