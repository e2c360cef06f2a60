import RecordRules.Assoc
import RecordRules.Check.Basic
import RecordRules.Message.Template

/-!
# Message catalogs

A catalog holds a template for each rule, a default template for the other rules, the labels of
fields and the name of its locale. `Catalog.render` turns a failure into a message: the slots `field`
and `param` are filled with the label of the field and the text of the parameter, other slots are
left as they are. A template that is malformed is replaced by the default one.
-/

namespace RecordRules

/-- Why a failure has no message: its parameter cannot be written, a template asks for something
that texts do not have, the default template is malformed, or it is no text at all. -/
inductive RenderFault
  | tooLong (e : TooLong)
  | template (fault : TemplateFault)
  | notText (v : Value)

/-- The wording of a fault. -/
def RenderFault.message : RenderFault → String
  | tooLong e => e.message
  | template fault => fault.message
  | notText v => s!"'{v.kind}' object has no attribute 'format_map'"

/-- The templates of a locale. The default template and the name of the locale may come from a file
and then hold any value. -/
structure Catalog where
  templates : List (String × String)
  default : Value
  locale : Value
  labels : List (String × String)
  deriving Inhabited

namespace Catalog

/-- The default template of catalogs that do not give one. -/
def genericTemplate : String := "The \x7bfield\x7d field is invalid"

/-- The locale of catalogs that do not name one. -/
def genericLocale : String := "en"

/-- A catalog with the given templates. -/
def ofTemplates (templates : List (String × String)) : Catalog where
  templates := Assoc.ofList templates
  default := .text genericTemplate
  locale := .text genericLocale
  labels := []

/-- Gives a rule a template. -/
def setMessage (c : Catalog) (rule template : String) : Catalog :=
  { c with templates := Assoc.put rule template c.templates }

/-- Gives a field a label. -/
def setLabel (c : Catalog) (field label : String) : Catalog :=
  { c with labels := Assoc.put field label c.labels }

/-- The label made from the name of a field: underscores and hyphens become spaces, words start
with a capital. -/
def defaultLabel (field : String) : String :=
  .ofList (Text.titlecase (field.toList.map fun c => if c = '_' ∨ c = '-' then ' ' else c))

/-- The label of a field. -/
def labelFor (c : Catalog) (field : String) : String :=
  (c.labels.lookup field).getD (defaultLabel field)

/-- The template of a rule, or the default template. -/
def templateFor (c : Catalog) (rule : String) : Value :=
  match c.templates.lookup rule with
  | some template => .text template
  | none => c.default

/-- The text of a slot, given the texts of the two slots that are known. -/
def slotText (label param : List Char) (name : List Char) : List Char :=
  if name = "field".toList then label
  else if name = "param".toList then param
  else '\x7b' :: name ++ ['\x7d']

/-- Formats a value as a template. -/
def formatValue (label param : String) : Value → Except RenderFault String
  | .text template =>
    match Template.format (slotText label.toList param.toList) template.toList with
    | .ok text => .ok (.ofList text)
    | .error fault => .error (.template fault)
  | v => .error (.notText v)

/-- The message of a failure. -/
def render (c : Catalog) (f : Failure) : Except RenderFault String := do
  let label := c.labelFor f.field
  let param ← f.param.paramText.mapError .tooLong
  match formatValue label param (c.templateFor f.rule) with
  | .ok message => return message
  | .error (.template fault) =>
    if fault.isRecoverable then formatValue label param c.default else throw (.template fault)
  | .error fault => throw fault

/-- The messages of failures, in order. -/
def renderAll (c : Catalog) (failures : List Failure) : Except RenderFault (List String) :=
  failures.mapM c.render

/-- The messages of failures by field, fields in the order of their first failures. -/
def renderByField (c : Catalog) (failures : List Failure) :
    Except RenderFault (List (String × List String)) := do
  let messages ← c.renderAll failures
  return (failures.zip messages).foldl
    (fun acc (f, message) => Assoc.update f.field [] (· ++ [message]) acc) []

end Catalog

end RecordRules
