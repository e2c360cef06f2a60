import RecordRules.Check.Upload

/-!
# Presence rules

The rules that an absent field does not satisfy: a value must be there, or an uploaded file.
-/

namespace RecordRules.Check

/-- The field holds something: it is neither missing nor null nor empty. -/
def required : Check := fun field record param =>
  if (record.value field).isBlank then .ok (some ⟨field, .null, "required", paramValue param⟩)
  else .ok none

/-- The field holds an upload that carries a file. -/
def requiredFile (make? : List (Value × Value) → Option Upload) : Check := fun field record param =>
  let v := record.value field
  if (Upload.ofValue? v make?).any Upload.hasFile then .ok none
  else .ok (some ⟨field, v, "required_file", paramValue param⟩)

end RecordRules.Check
