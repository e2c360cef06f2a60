import RecordRules.Check.Presence
import RecordRules.Proofs.Check.Passing
import RecordRules.Proofs.Parameter

/-!
# File extensions

The extension of a file name is its suffix, in lower case: what follows the last point of the name without
folders (`Upload.extensionOf_eq_some_iff`). The rule `extension` passes over an upload without a file, and
otherwise asks for a name whose suffix is one of the parts of the parameter between semicolons, up to case
and white space around the part (`Check.HasListedSuffix`). Together with `required_file` it asks for an
upload that carries a file of such a name (`Check.extension_exact`), whichever upload the attributes in a
dictionary stand for.
-/

namespace RecordRules

/-! ## Suffixes -/

/-- A file name has a suffix that is not empty: past the last slash the name goes on to a point, the last
one, and the suffix follows. -/
structure Upload.HasSuffix (name suffix : List Char) : Prop where
  ne_nil : suffix ≠ []
  no_point : '.' ∉ suffix
  exists_stem : ∃ folders stem, name = folders ++ (stem ++ '.' :: suffix) ∧
    (∀ c ∈ folders.getLast?, c = '/') ∧ '/' ∉ stem ++ '.' :: suffix

namespace Upload

section
variable {c : Char} {s t name ext : List Char}

/-- What follows the last occurrence of a character does not hold it. -/
theorem afterLast?_eq_some_iff : afterLast? c s = some t ↔ c ∉ t ∧ ∃ before, s = before ++ c :: t := by
  rw [afterLast?, Option.ite_none_right_eq_some, Option.some.injEq, List.contains_iff_mem]
  constructor
  · rintro ⟨hmem, rfl⟩
    have hne : s.reverse.dropWhile (· ≠ c) ≠ [] :=
      mt Text.dropWhile_ne_eq_nil_iff.1 (not_not.2 (List.mem_reverse.2 hmem))
    obtain ⟨d, rest, hrest⟩ := List.exists_cons_of_ne_nil hne
    obtain rfl := Text.eq_of_dropWhile_ne hrest
    obtain ⟨hnot, hcut⟩ := Text.cut_iff.1 ⟨rfl, hrest⟩
    refine ⟨mt List.mem_reverse.1 hnot, rest.reverse, ?_⟩
    have hreverse := congrArg List.reverse hcut
    rwa [List.reverse_reverse, List.reverse_append, List.reverse_cons, List.append_assoc,
      List.singleton_append] at hreverse
  · rintro ⟨hnot, before, rfl⟩
    have hcut : (before ++ c :: t).reverse = t.reverse ++ c :: before.reverse := by simp
    obtain ⟨htake, -⟩ := Text.cut_iff.2 ⟨mt List.mem_reverse.1 hnot, hcut⟩
    exact ⟨by simp, by rw [htake, List.reverse_reverse]⟩

/-- Nothing comes after the last of the characters that are not there. -/
theorem afterLast?_eq_none_iff : afterLast? c s = none ↔ c ∉ s := by
  rw [afterLast?, ite_eq_right_iff, List.contains_iff_mem]
  simp only [reduceCtorEq, imp_false]

/-- A file name without its folders. -/
theorem exists_base (name : List Char) : ∃ folders, name = folders ++ (afterLast? '/' name).getD name ∧
    (∀ c ∈ folders.getLast?, c = '/') ∧ '/' ∉ (afterLast? '/' name).getD name := by
  cases h : afterLast? '/' name with
  | none => exact ⟨[], rfl, by simp, afterLast?_eq_none_iff.1 h⟩
  | some base =>
    obtain ⟨hnot, before, hname⟩ := afterLast?_eq_some_iff.1 h
    exact ⟨before ++ ['/'], by simpa using hname, by simp, hnot⟩

/-- The part of a name after its folders is the only one. -/
theorem afterLast?_getD {folders base : List Char} (hlast : ∀ c ∈ folders.getLast?, c = '/')
    (hbase : '/' ∉ base) : (afterLast? '/' (folders ++ base)).getD (folders ++ base) = base := by
  rcases List.eq_nil_or_concat' folders with rfl | ⟨before, c, rfl⟩
  · rw [List.nil_append, afterLast?_eq_none_iff.2 hbase, Option.getD_none]
  · obtain rfl : c = '/' := hlast c (by simp)
    have hafter : afterLast? '/' (before ++ ['/'] ++ base) = some base :=
      afterLast?_eq_some_iff.2 ⟨hbase, before, by simp⟩
    rw [hafter, Option.getD_some]

/-- **The extension of a file name** is its suffix in lower case. -/
theorem extensionOf_eq_some_iff :
    extensionOf name = some ext ↔ ∃ suffix, HasSuffix name suffix ∧ Text.lowercase suffix = ext := by
  constructor
  · intro h
    obtain ⟨folders, hname, hlast, hslash⟩ := exists_base name
    cases hafter : afterLast? '.' ((afterLast? '/' name).getD name) with
    | none => simp [extensionOf, hafter] at h
    | some suffix =>
      cases suffix with
      | nil => simp [extensionOf, hafter] at h
      | cons c suffix =>
        simp only [extensionOf, hafter, Option.some.injEq] at h
        obtain ⟨hpoint, stem, hbase⟩ := afterLast?_eq_some_iff.1 hafter
        rw [hbase] at hname hslash
        exact ⟨c :: suffix, ⟨List.cons_ne_nil c suffix, hpoint, folders, stem, hname, hlast, hslash⟩, h⟩
  · rintro ⟨suffix, ⟨hne, hpoint, folders, stem, rfl, hlast, hslash⟩, rfl⟩
    have hafter : afterLast? '.' (stem ++ '.' :: suffix) = some suffix :=
      afterLast?_eq_some_iff.2 ⟨hpoint, stem, rfl⟩
    simp only [extensionOf, afterLast?_getD hlast hslash, hafter]

end

/-! ## Uploads that values are taken for -/

section
variable {make? : List (Value × Value) → Option Upload} {v : Value} {u : Upload}

/-- No file was uploaded when the status says so. -/
theorem hasFile_eq_false_iff : u.hasFile = false ↔ u.error = noFile := by
  rw [hasFile, bne_eq_false_iff_eq]

/-- A text is the name of an upload, any other value is taken for the upload that it is or describes. -/
theorem of_named? (h : named? make? v = some u) :
    (∃ s, v = .text s ∧ u = ⟨s, 0, 0, none, none⟩) ∨ ofValue? v make? = some u := by
  cases v with
  | text s => exact .inl ⟨s, rfl, (Option.some.inj h).symm⟩
  | _ => exact .inr h

/-- A value that is coerced to an upload names that upload's file. -/
theorem named?_of_ofValue? (h : ofValue? v make? = some u) : named? make? v = some u := by
  cases v with
  | text s => cases h
  | _ => exact h

end

end Upload

/-! ## The rules -/

/-- The file name that a value has, given the uploads that entries make: a text is one itself, an upload
carries one. -/
inductive Value.HasFileName (make? : List (Value × Value) → Option Upload) : Value → String → Prop
  | text (s : String) : HasFileName make? (.text s) s
  | upload {v : Value} {u : Upload} (h : Upload.ofValue? v make? = some u) : HasFileName make? v u.name

namespace Check

/-- A file name has a suffix that is listed in a parameter: in lower case the suffix is the same as one of
the parts between semicolons, without white space around the part and in lower case. -/
def HasListedSuffix (p name : String) : Prop :=
  ∃ suffix, Upload.HasSuffix name.toList suffix ∧
    ∃ part ∈ Text.splitAll ';' p.toList, Text.lowercase (Text.trim part) = Text.lowercase suffix

section
variable {make? : List (Value × Value) → Option Upload} {p field : String} {record : Record} {v : Value}
  {u : Upload}

/-- The extension of an upload is one of the items exactly if the suffix of its name is listed. -/
theorem extension_any_items_iff :
    u.extension.any (Parameter.items p).contains = true ↔ HasListedSuffix p u.name := by
  rw [Option.any_eq_true]
  constructor
  · rintro ⟨ext, hext, hallowed⟩
    obtain ⟨chars, hchars, rfl⟩ := Option.map_eq_some_iff.1 hext
    obtain ⟨suffix, hsuffix, rfl⟩ := Upload.extensionOf_eq_some_iff.1 hchars
    obtain ⟨-, hpart⟩ := Parameter.mem_items_iff.1 (List.contains_iff_mem.1 hallowed)
    exact ⟨suffix, hsuffix, hpart⟩
  · rintro ⟨suffix, hsuffix, hpart⟩
    refine ⟨.ofList (Text.lowercase suffix), ?_, ?_⟩
    · exact Option.map_eq_some_iff.2 ⟨_, Upload.extensionOf_eq_some_iff.2 ⟨suffix, hsuffix, rfl⟩, rfl⟩
    · exact List.contains_iff_mem.2
        (Parameter.mem_items_iff.2 ⟨Text.lowercase_ne_nil hsuffix.ne_nil, hpart⟩)

/-- The rule looks at the name only, whatever the value was coerced from. -/
theorem extension_passes_iff_named (hpresent : (record.value field).isBlank = false) :
    extension make? field record (some p) = .ok none ↔
      ∃ u, Upload.named? make? (record.value field) = some u ∧
        (u.hasFile = false ∨ HasListedSuffix p u.name) := by
  simp only [extension, optional, hpresent, ← extension_any_items_iff]
  cases hnamed : Upload.named? make? (record.value field) with
  | none => simp [Parameter.required, bind, Except.bind, pure, Except.pure]
  | some u =>
    cases hfile : u.hasFile <;> cases hallowed : u.extension.any (Parameter.items p).contains <;>
      simp [Parameter.required, bind, Except.bind, pure, Except.pure, hfile, hallowed]

/-- A file is there when the value is coerced to an upload with another status. -/
theorem requiredFile_passes_iff {param : Option String} : requiredFile make? field record param = .ok none ↔
    ∃ u, Upload.ofValue? (record.value field) make? = some u ∧ u.error ≠ Upload.noFile := by
  cases hvalue : Upload.ofValue? (record.value field) make? with
  | none => simp [requiredFile, hvalue]
  | some u => by_cases hfile : u.error = Upload.noFile <;> simp [requiredFile, hvalue, Upload.hasFile, hfile]

/-- What passes `extension`: an upload without a file, and what has a file name with a listed suffix. -/
theorem extension_passes_iff (hpresent : (record.value field).isBlank = false) :
    extension make? field record (some p) = .ok none ↔
      (∃ u, Upload.ofValue? (record.value field) make? = some u ∧ u.error = Upload.noFile) ∨
        ∃ name, (record.value field).HasFileName make? name ∧ HasListedSuffix p name := by
  rw [extension_passes_iff_named hpresent]
  constructor
  · rintro ⟨u, hnamed, hpasses⟩
    rcases Upload.of_named? hnamed with ⟨s, htext, rfl⟩ | hvalue
    · -- A text that is taken for the name of an upload is one with a file.
      rcases hpasses with hfile | hlisted
      · cases hfile
      · exact .inr ⟨s, htext ▸ .text s, hlisted⟩
    · rcases hpasses with hfile | hlisted
      · exact .inl ⟨u, hvalue, Upload.hasFile_eq_false_iff.1 hfile⟩
      · exact .inr ⟨u.name, .upload hvalue, hlisted⟩
  · rintro (⟨u, hvalue, hfile⟩ | ⟨name, hname, hlisted⟩)
    · exact ⟨u, Upload.named?_of_ofValue? hvalue, .inl (Upload.hasFile_eq_false_iff.2 hfile)⟩
    · generalize record.value field = v at hname
      cases hname with
      | text s => exact ⟨_, rfl, .inr hlisted⟩
      | upload hvalue => exact ⟨_, Upload.named?_of_ofValue? hvalue, .inr hlisted⟩

/-- **The rules on files**, whichever uploads entries make: a value that is not blank passes `extension` if it
is or describes an upload without a file, or if its file name has a suffix that is listed in the parameter. It
passes `required_file` as well if it is or describes an upload with a file of such a name. -/
theorem extension_exact (p : String) (hpresent : (record.value field).isBlank = false) :
    (extension make? field record (some p) = .ok none ↔
      (∃ u, Upload.ofValue? (record.value field) make? = some u ∧ u.error = 4) ∨
        ∃ name, (record.value field).HasFileName make? name ∧ HasListedSuffix p name) ∧
    (requiredFile make? field record (some p) = .ok none ∧
        extension make? field record (some p) = .ok none ↔
      ∃ u, Upload.ofValue? (record.value field) make? = some u ∧ u.error ≠ 4 ∧
        HasListedSuffix p u.name) := by
  refine ⟨extension_passes_iff hpresent, ?_⟩
  rw [requiredFile_passes_iff, extension_passes_iff_named hpresent]
  constructor
  · rintro ⟨⟨u, hvalue, herror⟩, w, hnamed, hpasses⟩
    obtain rfl : u = w := Option.some.inj ((Upload.named?_of_ofValue? hvalue).symm.trans hnamed)
    have hlisted := hpasses.resolve_left fun hfile => herror (Upload.hasFile_eq_false_iff.1 hfile)
    exact ⟨u, hvalue, herror, hlisted⟩
  · rintro ⟨u, hvalue, herror, hlisted⟩
    exact ⟨⟨u, hvalue, herror⟩, u, Upload.named?_of_ofValue? hvalue, .inr hlisted⟩

/-- An upload in a folder with a point in its name, described by a dictionary; one without a file; and a
text with a point in a folder only. -/
theorem extension_exact_folders :
    let make? := Upload.ofAttributes?
    let p := " png ;Jpg\t;"
    let record : Record := [
      ("photo", .dict [(.text "name", .text "my.album/me.at.home.JPG"), (.text "error", .text "0")]),
      ("missing", .dict [(.text "name", .text ""), (.text "error", .int 4)]),
      ("folder", .text "v1.png/readme")]
    extension make? "photo" record (some p) = .ok none ∧
      requiredFile make? "photo" record (some p) = .ok none ∧
      extension make? "missing" record (some p) = .ok none ∧
      requiredFile make? "missing" record (some p) ≠ .ok none ∧
      extension make? "folder" record (some p) ≠ .ok none := by
  intro make? p record
  have hlisted : HasListedSuffix p "my.album/me.at.home.JPG" := by
    have hsuffix : Upload.HasSuffix "my.album/me.at.home.JPG".toList "JPG".toList :=
      ⟨by decide, by decide, "my.album/".toList, "me.at.home".toList, rfl, by simp, by decide⟩
    exact ⟨_, hsuffix, "Jpg\t".toList, by decide, by decide⟩
  have hvalue : Upload.ofValue? (record.value "photo") make? =
      some ⟨"my.album/me.at.home.JPG", 0, 0, none, none⟩ := rfl
  have hphoto := (extension_exact p rfl).2.2 ⟨_, hvalue, by decide, hlisted⟩
  have hmissing : Upload.ofValue? (record.value "missing") make? = some ⟨"", 4, 0, none, none⟩ := rfl
  refine ⟨hphoto.2, hphoto.1, (extension_exact p rfl).1.2 (.inl ⟨_, hmissing, rfl⟩), ?_, ?_⟩
  · intro hpasses
    obtain ⟨u, hu, herror⟩ := requiredFile_passes_iff.1 hpasses
    obtain rfl := Option.some.inj (hmissing.symm.trans hu)
    exact herror rfl
  · intro hpasses
    rcases (extension_exact p rfl).1.1 hpasses with ⟨u, hu, -⟩ | ⟨name, hname, suffix, hsuffix, -⟩
    · cases hu
    · -- Past the slash the name has no point.
      have hnone : Upload.extensionOf "v1.png/readme".toList = none := by decide
      have hext := Upload.extensionOf_eq_some_iff.2 ⟨suffix, hsuffix, rfl⟩
      cases hname with
      | text => cases hnone.symm.trans hext
      | upload h => cases h

end

end Check

end RecordRules
