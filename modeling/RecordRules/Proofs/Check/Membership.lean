import RecordRules.Check.Membership
import RecordRules.Proofs.Check.Passing
import RecordRules.Proofs.Parameter

/-!
# Values on a list

Rules that compare the text of a value with a list differ in how they take the list from the parameter;
`Check.ofWords_eq` says what such a rule finds. A value that has a text is on the list of items exactly if
it is the same as one of the parts of the parameter between semicolons, up to white space around it and
case (`Check.Listed`); the allow list passes it then and the deny list refuses it, and otherwise it is the
other way round (`Check.lists_exact`). Words are not trimmed as values are. So a value that spells a
reported word passes if what trimming leaves of the word is among the words too
(`Check.contains_reported`), and a word with white space at its end can be reported and refused
(`Check.contains_padded_word`).
-/

namespace RecordRules

/-! ## Texts of values -/

/-- A scalar value with its text: a text itself, the digits of an integer that can be written, `1` for
true and nothing for false, and the text of a floating point number. -/
inductive Value.HasText : Value → String → Prop
  | text (s : String) : HasText (.text s) s
  | int {n : Int} (h : Number.digitCount n.natAbs ≤ Number.digitLimit) :
      HasText (.int n) (Number.integerText n)
  | bool (b : Bool) : HasText (.bool b) (if b then "1" else "")
  | float (x : Binary64) : HasText (.float x) x.text

/-- Values made of other values. -/
def Value.isContainer : Value → Bool
  | .list _ | .tuple _ | .set _ | .dict _ => true
  | _ => false

/-- A value that has a text is written as that text. -/
theorem Value.HasText.scalarText_eq {v : Value} {s : String} (h : v.HasText s) :
    v.scalarText = .ok (some s) := by
  cases h with
  | text | bool | float => rfl
  | int h => simp [Value.scalarText, Value.shownInt, Number.integerText?, h, Except.map]

/-- A container has no text. -/
theorem Value.scalarText_of_isContainer {v : Value} (h : v.isContainer = true) :
    v.scalarText = .ok none := by
  cases v with
  | list | tuple | set | dict => rfl
  | _ => cases h

namespace Check

/-! ## Rules with a list -/

section
variable {rule field p : String} {record : Record} {read : String → List String}
  {holds : List String → String → Bool} {v : Value} {text : Option String}

/-- The rule reads words and asks for one of them. -/
theorem contains_eq_ofWords : contains = ofWords "contains" Parameter.words List.contains := rfl

/-- The rule reads items and asks for one of them. -/
theorem containsList_eq_ofWords :
    containsList = ofWords "contains_list" Parameter.items List.contains := rfl

/-- The rule reads items and asks for none of them. -/
theorem doesntContainList_eq_ofWords : doesntContainList =
    ofWords "doesnt_contain_list" Parameter.items (!List.contains · ·) := rfl

/-- A value that can be written is trimmed and lowered as its text. -/
theorem normalizedText_eq (h : v.scalarText = .ok text) :
    normalizedText v = .ok (text.map fun s => .ofList (Text.lowercase (Text.trim s.toList))) := by
  rw [normalizedText, h]
  rfl

/-- The failure of a rule with a list shows the list. -/
def unlisted (rule field : String) (record : Record) (words : List String) : Failure :=
  ⟨field, record.value field, rule, listParam words⟩

/-- What a rule with a list finds on a value that is not blank, given the text of the value. -/
theorem ofWords_eq (hpresent : (record.value field).isBlank = false)
    (htext : (record.value field).scalarText = .ok text) :
    ofWords rule read holds field record (some p) =
      .ok (if text.any fun s => holds (read p) (.ofList (Text.lowercase (Text.trim s.toList))) then none
        else some (unlisted rule field record (read p))) := by
  rw [ofWords_eq_asking, asking_eq_map hpresent, normalizedText_eq htext]
  cases text <;> rfl

/-- Items are shown as they are read, so lists that are shown alike are alike. -/
theorem listParam_injective : Function.Injective listParam := by
  intro words words' h
  have hitems : words.map Value.text = words'.map Value.text := Value.list.inj h
  exact List.map_injective_iff.2 (fun _ _ => Value.text.inj) hitems

/-- What such a rule reports holds the words it read. -/
theorem eq_unlisted_of_ofWords {f : Failure}
    (h : ofWords rule read holds field record (some p) = .ok (some f)) :
    f = unlisted rule field record (read p) := by
  rw [ofWords_eq_asking] at h
  exact eq_of_asking_eq_some h

end

/-! ## Items -/

/-- A text is on the list of a parameter: without white space around it and in lower case it is not empty,
and the same as one of the parts between semicolons. -/
def Listed (p s : String) : Prop :=
  Text.lowercase (Text.trim s.toList) ≠ [] ∧ ∃ part ∈ Text.splitAll ';' p.toList,
    Text.lowercase (Text.trim part) = Text.lowercase (Text.trim s.toList)

instance (p s : String) : Decidable (Listed p s) := inferInstanceAs (Decidable (_ ∧ _))

section
variable {field p s : String} {record : Record}

/-- A lowered and trimmed text is among the items when the parameter lists it. -/
theorem items_contains_iff :
    (Parameter.items p).contains (.ofList (Text.lowercase (Text.trim s.toList))) = true ↔ Listed p s := by
  rw [List.contains_iff_mem, Parameter.mem_items_iff, Listed]

/-- **Allow list and deny list**: on the same parameter, the one is passed by the values whose text is on
the list of the parameter, the other by those whose text is not. Containers pass neither. The failures of
both show the same items. -/
theorem lists_exact (p : String) (hpresent : (record.value field).isBlank = false) :
    (∀ s, (record.value field).HasText s →
      containsList field record (some p) = .ok (if Listed p s then none
        else some (unlisted "contains_list" field record (Parameter.items p))) ∧
      doesntContainList field record (some p) = .ok (if Listed p s
        then some (unlisted "doesnt_contain_list" field record (Parameter.items p)) else none)) ∧
    ((record.value field).isContainer = true →
      containsList field record (some p) =
        .ok (some (unlisted "contains_list" field record (Parameter.items p))) ∧
      doesntContainList field record (some p) =
        .ok (some (unlisted "doesnt_contain_list" field record (Parameter.items p)))) := by
  rw [containsList_eq_ofWords, doesntContainList_eq_ofWords]
  constructor
  · intro s hs
    rw [ofWords_eq hpresent hs.scalarText_eq, ofWords_eq hpresent hs.scalarText_eq, Option.any_some,
      Option.any_some]
    by_cases hlisted : Listed p s
    · rw [items_contains_iff.2 hlisted, if_pos hlisted, if_pos hlisted]
      exact ⟨rfl, rfl⟩
    · rw [Bool.eq_false_iff.2 (mt items_contains_iff.1 hlisted), if_neg hlisted, if_neg hlisted]
      exact ⟨rfl, rfl⟩
  · intro hcontainer
    have htext := Value.scalarText_of_isContainer hcontainer
    rw [ofWords_eq hpresent htext, ofWords_eq hpresent htext]
    exact ⟨rfl, rfl⟩

/-- On a list with blank parts and white space, a word in Greek capitals, whose last letter has a form of
its own; and a list of it. -/
theorem lists_exact_greek :
    let p := "ΟΔΟΣ ;; Αθήνα;ΣΑΜΟΣ\t"
    let record : Record := [("where", Value.text " σαμος"), ("both", .list [.text "σαμος"])]
    containsList "where" record (some p) = .ok none ∧
      doesntContainList "where" record (some p) =
        .ok (some ⟨"where", .text " σαμος", "doesnt_contain_list",
          listParam ["οδος", "αθήνα", "σαμος"]⟩) ∧
      containsList "both" record (some p) =
        .ok (some ⟨"both", .list [.text "σαμος"], "contains_list",
          listParam ["οδος", "αθήνα", "σαμος"]⟩) := by
  intro p record
  have hitems : Parameter.items p = ["οδος", "αθήνα", "σαμος"] := by decide +kernel
  have hlisted : Listed p " σαμος" := by decide +kernel
  have hwhere : (record.value "where").isBlank = false := rfl
  have hboth : (record.value "both").isBlank = false := rfl
  obtain ⟨hallow, hdeny⟩ := (lists_exact p hwhere).1 _ (.text _)
  rw [if_pos hlisted] at hallow hdeny
  obtain ⟨hneither, -⟩ := (lists_exact p hboth).2 rfl
  rw [hitems] at hdeny hneither
  exact ⟨hallow, hdeny, hneither⟩

end

/-! ## Words -/

/-- A text spells a word: in any mixture of ASCII capitals and small letters, and with white space
around it. -/
def Spells (s word : String) : Prop :=
  ∃ before mid after, s.toList = before ++ (mid ++ after) ∧
    mid.map Char.toLower = word.toList.map Char.toLower ∧
    (∀ c ∈ before, Text.isBlank c = true) ∧ ∀ c ∈ after, Text.isBlank c = true

section
variable {field p s word : String} {record : Record}

/-- A text that spells a word is not empty. -/
theorem Spells.ne_empty (h : Spells s word) (hword : word ≠ "") : s.toList ≠ [] := by
  obtain ⟨before, mid, after, hs, hmid, -, -⟩ := h
  have hne : mid ≠ [] := by
    rintro rfl
    exact hword (by simpa using hmid.symm)
  simp [hs, hne]

/-- A text that spells a word is the word without white space around it, once it is trimmed and lowered. -/
theorem Spells.lowercase_trim (h : Spells s word) (hword : ∀ c ∈ word.toList, Text.IsLowered c) :
    Text.lowercase (Text.trim s.toList) = Text.trim word.toList := by
  obtain ⟨before, mid, after, hs, hmid, hbefore, hafter⟩ := h
  rw [hs, Text.trim_blank_append hbefore, Text.trim_append_blank hafter, ← Text.trim_lowercase,
    Text.lowercase_of_map_toLower_eq hword hmid]

/-- **Words that are reported**: a value that spells one of the words of a failure passes if the word
without white space around it is one of these words, and otherwise it fails and they are reported again. -/
theorem contains_reported {field' : String} {record' : Record} {f : Failure} {words : List String}
    (hfailure : contains field record (some p) = .ok (some f)) (hshown : f.param = listParam words)
    (hword : word ∈ words) (hne : word ≠ "") (hspells : Spells s word)
    (hvalue : record'.value field' = .text s) :
    contains field' record' (some p) = .ok (if Text.trimmed word ∈ words then none
      else some (unlisted "contains" field' record' words)) := by
  rw [contains_eq_ofWords] at hfailure ⊢
  rw [eq_unlisted_of_ofWords hfailure] at hshown
  obtain rfl : Parameter.words p = words := listParam_injective hshown
  have hpresent : (record'.value field').isBlank = false := by
    rw [hvalue]
    exact Value.isBlank_text (hspells.ne_empty hne)
  have htext : (record'.value field').scalarText = .ok (some s) := by
    rw [hvalue]
    rfl
  have hnormal : String.ofList (Text.lowercase (Text.trim s.toList)) = Text.trimmed word := by
    rw [hspells.lowercase_trim (Parameter.isLowered_of_mem_words hword)]
    rfl
  rw [ofWords_eq hpresent htext, Option.any_some, hnormal]
  simp only [List.contains_iff_mem]

/-- A town that is no word of the parameter, and one of the words in capitals after a tab. -/
theorem contains_reported_capitals :
    let p := "'new york' 'boston'"
    let record : Record := [("from", Value.text "Paris"), ("to", Value.text "\tNew YORK ")]
    contains "from" record (some p) =
        .ok (some (unlisted "contains" "from" record ["new york", "boston"])) ∧
      Spells "\tNew YORK " "new york" ∧ contains "to" record (some p) = .ok none := by
  intro p record
  have hwords : Parameter.words p = ["new york", "boston"] := by decide +kernel
  have hfailure : contains "from" record (some p) =
      .ok (some (unlisted "contains" "from" record ["new york", "boston"])) := by
    have htext : (record.value "from").scalarText = .ok (some "Paris") := rfl
    rw [contains_eq_ofWords, ofWords_eq rfl htext, hwords]
    rfl
  have hspells : Spells "\tNew YORK " "new york" :=
    ⟨['\t'], "New YORK".toList, [' '], by decide, by decide,
      List.forall_mem_singleton.2 rfl, List.forall_mem_singleton.2 rfl⟩
  have hword : "new york" ∈ ["new york", "boston"] := by decide
  have hvalue : record.value "to" = .text "\tNew YORK " := rfl
  have hpasses := contains_reported hfailure rfl hword (by decide) hspells hvalue
  rw [if_pos (by decide)] at hpasses
  exact ⟨hfailure, hspells, hpasses⟩

/-- A word that was put into apostrophes with a space at its end is reported, and the value that is equal
to it fails. -/
theorem contains_padded_word :
    let record : Record := [("to", Value.text "new york ")]
    contains "to" record (some "'new york ' 'boston'") =
      .ok (some (unlisted "contains" "to" record ["new york ", "boston"])) := by
  intro record
  have hwords : Parameter.words "'new york ' 'boston'" = ["new york ", "boston"] := by decide +kernel
  have htext : (record.value "to").scalarText = .ok (some "new york ") := rfl
  rw [contains_eq_ofWords, ofWords_eq rfl htext, hwords]
  rfl

end

end Check

end RecordRules
