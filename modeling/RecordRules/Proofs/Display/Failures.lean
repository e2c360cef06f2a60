import Mathlib.Data.List.TakeWhile
import RecordRules.Display.Plain
import RecordRules.Proofs.Value.Shown

/-!
# The table of failures

The table of failures holds a first part of the rows of a report, numbered from one, and a line says how many
rows it hides (`Report.ShowsFirst`). How many are shown depends on the limit alone (`Report.shownCount`): as
many as the limit says and there are, but under a negative limit all but so many. So the limit is kept unless
it is negative; then rows can be shown where none should be (`Report.showFailures_negative`). A value is
written in full if it has room, and cut otherwise.

Two things keep the table from a screen: a value in it that has no text, and a text with marks that the screen
refuses. `Report.displayFailures_exact` says what is shown then, and that all is shown otherwise.
-/

namespace RecordRules

/-! ## Cells -/

/-- The text of a value before it is cut: that of the value itself, or a dash for null. -/
def Value.fullText (room : Room) (v : Value) : Except TooLong String :=
  if v.isNull then .ok "-" else v.shownIn room 0

/-- A text is cut to thirty characters: it is left alone if it has no more, and otherwise loses all but the
first twenty-seven, with three points in their place. -/
def Text.IsCut (full cut : String) : Prop :=
  cut.length ≤ 30 ∧ (full.length ≤ 30 → cut = full) ∧
    (30 < full.length → cut = .ofList (full.toList.take 27) ++ "...")

/-- The cells of a failure with its number in the table. -/
def ReportRow.IsShownAs (room : Value.Room) (row : ReportRow) (number : Nat) (cells : List Cell) : Prop :=
  ∃ full cut, row.failure.value.fullText room = .ok full ∧ Text.IsCut full cut ∧
    cells = [.markup number.repr, .markup row.index.repr, .markup row.failure.field,
      .markup row.failure.rule, .styled cut "", .markup row.message]

/-- What is to be shown is a table of the first rows, so many of them, and a line with the number of the
hidden ones if there are any. -/
def Report.ShowsFirst (room : Value.Room) (r : Report) (count : Nat) (items : List Shown) : Prop :=
  ∃ rows hidden, count + hidden = r.rows.length ∧
    List.Forall₂ (fun item cells => item.1.IsShownAs room item.2 cells)
      ((r.rows.take count).zipIdx 1) rows ∧
    items = .table ⟨s!"Failures ({count} shown)", true, Report.failureColumns, rows⟩ ::
      if hidden = 0 then [] else [.line s!"[dim]{hidden} more failure(s) not shown[/dim]"]

/-- The value of a row cannot be written: it is not null, and it has a part for which there is no room or a
number with too many digits. -/
def ReportRow.LacksText (room : Value.Room) (row : ReportRow) : Prop :=
  row.failure.value.isNull = false ∧ row.failure.value.LacksText room 0

/-- A screen accepts all the texts with marks in something. -/
def Screen.Accepts (screen : Screen) (item : Shown) : Prop :=
  ∀ text ∈ item.markups, screen.complaint? text = none

variable {room : Value.Room} {v : Value} {s : String} {text cut : String}

/-- The text that stands in a table is cut. -/
theorem Text.isCut_take (full : String) : IsCut full
    (if 30 < full.length then .ofList (full.toList.take 27) ++ "..." else full) := by
  split
  · next hlong =>
    refine ⟨?_, fun h => absurd hlong (by omega), fun _ => rfl⟩
    rw [String.length_append, String.length_ofList, List.length_take]
    have hdots : "...".length = 3 := rfl
    omega
  · next hshort =>
    exact ⟨by omega, fun _ => rfl, fun h => absurd h hshort⟩

/-- There is one way to cut a text. -/
theorem Text.isCut_unique {full cut cut' : String} (h : IsCut full cut) (h' : IsCut full cut') :
    cut = cut' := by
  by_cases hlong : 30 < full.length
  · rw [h.2.2 hlong, h'.2.2 hlong]
  · rw [h.2.1 (by omega), h'.2.1 (by omega)]

/-- A clear text is a cell as it stands. -/
theorem Cell.ofPlain_of_isClear (h : Text.IsClear text.toList) (style : String) :
    ofPlain text style = .styled text style := by
  have hkept : (text.toList.filter fun c => !([7, 8, 11, 12, 13].contains c.toNat)) = text.toList := by
    rw [List.filter_eq_self]
    intro c hc
    have hle := h c hc
    simp only [List.contains_cons, List.contains_nil, Bool.or_false, Bool.not_eq_true', Bool.or_eq_false_iff,
      beq_eq_false_iff_ne]
    omega
  rw [ofPlain, hkept, String.ofList_toList]

/-- The text of a value before it is cut is clear. -/
theorem Value.isClear_fullText (h : v.fullText room = .ok s) : Text.IsClear s.toList := by
  rw [fullText] at h
  split at h
  · cases h
    decide
  · exact isClear_shownIn h

/-- What is left of a clear text is clear. -/
theorem Text.IsCut.isClear {full : String} (h : IsCut full cut) (hfull : IsClear full.toList) :
    IsClear cut.toList := by
  by_cases hlong : 30 < full.length
  · rw [h.2.2 hlong, String.toList_append, String.toList_ofList, isClear_append]
    exact ⟨hfull.take 27, by decide⟩
  · rwa [h.2.1 (by omega)]

namespace Report

/-- The text of a value in a table is its full text, cut. -/
theorem valueText_eq (v : Value) : valueText room v = (v.fullText room).map fun full =>
    if 30 < full.length then .ofList (full.toList.take 27) ++ "..." else full := by
  rw [valueText, Value.fullText]
  cases v.isNull with
  | true => rfl
  | false => exact bind_pure_eq_map

/-- **A row is shown** as the cells that it should be shown as, if its value can be written. -/
theorem failureCells_eq_ok_iff {row : ReportRow} {number : Nat} {cells : List Cell} :
    failureCells room row number = .ok cells ↔ row.IsShownAs room number cells := by
  rw [failureCells, bind_eq_ok_iff]
  constructor
  · rintro ⟨cut, hcut, hcells⟩
    rw [valueText_eq, map_eq_ok_iff] at hcut
    obtain ⟨full, hfull, rfl⟩ := hcut
    have hisCut := Text.isCut_take full
    rw [Cell.ofPlain_of_isClear (hisCut.isClear (Value.isClear_fullText hfull))] at hcells
    exact ⟨full, _, hfull, hisCut, (Except.ok.inj hcells).symm⟩
  · rintro ⟨full, cut, hfull, hcut, rfl⟩
    have htext : valueText room row.failure.value = .ok cut := by
      rw [valueText_eq, hfull]
      exact congrArg Except.ok (Text.isCut_unique (Text.isCut_take full) hcut)
    refine ⟨cut, htext, ?_⟩
    rw [Cell.ofPlain_of_isClear (hcut.isClear (Value.isClear_fullText hfull))]
    rfl

/-- The number of rows that are shown under a limit: under a negative one, all but so many. -/
def shownCount (limit : Int) (total : Nat) : Nat :=
  if limit < 0 then total - limit.natAbs else min limit.toNat total

/-- The rows that a limit leaves are the first ones. -/
theorem limited_eq {α : Type} (limit : Int) (items : List α) :
    limited limit items = items.take (shownCount limit items.length) := by
  rw [limited, shownCount]
  split
  · rfl
  · rw [← List.take_eq_take_min]

/-- No more rows are shown than there are. -/
theorem shownCount_le (limit : Int) (total : Nat) : shownCount limit total ≤ total := by
  rw [shownCount]
  split
  · exact Nat.sub_le _ _
  · exact Nat.min_le_right _ _

/-- The limit is kept unless it is negative and there are more rows than it leaves out. -/
theorem shownCount_eq_iff (limit : Int) (total : Nat) :
    (shownCount limit total : Int) = min (max limit 0) total ↔ 0 ≤ limit ∨ total ≤ -limit := by
  rw [shownCount]
  split <;> omega

variable {r : Report} {limit : Int} {items : List Shown}

/-- What is to be shown of a report with failures, in terms of the number of rows. -/
theorem showFailures_eq (hrows : r.rows ≠ []) (limit : Int) : r.showFailures limit room =
    (((r.rows.take (shownCount limit r.rows.length)).zipIdx 1).mapM fun item =>
      failureCells room item.1 item.2).map fun rows =>
        let count := shownCount limit r.rows.length
        .table ⟨s!"Failures ({count} shown)", true, failureColumns, rows⟩ ::
          if r.rows.length - count = 0 then []
          else [.line s!"[dim]{r.rows.length - count} more failure(s) not shown[/dim]"] := by
  have hempty : r.rows.isEmpty = false := List.isEmpty_eq_false_iff.2 hrows
  have hcount : (r.rows.take (shownCount limit r.rows.length)).length = shownCount limit r.rows.length :=
    List.length_take_of_le (shownCount_le limit r.rows.length)
  simp only [showFailures, hempty, limited_eq, hcount]
  exact bind_pure_eq_map

/-- **A table of failures** is made, with the first rows, exactly if every value in them can be written. -/
theorem showFailures_eq_ok_iff (hrows : r.rows ≠ []) : r.showFailures limit room = .ok items ↔
    r.ShowsFirst room (shownCount limit r.rows.length) items := by
  have hle := shownCount_le limit r.rows.length
  rw [showFailures_eq hrows, map_eq_ok_iff]
  constructor
  · rintro ⟨rows, hcells, rfl⟩
    refine ⟨rows, r.rows.length - shownCount limit r.rows.length, by omega, ?_, rfl⟩
    exact (mapM_eq_ok_iff.1 hcells).imp fun _ _ => failureCells_eq_ok_iff.1
  · rintro ⟨rows, hidden, htotal, hcells, rfl⟩
    obtain rfl : r.rows.length - shownCount limit r.rows.length = hidden := by omega
    refine ⟨rows, mapM_eq_ok_iff.2 (hcells.imp fun _ _ => failureCells_eq_ok_iff.2), rfl⟩

/-- The cells of a row cannot be made if its value cannot be written. -/
theorem raises_failureCells {row : ReportRow} {number : Nat} :
    Raises (failureCells room row number) ↔ row.LacksText room := by
  rw [failureCells, raises_bind_pure, valueText_eq, raises_map, Value.fullText, raises_ite,
    Value.raises_shownIn_iff, ReportRow.LacksText]
  simp

/-- No table is made if the value of one of its rows cannot be written. -/
theorem raises_showFailures_iff (hrows : r.rows ≠ []) : Raises (r.showFailures limit room) ↔
    ∃ row ∈ r.rows.take (shownCount limit r.rows.length), row.LacksText room := by
  rw [showFailures_eq hrows, raises_map, raises_mapM_iff]
  generalize r.rows.take (shownCount limit r.rows.length) = rows
  have hfirst : (rows.zipIdx 1).map Prod.fst = rows := List.zipIdx_map_fst 1 rows
  simp only [raises_failureCells]
  constructor
  · rintro ⟨item, hitem, hlacks⟩
    exact ⟨item.1, hfirst ▸ List.mem_map_of_mem hitem, hlacks⟩
  · rintro ⟨row, hrow, hlacks⟩
    rw [← hfirst] at hrow
    obtain ⟨item, hitem, rfl⟩ := List.mem_map.1 hrow
    exact ⟨item, hitem, hlacks⟩

end Report

/-! ## Screens -/

namespace Screen

variable {screen : Screen} {item : Shown} {items : List Shown}

/-- A screen accepts something if it has no complaint about it. -/
theorem complaintAbout?_eq_none_iff : screen.complaintAbout? item = none ↔ screen.Accepts item :=
  List.findSome?_eq_none_iff

/-- What a screen accepts is shown. -/
theorem print_of_accepts (h : ∀ item ∈ items, screen.Accepts item) :
    screen.print items = ⟨items, none⟩ := by
  have hnone : ∀ item ∈ items, screen.complaintAbout? item = none := fun item hitem =>
    complaintAbout?_eq_none_iff.2 (h item hitem)
  have hall : (items.takeWhile fun item => (screen.complaintAbout? item).isNone) = items :=
    List.takeWhile_eq_self_iff.2 fun item hitem => by simp [hnone item hitem]
  rw [print, List.findSome?_eq_none_iff.2 hnone, hall, Option.map_none]

/-- What comes before something that a screen refuses is shown, and nothing after it. -/
theorem print_of_not_accepts {before after : List Shown} (hbefore : ∀ item ∈ before, screen.Accepts item)
    (hitem : ¬screen.Accepts item) :
    ∃ complaint, screen.print (before ++ item :: after) = ⟨before, some (.refused complaint)⟩ := by
  obtain ⟨complaint, hcomplaint⟩ :=
    Option.ne_none_iff_exists'.1 (mt complaintAbout?_eq_none_iff.1 hitem)
  have hnone : ∀ item ∈ before, screen.complaintAbout? item = none := fun item hitem =>
    complaintAbout?_eq_none_iff.2 (hbefore item hitem)
  have hshown : ((before ++ item :: after).takeWhile fun item => (screen.complaintAbout? item).isNone) =
      before := by
    rw [List.takeWhile_append_of_pos fun item hitem => by simp [hnone item hitem],
      List.takeWhile_cons_of_neg (by simp [hcomplaint]), List.append_nil]
  have hfault : (before ++ item :: after).findSome? screen.complaintAbout? = some complaint := by
    rw [List.findSome?_append, List.findSome?_eq_none_iff.2 hnone, Option.none_or,
      List.findSome?_cons_of_isSome (by simp [hcomplaint]), hcomplaint]
  exact ⟨complaint, by rw [print, hshown, hfault, Option.map_some]⟩

end Screen

/-! ## Reports on screens -/

namespace Report

variable {r : Report}

/-- **The failures of a report that has any**, on a screen. Nothing is shown if a value among the rows to be
shown cannot be written. Otherwise a table of these rows, numbered from one and with its title, its cells and
the number of the hidden rows as they should be, is shown as far as the screen accepts the texts in it. There
are as many rows as the limit allows, if it is not negative. -/
theorem displayFailures_exact (screen : Screen) (room : Value.Room) (hrows : r.rows ≠ []) (limit : Int) :
    let count := shownCount limit r.rows.length
    let showing := r.displayFailures screen room limit
    ((∃ row ∈ r.rows.take count, row.LacksText room) → ∃ e, showing = ⟨[], some (.unwritable e)⟩) ∧
      ((∀ row ∈ r.rows.take count, ¬row.LacksText room) → ∃ items, r.ShowsFirst room count items ∧
        ((∀ item ∈ items, screen.Accepts item) → showing = ⟨items, none⟩) ∧
        ∀ before item after, items = before ++ item :: after →
          (∀ other ∈ before, screen.Accepts other) → ¬screen.Accepts item →
          ∃ complaint, showing = ⟨before, some (.refused complaint)⟩) ∧
      ((count : Int) = min (max limit 0) r.rows.length ↔ 0 ≤ limit ∨ r.rows.length ≤ -limit) := by
  intro count showing
  refine ⟨fun hlacks => ?_, fun hwritten => ?_, shownCount_eq_iff limit r.rows.length⟩
  · obtain ⟨e, he⟩ := (raises_showFailures_iff hrows).2 hlacks
    exact ⟨e, by simp only [showing, displayFailures, he]⟩
  · cases hitems : r.showFailures limit room with
    | error e =>
      obtain ⟨row, hrow, hlacks⟩ := (raises_showFailures_iff hrows).1 ⟨e, hitems⟩
      exact absurd hlacks (hwritten row hrow)
    | ok items =>
      have hshowing : showing = screen.print items := by simp only [showing, displayFailures, hitems]
      refine ⟨items, (showFailures_eq_ok_iff hrows).1 hitems, ?_, ?_⟩
      · exact fun haccepts => hshowing.trans (Screen.print_of_accepts haccepts)
      · rintro before item after rfl hbefore hitem
        rw [hshowing]
        exact Screen.print_of_not_accepts hbefore hitem

/-- The first of two failures, with a value that has no room. -/
theorem displayFailures_exact_cut :
    let row : ReportRow :=
      ⟨0, ⟨"note", .text "0123456789012345678901234567890", "email", .null⟩, "Not an address"⟩
    let r : Report := ⟨"", 1, 1, [row, row], ""⟩
    (∃ items, r.displayFailures .ofMarks .unlimited 1 = ⟨items, none⟩ ∧ r.ShowsFirst .unlimited 1 items) ∧
      (1 : Int) = min (max 1 0) 2 ∧
      row.IsShownAs .unlimited 1 [.markup "1", .markup "0", .markup "note", .markup "email",
        .styled "'01234567890123456789012345..." "", .markup "Not an address"] := by
  intro row r
  have hrows : r.rows ≠ [] := List.cons_ne_nil row [row]
  have hfull : row.failure.value.fullText .unlimited = .ok "'0123456789012345678901234567890'" := rfl
  have hwritten : ∀ row ∈ r.rows.take 1, ¬row.LacksText .unlimited := by
    rintro row' hrow' ⟨-, hlacks⟩
    obtain rfl := List.mem_singleton.1 hrow'
    obtain ⟨e, he⟩ := Value.raises_shownIn_iff.2 hlacks
    cases hfull.symm.trans he
  obtain ⟨-, htable, hcount⟩ := displayFailures_exact .ofMarks .unlimited hrows 1
  obtain ⟨items, hitems, hshowing, -⟩ := htable hwritten
  have hmade : r.showFailures 1 .unlimited = .ok items := (showFailures_eq_ok_iff hrows).2 hitems
  have hquiet : ((r.showFailures 1 .unlimited).toOption.getD []).all
      (fun item => (Screen.ofMarks.complaintAbout? item).isNone) = true := by decide +kernel
  rw [hmade] at hquiet
  have haccepts : ∀ item ∈ items, Screen.ofMarks.Accepts item := fun item hitem =>
    Screen.complaintAbout?_eq_none_iff.1 (Option.isNone_iff_eq_none.1 (List.all_eq_true.1 hquiet item hitem))
  have hcut : Text.IsCut "'0123456789012345678901234567890'" "'01234567890123456789012345..." :=
    ⟨by decide, by decide, fun _ => rfl⟩
  have hone : Nat.repr 1 = "1" := by decide
  have hzero : Nat.repr 0 = "0" := by decide
  exact ⟨⟨items, hshowing haccepts, hitems⟩, hcount.2 (.inl (by decide)), _, _, hfull, hcut,
    by simp [row, hone, hzero]⟩

/-- Under the limit of minus one, all but the last of the failures are shown. -/
theorem displayFailures_negative :
    let row : ReportRow := ⟨0, ⟨"name", .null, "required", .null⟩, "The Name field is required"⟩
    let r : Report := ⟨"", 1, 1, [row, row], ""⟩
    r.displayFailures .ofMarks .unlimited (-1) = ⟨[
        .table ⟨"Failures (1 shown)", true, failureColumns, [[.markup "1", .markup "0", .markup "name",
          .markup "required", .styled "-" "", .markup "The Name field is required"]]⟩,
        .line "[dim]1 more failure(s) not shown[/dim]"], none⟩ ∧
      min (max (-1) 0) (r.rows.length : Int) = 0 := by
  decide +kernel

/-- A message that closes what is not open keeps the table from the screen. -/
example :
    let row : ReportRow := ⟨0, ⟨"path", .text "x", "starts", .null⟩, "Does not start with [/usr]"⟩
    let r : Report := ⟨"", 1, 1, [row], ""⟩
    r.displayFailures .ofMarks .unlimited 1 =
      ⟨[], some (.refused "closing tag '[/usr]' at position 20 doesn't match any open tag")⟩ := by
  decide +kernel

end Report

end RecordRules
