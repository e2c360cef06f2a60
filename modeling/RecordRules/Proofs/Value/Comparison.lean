import RecordRules.Check.Comparison
import RecordRules.Proofs.Traversal
import RecordRules.Proofs.Value.Equality

/-!
# When values can be compared

The comparison of two values goes through pairs of parts in order, as long as they are equal
(`Value.Matched`). It has no answer if it comes to a pair of numbers of which one is signaling, or to
a pair for which there is no room, and only then (`Value.raises_compare_iff`). So values that are
nested within the room and hold no signaling decimal can be compared (`Value.Tame.not_raises_compare`),
while values nested beyond it cannot (`Value.raises_compare_nested`). An answer is what equality says
(`Value.WellFormed.same_of_compare`), and that two values are found equal does not depend on which of
them stands on the left (`Value.WellFormed.compare_symm`).
-/

namespace RecordRules

/-- Two items stand at the same place of two lists, and the items before them are related in turn. -/
inductive Reaches {α β : Type} (r : α → β → Prop) (a : α) (b : β) : List α → List β → Prop
  | here {as : List α} {bs : List β} : Reaches r a b (a :: as) (b :: bs)
  | later {c : α} {d : β} {as : List α} {bs : List β} (h : r c d) (hrest : Reaches r a b as bs) :
      Reaches r a b (c :: as) (d :: bs)

/-- The items that are reached are items of the lists. -/
theorem Reaches.mem {α β : Type} {r : α → β → Prop} {a : α} {b : β} {as : List α} {bs : List β}
    (h : Reaches r a b as bs) : a ∈ as ∧ b ∈ bs := by
  induction h with
  | here => exact ⟨List.mem_cons_self, List.mem_cons_self⟩
  | later _ _ ih => exact ih.imp (List.mem_cons_of_mem _) (List.mem_cons_of_mem _)

namespace Value

variable {room : PairRoom} {depth : Nat} {u v w : Value} {vs ws : List Value}
  {entries entries' : List (Value × Value)}

/-! ## Equal pairs -/

/-- There is room for a pair inside a number of pairs of containers, and its values are found equal. -/
structure Matched (room : PairRoom) (depth : Nat) (v w : Value) : Prop where
  allowed : room.allows depth v w = true
  equal : compare room depth v w = .ok true

/-- An entry has a partner in a dictionary, that of an equal key. -/
def IsPartner (entries : List (Value × Value)) (e f : Value × Value) : Prop :=
  entries.find? (same e.1 ·.1) = some f

/-- An entry and its partner in a dictionary have equal values. -/
structure MatchedEntry (room : PairRoom) (depth : Nat) (entries : List (Value × Value))
    (e f : Value × Value) : Prop where
  partner : IsPartner entries e f
  value : Matched room depth e.2 f.2

section
variable {rest : Except Cause Bool} {cause : Cause}

/-- A pair and what comes after it are found equal if the pair is matched and the rest is found equal. -/
theorem comparePair_eq_true_iff :
    (if room.allows depth v w then do
        if ← compare room depth v w then rest else return false
      else .error cause) = .ok true ↔ Matched room depth v w ∧ rest = .ok true := by
  constructor
  · intro h
    split at h
    · next hroom =>
      obtain ⟨equal, hequal, h⟩ := bind_eq_ok_iff.1 h
      cases equal with
      | true => exact ⟨⟨hroom, hequal⟩, h⟩
      | false => cases h
    · cases h
  · rintro ⟨⟨hroom, hequal⟩, h⟩
    rw [if_pos hroom, hequal]
    exact h

/-- They have no answer if there is no room or no answer for the pair, or the pair is matched and the
rest has none. -/
theorem raises_comparePair_iff :
    Raises (if room.allows depth v w then do
        if ← compare room depth v w then rest else return false
      else .error cause) ↔
      (room.allows depth v w = true → Raises (compare room depth v w)) ∨
        Matched room depth v w ∧ Raises rest := by
  by_cases hroom : room.allows depth v w = true
  · rw [if_pos hroom]
    cases hequal : compare room depth v w with
    | error e => exact iff_of_true (raises_error e) (.inl fun _ => raises_error e)
    | ok equal =>
      have hanswer (hraises : room.allows depth v w = true → Raises (.ok equal : Except Cause Bool)) :
          False := raises_ok equal (hraises hroom)
      cases equal with
      | true => exact ⟨fun h => .inr ⟨⟨hroom, hequal⟩, h⟩, fun h => (h.resolve_left hanswer).2⟩
      | false =>
        refine iff_of_false (raises_ok false) ?_
        rintro (hraises | ⟨hmatched, -⟩)
        · exact hanswer hraises
        · cases hequal.symm.trans hmatched.equal
  · rw [if_neg hroom]
    exact iff_of_true (raises_error cause) (.inl fun hallowed => absurd hallowed hroom)

end

/-- Items are found equal if they are matched in turn. -/
theorem compareItems_eq_true_iff :
    compareItems room depth vs ws = .ok true ↔ List.Forall₂ (Matched room depth) vs ws := by
  induction vs generalizing ws with
  | nil => cases ws <;> simp [compareItems]
  | cons v vs ih =>
    cases ws with
    | nil => simp [compareItems]
    | cons w ws => rw [compareItems, comparePair_eq_true_iff, List.forall₂_cons, ih]

/-- The entries of a dictionary are found in another if each of them is matched with its partner. -/
theorem compareEntries_eq_true_iff : compareEntries room depth entries entries' = .ok true ↔
    ∀ e ∈ entries, ∃ f, MatchedEntry room depth entries' e f := by
  induction entries with
  | nil => simp [compareEntries]
  | cons e entries ih =>
    obtain ⟨k, v⟩ := e
    rw [compareEntries, List.forall_mem_cons, ← ih]
    constructor
    · intro h
      split at h
      · cases h
      · next l w hpartner =>
        obtain ⟨hmatched, h⟩ := comparePair_eq_true_iff.1 h
        exact ⟨⟨(l, w), hpartner, hmatched⟩, h⟩
    · rintro ⟨⟨⟨l, w⟩, hpartner, hmatched⟩, h⟩
      dsimp only [IsPartner] at hpartner
      rw [hpartner]
      exact comparePair_eq_true_iff.2 ⟨hmatched, h⟩

/-- Values whose parts are compared in pairs. -/
def isNested : Value → Bool
  | list _ | tuple _ | dict _ => true
  | _ => false

/-- A value without parts to compare is equal to what equality says, unless the two clash. -/
theorem compare_of_not_isNested (h : v.isNested = false) :
    compare room depth v w = if clashes v w then .error .signalingNumber else .ok (same v w) := by
  rw [compare] <;> rintro _ _ rfl <;> cases h

/-- What a list is found equal to is a list of matched items. -/
theorem compare_list_iff : compare room depth (list vs) w = .ok true ↔
    ∃ ws, w = list ws ∧ List.Forall₂ (Matched room (depth + 1)) vs ws := by
  cases w with
  | list ws =>
    rw [compare]
    constructor
    · intro h
      split at h
      · exact ⟨ws, rfl, compareItems_eq_true_iff.1 h⟩
      · cases h
    · rintro ⟨_, ⟨rfl⟩, h⟩
      rw [if_pos h.length_eq, compareItems_eq_true_iff.2 h]
  | _ => simp [compare, clashes, isSignaling, isNumber, same, asNumber, sameNumber]

/-- What a tuple is found equal to is a tuple of matched items. -/
theorem compare_tuple_iff : compare room depth (tuple vs) w = .ok true ↔
    ∃ ws, w = tuple ws ∧ List.Forall₂ (Matched room (depth + 1)) vs ws := by
  cases w with
  | tuple ws => simp [compare, compareItems_eq_true_iff]
  | _ => simp [compare, clashes, isSignaling, isNumber, same, asNumber, sameNumber]

/-- What a dictionary is found equal to is one of as many entries, matched as partners. -/
theorem compare_dict_iff : compare room depth (dict entries) w = .ok true ↔
    ∃ entries', w = dict entries' ∧ entries.length = entries'.length ∧
      ∀ e ∈ entries, ∃ f, MatchedEntry room (depth + 1) entries' e f := by
  cases w with
  | dict entries' =>
    rw [compare]
    constructor
    · intro h
      split at h
      · next hlength => exact ⟨entries', rfl, hlength, compareEntries_eq_true_iff.1 h⟩
      · cases h
    · rintro ⟨_, ⟨rfl⟩, hlength, h⟩
      rw [if_pos hlength, compareEntries_eq_true_iff.2 h]
  | _ => simp [compare, clashes, isSignaling, isNumber, same, asNumber, sameNumber]

/-! ## Either side -/

/-- What is matched in turn is so the other way round, if what is found equal is. -/
theorem forall₂_matched_symm (h : List.Forall₂ (Matched room depth) vs ws)
    (hsymm : ∀ v ∈ vs, ∀ w ∈ ws,
      compare room depth v w = .ok true → compare room depth w v = .ok true) :
    List.Forall₂ (Matched room depth) ws vs := by
  induction h with
  | nil => exact .nil
  | cons hmatched _ ih =>
    simp only [List.forall_mem_cons] at hsymm
    exact .cons ⟨(room.comm ..).trans hmatched.allowed, hsymm.1.1 hmatched.equal⟩
      (ih fun v hv => (hsymm.2 v hv).2)

/-- An entry whose key equals that of another is its partner: no other key does. -/
theorem WellFormed.isPartner {e f : Value × Value} (h : (Value.dict entries).WellFormed)
    (he : e.1.WellFormed) (hf : f ∈ entries) (hsame : same e.1 f.1 = true) :
    IsPartner entries e f := by
  obtain ⟨hentries, hdistinct⟩ := wellFormed_dict_iff.1 h
  induction entries with
  | nil => cases hf
  | cons g rest ih =>
    obtain ⟨hg, hrest⟩ := List.forall_mem_cons.1 hentries
    obtain ⟨hfirst, hdistinct⟩ := List.pairwise_cons.1 hdistinct
    rw [IsPartner, List.find?_cons]
    rcases List.mem_cons.1 hf with rfl | hf
    · rw [hsame]
    · have hother : same e.1 g.1 = false := by
        rw [Bool.eq_false_iff]
        intro hequal
        have hkey := he.same_symm hg.1 hequal
        have hclash := hg.1.same_trans he (hrest f hf).1 hkey hsame
        rw [hfirst f hf] at hclash
        cases hclash
      rw [hother]
      exact ih (wellFormed_dict_iff.2 ⟨hrest, hdistinct⟩) hf hrest hdistinct

/-- A value without parts to compare that equals another equals one of its kind. -/
theorem WellFormed.not_isNested (hv : v.WellFormed) (hw : w.WellFormed) (hsingle : v.isNested = false)
    (hsame : same v w = true) : w.isNested = false := by
  have hsame' := hv.same_symm hw hsame
  cases w with
  | list =>
    obtain ⟨_, rfl, -⟩ := same_list_iff.1 hsame'
    cases hsingle
  | tuple =>
    obtain ⟨_, rfl, -⟩ := same_tuple_iff.1 hsame'
    cases hsingle
  | dict =>
    obtain ⟨_, rfl, -⟩ := same_dict_iff.1 hsame'
    cases hsingle
  | _ => rfl

/-- Two values clash whichever of them stands on the left. -/
theorem clashes_comm (v w : Value) : clashes v w = clashes w v := Bool.or_comm _ _

/-- A value without parts is found equal to another from either side. -/
theorem WellFormed.compare_symm_of_not_isNested (hv : v.WellFormed) (hw : w.WellFormed)
    (hsingle : v.isNested = false) (h : compare room depth v w = .ok true) :
    compare room depth w v = .ok true := by
  rw [compare_of_not_isNested hsingle] at h
  split at h
  · cases h
  · next hclash =>
    have hsame := Except.ok.inj h
    rw [compare_of_not_isNested (hv.not_isNested hw hsingle hsame), clashes_comm, if_neg hclash,
      hv.same_symm hw hsame]

/-- **That two values are found equal** does not depend on which of them stands on the left. Each
entry of the right dictionary is the partner of one of the left, as there are as many of them. -/
theorem WellFormed.compare_symm (hv : v.WellFormed) (hw : w.WellFormed)
    (h : compare room depth v w = .ok true) : compare room depth w v = .ok true := by
  induction hv generalizing w depth with
  | @atom v hatom =>
    refine (WellFormed.atom hatom).compare_symm_of_not_isNested hw ?_ h
    cases v with
    | list | tuple | dict => cases hatom
    | _ => rfl
  | set hvs hdistinct => exact (WellFormed.set hvs hdistinct).compare_symm_of_not_isNested hw rfl h
  | list hvs ih =>
    obtain ⟨ws, rfl, hitems⟩ := compare_list_iff.1 h
    exact compare_list_iff.2 ⟨_, rfl, forall₂_matched_symm hitems fun v hv w hw' =>
      ih v hv (wellFormed_list_iff.1 hw w hw')⟩
  | tuple hvs ih =>
    obtain ⟨ws, rfl, hitems⟩ := compare_tuple_iff.1 h
    exact compare_tuple_iff.2 ⟨_, rfl, forall₂_matched_symm hitems fun v hv w hw' =>
      ih v hv (wellFormed_tuple_iff.1 hw w hw')⟩
  | @dict vs hkeys hvalues hdistinct _ ih =>
    obtain ⟨ws, rfl, hlength, hitems⟩ := compare_dict_iff.1 h
    obtain ⟨hws, -⟩ := wellFormed_dict_iff.1 hw
    have hfound : ∀ e ∈ vs, ∃ f ∈ ws, same e.1 f.1 = true ∧ Matched room (depth + 1) e.2 f.2 := by
      intro e he
      obtain ⟨f, hpartner, hmatched⟩ := hitems e he
      have hkey := List.find?_some hpartner
      exact ⟨f, List.mem_of_find?_eq_some hpartner, hkey, hmatched⟩
    have hpartner := exists_partner hlength.ge hfound
      (hdistinct.imp_of_mem fun {e e'} he he' hne f hf hsame hsame' => by
        have hkey' := (hkeys e' he').same_symm (hws f hf).1 hsame'.1
        rw [(hkeys e he).same_trans (hws f hf).1 (hkeys e' he') hsame.1 hkey'] at hne
        cases hne)
    refine compare_dict_iff.2 ⟨vs, rfl, hlength.symm, fun f hf => ?_⟩
    obtain ⟨e, he, hkey, hmatched⟩ := hpartner f hf
    have hkey' := (hkeys e he).same_symm (hws f hf).1 hkey
    have hallowed := (room.comm (depth + 1) f.2 e.2).trans hmatched.allowed
    exact ⟨e, (WellFormed.dict hkeys hvalues hdistinct).isPartner (hws f hf).1 he hkey', hallowed,
      ih e he (hws f hf).2 hmatched.equal⟩

/-! ## Answers -/

/-- The answer about items is right if the answers about pairs of them are. -/
theorem sameItems_of_compareItems {equal : Bool}
    (hpairs : ∀ v ∈ vs, ∀ w ∈ ws, ∀ b, compare room depth v w = .ok b → same v w = b)
    (h : compareItems room depth vs ws = .ok equal) : sameItems vs ws = equal := by
  induction vs generalizing ws with
  | nil => simpa [compareItems, sameItems] using h
  | cons v vs ih =>
    cases ws with
    | nil => simpa [compareItems, sameItems] using h
    | cons w ws =>
      simp only [List.forall_mem_cons] at hpairs
      rw [compareItems] at h
      split at h
      · obtain ⟨b, hb, h⟩ := bind_eq_ok_iff.1 h
        rw [sameItems, hpairs.1.1 b hb]
        cases b with
        | true => exact ih (fun v hv => (hpairs.2 v hv).2) h
        | false => exact Except.ok.inj h
      · cases h

/-- An entry equals one of a dictionary if it has a partner there, with an equal value. -/
theorem WellFormed.any_same_eq {e : Value × Value} (h : (Value.dict entries).WellFormed)
    (he : e.1.WellFormed) : (entries.any fun f => same e.1 f.1 && same e.2 f.2) =
      (entries.find? (same e.1 ·.1)).any fun f => same e.2 f.2 := by
  rw [Bool.eq_iff_iff, List.any_eq_true, Option.any_eq_true]
  simp only [Bool.and_eq_true]
  constructor
  · rintro ⟨f, hf, hkey, hvalue⟩
    exact ⟨f, h.isPartner he hf hkey, hvalue⟩
  · rintro ⟨f, hpartner, hvalue⟩
    have hkey := List.find?_some hpartner
    exact ⟨f, List.mem_of_find?_eq_some hpartner, hkey, hvalue⟩

/-- The answer about entries is right if the answers about pairs of values are. -/
theorem subentries_of_compareEntries {equal : Bool} (hright : (Value.dict entries').WellFormed)
    (hkeys : ∀ e ∈ entries, e.1.WellFormed)
    (hpairs : ∀ e ∈ entries, ∀ f ∈ entries', ∀ b,
      compare room depth e.2 f.2 = .ok b → same e.2 f.2 = b)
    (h : compareEntries room depth entries entries' = .ok equal) :
    subentries entries entries' = equal := by
  induction entries with
  | nil => simpa [compareEntries, subentries] using h
  | cons e entries ih =>
    obtain ⟨k, v⟩ := e
    obtain ⟨hk, hkeys⟩ := List.forall_mem_cons.1 hkeys
    obtain ⟨hv, hpairs⟩ := List.forall_mem_cons.1 hpairs
    have hany := hright.any_same_eq (e := (k, v)) hk
    rw [compareEntries] at h
    split at h
    · next hnone =>
      rw [hnone] at hany
      rw [subentries, hany]
      exact Except.ok.inj h
    · next l w hpartner =>
      rw [hpartner] at hany
      split at h
      · obtain ⟨b, hb, h⟩ := bind_eq_ok_iff.1 h
        have hvalue := hv (l, w) (List.mem_of_find?_eq_some hpartner) b hb
        rw [subentries, hany, Option.any_some, hvalue]
        cases b with
        | true => exact ih hkeys hpairs h
        | false => exact Except.ok.inj h
      · cases h

/-- The answer about a value without parts to compare is what equality says. -/
theorem same_of_compare_of_not_isNested {equal : Bool} (hsingle : v.isNested = false)
    (h : compare room depth v w = .ok equal) : same v w = equal := by
  rw [compare_of_not_isNested hsingle] at h
  split at h
  · cases h
  · exact Except.ok.inj h

/-- **An answer is what equality says.** -/
theorem WellFormed.same_of_compare {equal : Bool} (hv : v.WellFormed) (hw : w.WellFormed)
    (h : compare room depth v w = .ok equal) : same v w = equal := by
  induction hv generalizing w depth equal with
  | @atom v hatom =>
    refine same_of_compare_of_not_isNested ?_ h
    cases v with
    | list | tuple | dict => cases hatom
    | _ => rfl
  | set => exact same_of_compare_of_not_isNested rfl h
  | list hvs ih =>
    cases w with
    | list ws =>
      have hws := wellFormed_list_iff.1 hw
      rw [compare] at h
      split at h
      · rw [same]
        exact sameItems_of_compareItems (fun v hv w hw' _ => ih v hv (hws w hw')) h
      · next hlength =>
        obtain rfl := Except.ok.inj h
        rw [Bool.eq_false_iff, ne_eq, same_list_iff]
        rintro ⟨_, ⟨rfl⟩, hitems⟩
        exact hlength hitems.length_eq
    | _ => simpa [compare, clashes, isSignaling, isNumber] using h
  | tuple hvs ih =>
    cases w with
    | tuple ws =>
      have hws := wellFormed_tuple_iff.1 hw
      rw [compare] at h
      rw [same]
      exact sameItems_of_compareItems (fun v hv w hw' _ => ih v hv (hws w hw')) h
    | _ => simpa [compare, clashes, isSignaling, isNumber] using h
  | dict hkeys hvalues hdistinct _ ih =>
    cases w with
    | dict entries =>
      obtain ⟨hentries, -⟩ := wellFormed_dict_iff.1 hw
      rw [compare] at h
      split at h
      · next hlength =>
        rw [same, hlength, beq_self_eq_true, Bool.true_and]
        exact subentries_of_compareEntries hw hkeys (fun e he f hf _ => ih e he (hentries f hf).2) h
      · next hlength =>
        obtain rfl := Except.ok.inj h
        rw [same, beq_false_of_ne hlength, Bool.false_and]
    | _ => simpa [compare, clashes, isSignaling, isNumber] using h

/-! ## Pairs without an answer -/

/-- The comparison of two containers, inside a number of pairs of containers, comes to a pair directly in
them. The pairs before it are matched. -/
inductive ComesTo (room : PairRoom) (depth : Nat) : Value → Value → Value → Value → Prop
  | list {vs ws : List Value} {v w : Value} (hlength : vs.length = ws.length)
      (hreaches : Reaches (Matched room (depth + 1)) v w vs ws) :
      ComesTo room depth (list vs) (list ws) v w
  | tuple {vs ws : List Value} {v w : Value}
      (hreaches : Reaches (Matched room (depth + 1)) v w vs ws) :
      ComesTo room depth (tuple vs) (tuple ws) v w
  | dict {entries entries' partners : List (Value × Value)} {e f : Value × Value}
      (hlength : entries.length = entries'.length)
      (hreaches : Reaches (MatchedEntry room (depth + 1) entries') e f entries partners)
      (hpartner : IsPartner entries' e f) :
      ComesTo room depth (dict entries) (dict entries') e.2 f.2

/-- A comparison inside a number of pairs of containers comes to a pair without an answer: to two
numbers of which one is signaling, or to a pair for which there is no room. -/
inductive Stuck (room : PairRoom) : Nat → Value → Value → Prop
  | numbers {depth : Nat} {v w : Value} (h : clashes v w = true) : Stuck room depth v w
  | inside {depth : Nat} {v w v' w' : Value} (hpair : ComesTo room depth v w v' w')
      (h : room.allows (depth + 1) v' w' = true → Stuck room (depth + 1) v' w') :
      Stuck room depth v w

/-- A pair to which a comparison comes is smaller than the pair that is compared. -/
theorem ComesTo.sizeOf_lt {v' w' : Value} (h : ComesTo room depth v w v' w') : sizeOf v' < sizeOf v := by
  cases h with
  | list _ hreaches | tuple hreaches =>
    have hpart := List.sizeOf_lt_of_mem hreaches.mem.1
    simp only [list.sizeOf_spec, tuple.sizeOf_spec]
    omega
  | @dict entries _ _ e _ _ hreaches =>
    have hpart := List.sizeOf_lt_of_mem hreaches.mem.1
    rw [Prod.mk.sizeOf_spec] at hpart
    rw [dict.sizeOf_spec]
    omega

/-- The comparison of items raises if it reaches two for which there is no room or no answer. -/
theorem raises_compareItems_iff : Raises (compareItems room depth vs ws) ↔
    ∃ v w, Reaches (Matched room depth) v w vs ws ∧
      (room.allows depth v w = true → Raises (compare room depth v w)) := by
  induction vs generalizing ws with
  | nil =>
    rw [compareItems]
    exact iff_of_false (raises_ok _) fun ⟨_, _, h, _⟩ => nomatch h
  | cons v vs ih =>
    cases ws with
    | nil =>
      rw [compareItems]
      exact iff_of_false (raises_ok _) fun ⟨_, _, h, _⟩ => nomatch h
    | cons w ws =>
      rw [compareItems, raises_comparePair_iff, ih]
      constructor
      · rintro (hraises | ⟨hmatched, v', w', hrest, hraises⟩)
        · exact ⟨v, w, .here, hraises⟩
        · exact ⟨v', w', .later hmatched hrest, hraises⟩
      · rintro ⟨v', w', hreaches, hraises⟩
        cases hreaches with
        | here => exact .inl hraises
        | later hmatched hrest => exact .inr ⟨hmatched, v', w', hrest, hraises⟩

/-- The comparison of entries raises if it reaches one and its partner with such values. -/
theorem raises_compareEntries_iff : Raises (compareEntries room depth entries entries') ↔
    ∃ e f partners, Reaches (MatchedEntry room depth entries') e f entries partners ∧
      IsPartner entries' e f ∧
      (room.allows depth e.2 f.2 = true → Raises (compare room depth e.2 f.2)) := by
  induction entries with
  | nil =>
    rw [compareEntries]
    exact iff_of_false (raises_ok _) fun ⟨_, _, _, h, _⟩ => nomatch h
  | cons e entries ih =>
    obtain ⟨k, v⟩ := e
    rw [compareEntries]
    constructor
    · intro h
      split at h
      · exact absurd h (raises_ok _)
      · next l w hpartner =>
        rcases raises_comparePair_iff.1 h with hraises | ⟨hmatched, h⟩
        · exact ⟨(k, v), (l, w), [(l, w)], .here, hpartner, hraises⟩
        · obtain ⟨e, f, partners, hrest, hpartner', hraises⟩ := ih.1 h
          have hentry : MatchedEntry room depth entries' (k, v) (l, w) := ⟨hpartner, hmatched⟩
          exact ⟨e, f, (l, w) :: partners, .later hentry hrest, hpartner', hraises⟩
    · rintro ⟨e, f, partners, hreaches, hpartner, hraises⟩
      cases hreaches with
      | here =>
        dsimp only [IsPartner] at hpartner
        rw [hpartner]
        exact raises_comparePair_iff.2 (.inl hraises)
      | later hentry hrest =>
        obtain ⟨hfound, hmatched⟩ := hentry
        dsimp only [IsPartner] at hfound
        rw [hfound]
        exact raises_comparePair_iff.2 (.inr ⟨hmatched, ih.2 ⟨e, f, _, hrest, hpartner, hraises⟩⟩)

/-- A comparison has no answer if it comes to a pair without room or without an answer. -/
theorem ComesTo.raises {v' w' : Value} (h : ComesTo room depth v w v' w')
    (hraises : room.allows (depth + 1) v' w' = true → Raises (compare room (depth + 1) v' w')) :
    Raises (compare room depth v w) := by
  cases h with
  | list hlength hreaches =>
    rw [compare, if_pos hlength]
    exact raises_compareItems_iff.2 ⟨_, _, hreaches, hraises⟩
  | tuple hreaches =>
    rw [compare]
    exact raises_compareItems_iff.2 ⟨_, _, hreaches, hraises⟩
  | dict hlength hreaches hpartner =>
    rw [compare, if_pos hlength]
    exact raises_compareEntries_iff.2 ⟨_, _, _, hreaches, hpartner, hraises⟩

/-- A comparison without an answer is one of numbers that clash, or comes to such a pair. -/
theorem clashes_or_comesTo_of_raises (h : Raises (compare room depth v w)) : clashes v w = true ∨
    ∃ v' w', ComesTo room depth v w v' w' ∧
      (room.allows (depth + 1) v' w' = true → Raises (compare room (depth + 1) v' w')) := by
  cases v with
  | list vs =>
    cases w with
    | list ws =>
      rw [compare] at h
      split at h
      · next hlength =>
        obtain ⟨v', w', hreaches, hraises⟩ := raises_compareItems_iff.1 h
        exact .inr ⟨v', w', .list hlength hreaches, hraises⟩
      · exact absurd h (raises_ok _)
    | _ => simp [compare, clashes, isSignaling, isNumber] at h
  | tuple vs =>
    cases w with
    | tuple ws =>
      rw [compare] at h
      obtain ⟨v', w', hreaches, hraises⟩ := raises_compareItems_iff.1 h
      exact .inr ⟨v', w', .tuple hreaches, hraises⟩
    | _ => simp [compare, clashes, isSignaling, isNumber] at h
  | dict entries =>
    cases w with
    | dict entries' =>
      rw [compare] at h
      split at h
      · next hlength =>
        obtain ⟨e, f, partners, hreaches, hpartner, hraises⟩ := raises_compareEntries_iff.1 h
        exact .inr ⟨e.2, f.2, .dict hlength hreaches hpartner, hraises⟩
      · exact absurd h (raises_ok _)
    | _ => simp [compare, clashes, isSignaling, isNumber] at h
  | _ =>
    rw [compare_of_not_isNested rfl] at h
    split at h
    · next hclash => exact .inl hclash
    · exact absurd h (raises_ok _)

/-- A comparison that gets stuck has no answer. -/
theorem Stuck.raises (h : Stuck room depth v w) : Raises (compare room depth v w) := by
  induction h with
  | @numbers depth v w h =>
    have hsingle : v.isNested = false := by
      cases v <;> simp_all [clashes, isSignaling, isNumber, isNested]
    rw [compare_of_not_isNested hsingle, if_pos h]
    exact raises_error _
  | inside hpair _ ih => exact hpair.raises ih

/-- A comparison without an answer gets stuck. The induction is on the size of the first value, since
the comparison comes to smaller ones. -/
theorem Stuck.of_raises (h : Raises (compare room depth v w)) : Stuck room depth v w := by
  induction hsize : sizeOf v using Nat.strongRecOn generalizing depth v w with
  | _ size ih =>
    subst hsize
    rcases clashes_or_comesTo_of_raises h with hclash | ⟨v', w', hpair, hraises⟩
    · exact .numbers hclash
    · exact .inside hpair fun hallowed => ih _ hpair.sizeOf_lt (hraises hallowed) rfl

/-- **A comparison has no answer** if it comes to a pair without one, and only then. -/
theorem raises_compare_iff : Raises (compare room depth v w) ↔ Stuck room depth v w :=
  ⟨Stuck.of_raises, Stuck.raises⟩

/-- A comparison with a text does not get stuck. -/
theorem Stuck.ne_text (h : Stuck room depth v w) (s : String) : w ≠ .text s := by
  rintro rfl
  cases h with
  | numbers hclash => simp [clashes, isSignaling, isNumber] at hclash
  | inside hpair => cases hpair

/-! ## Values within and beyond the room -/

/-- Values without signaling decimals in which containers are nested at most so deep. -/
inductive Tame : Nat → Value → Prop
  | single {n : Nat} {v : Value} (h : v.isNested = false) (hquiet : v.isSignaling = false) : Tame n v
  | list {n : Nat} {vs : List Value} (h : ∀ v ∈ vs, Tame n v) : Tame (n + 1) (list vs)
  | tuple {n : Nat} {vs : List Value} (h : ∀ v ∈ vs, Tame n v) : Tame (n + 1) (tuple vs)
  | dict {n : Nat} {entries : List (Value × Value)} (h : ∀ e ∈ entries, Tame n e.2) :
      Tame (n + 1) (dict entries)

/-- A tame value is no signaling decimal. -/
theorem Tame.not_isSignaling {n : Nat} (h : Tame n v) : v.isSignaling = false := by
  cases h with
  | single _ hquiet => exact hquiet
  | list | tuple | dict => rfl

/-- Tame values have tame values in them, nested less deep. -/
theorem ComesTo.tame {n m : Nat} {v' w' : Value} (h : ComesTo room depth v w v' w') (hv : Tame n v)
    (hw : Tame m w) : ∃ n' m', n = n' + 1 ∧ Tame n' v' ∧ Tame m' w' := by
  cases h with
  | list _ hreaches =>
    cases hv with
    | single h => cases h
    | list hv =>
      cases hw with
      | single h => cases h
      | list hw => exact ⟨_, _, rfl, hv _ hreaches.mem.1, hw _ hreaches.mem.2⟩
  | tuple hreaches =>
    cases hv with
    | single h => cases h
    | tuple hv =>
      cases hw with
      | single h => cases h
      | tuple hw => exact ⟨_, _, rfl, hv _ hreaches.mem.1, hw _ hreaches.mem.2⟩
  | dict _ hreaches hpartner =>
    cases hv with
    | single h => cases h
    | dict hv =>
      cases hw with
      | single h => cases h
      | dict hw =>
        exact ⟨_, _, rfl, hv _ hreaches.mem.1, hw _ (List.mem_of_find?_eq_some hpartner)⟩

/-- A comparison of tame values does not get stuck if there is room for as deep as the first goes. -/
theorem Stuck.not_tame (h : Stuck room depth v w) {n m : Nat}
    (hroom : ∀ k ≤ depth + n, ∀ v w, room.allows k v w = true) (hv : Tame n v) : ¬Tame m w := by
  intro hw
  induction h generalizing n m with
  | numbers h => simp [clashes, hv.not_isSignaling, hw.not_isSignaling] at h
  | inside hpair _ ih =>
    obtain ⟨n', m', rfl, hv', hw'⟩ := hpair.tame hv hw
    exact ih (hroom _ (by omega) _ _) (fun k hk => hroom k (by omega)) hv' hw'

/-- **Values within the room can be compared.** -/
theorem Tame.not_raises_compare {n m : Nat} (hv : Tame n v) (hw : Tame m w)
    (hroom : ∀ k ≤ depth + n, ∀ v w, room.allows k v w = true) : ¬Raises (compare room depth v w) :=
  fun h => (Stuck.of_raises h).not_tame hroom hv hw

/-- A value inside a number of lists. -/
def nested : Nat → Value → Value
  | 0, v => v
  | n + 1, v => list [nested n v]

/-- **Values beyond the room cannot be compared**: if there is no room for pairs inside a number of
pairs of containers, values inside as many lists have no answer. -/
theorem raises_compare_nested {n k : Nat} (hfull : ∀ v w, room.allows k v w = false)
    (hdepth : depth < k) (hk : k ≤ depth + n) :
    Raises (compare room depth (nested n v) (nested n w)) := by
  refine Stuck.raises ?_
  induction n generalizing depth with
  | zero => omega
  | succ n ih =>
    refine .inside (.list rfl .here) fun hallowed => ?_
    have hne : depth + 1 ≠ k := by
      rintro rfl
      rw [hfull] at hallowed
      cases hallowed
    exact ih (by omega) (by omega)

end Value

end RecordRules
