import RecordRules.Host.Standard
import RecordRules.Proofs.Registry.Names
import RecordRules.Registries

/-!
# What registries hold after any operations

`Registries.Performs` says what each operation does when it is not refused, one constructor an
operation. A registry changes only by a registration in itself (`Registries.live_step`), so what it
holds under a name is decided by the last operation that registers the name there, or else by the one
that made the registry. `Registries.Origin` names that operation; `Registries.run_described` says
that what it tells is what is found, after every run.
-/

namespace RecordRules.Registries

variable {α : Type}

/-- What an operation does that is not refused. -/
inductive Performs (s : Registries α) : Operation α → Registries α → Prop
  | create {offers r} : Registry.ofOffers offers = .ok r → Performs s (.create offers) (s.add r)
  | attach {h place r} : s.find h = .ok (place, r) →
      Performs s (.attach h) { s with engines := s.engines ++ [place] }
  | register {h place r name a} : s.find h = .ok (place, r) → Registry.isUsableName name = true →
      Performs s (.register h name (.routine a))
        { s with live := s.live.set place ⟨Assoc.put name a r.entries⟩ }
  | copy {h place r copied} : s.find h = .ok (place, r) → r.copy = .ok copied →
      Performs s (.copy h) (s.add copied)

/-- An operation registers a routine under a name in the registry at a place. -/
inductive Registers (s : Registries α) (place : Nat) (name : String) (a : α) : Operation α → Prop
  | mk {h r} : s.find h = .ok (place, r) → Registry.isUsableName name = true →
      Registers s place name a (.register h name (.routine a))

/-- None of the operations of a run registers a routine under the name at the place. -/
def Untouched (place : Nat) (name : String) : Registries α → List (Operation α) → Prop
  | _, [] => True
  | s, op :: rest => (∀ a, ¬ s.Registers place name a op) ∧ Untouched place name (s.step op) rest

/-- What a registry holds under a name after operations, told by the operation that decides it: the
last registration of the name in the registry or, where there is none, the one that made the
registry. A registry that is made from offers starts with the routine offered last under the name, a
copy with what the other registry held at that moment. -/
inductive Origin (place : Nat) (name : String) : List (Operation α) → Option α → Prop
  | registered {before op after a} : (empty.run before).Registers place name a op →
      Untouched place name ((empty.run before).step op) after →
      Origin place name (before ++ op :: after) (some a)
  | created {before offers after} : (empty.run before).live.length = place →
      (∀ o ∈ offers, Registry.isUsableName o.1 = true ∧ ∃ a, o.2 = .routine a) →
      Untouched place name ((empty.run before).step (.create offers)) after →
      Origin place name (before ++ .create offers :: after) (Offer.last? offers name)
  | copied {before h origin r after} : (empty.run before).live.length = place →
      (empty.run before).find h = .ok (origin, r) →
      Untouched place name ((empty.run before).step (.copy h)) after →
      Origin place name (before ++ .copy h :: after) (r.get? name)

variable {s s' : Registries α} {op : Operation α} {ops before after : List (Operation α)}
  {place : Nat} {name : String} {r : Registry α} {a : α} {h : Handle} {held : Option α}

/-! ## One operation -/

/-- An operation that is carried out leads where `Performs` says, whichever of the four it is. -/
theorem performs_of_perform (hop : s.perform op = .ok s') : s.Performs op s' := by
  cases op with
  | create offers =>
    obtain ⟨r, hr, hop⟩ := bind_eq_ok_iff.1 hop
    cases hop
    exact .create (mapError_eq_ok_iff.1 hr)
  | attach h =>
    obtain ⟨⟨place, r⟩, hfind, hop⟩ := bind_eq_ok_iff.1 hop
    cases hop
    exact .attach hfind
  | register h name offer =>
    obtain ⟨⟨place, r⟩, hfind, hop⟩ := bind_eq_ok_iff.1 hop
    obtain ⟨changed, hchanged, hop⟩ := bind_eq_ok_iff.1 hop
    cases hop
    obtain ⟨hname, a, rfl, rfl⟩ := Registry.register_eq_ok_iff.1 (mapError_eq_ok_iff.1 hchanged)
    exact .register hfind hname
  | copy h =>
    obtain ⟨⟨place, r⟩, hfind, hop⟩ := bind_eq_ok_iff.1 hop
    obtain ⟨copied, hcopied, hop⟩ := bind_eq_ok_iff.1 hop
    cases hop
    exact .copy hfind (mapError_eq_ok_iff.1 hcopied)

/-- What `Performs` allows is what `perform` answers, so the two say the same of an operation. -/
theorem Performs.perform (hop : s.Performs op s') : s.perform op = .ok s' := by
  cases hop with
  | create hr => exact bind_eq_ok_iff.2 ⟨_, mapError_eq_ok_iff.2 hr, rfl⟩
  | attach hfind => exact bind_eq_ok_iff.2 ⟨_, hfind, rfl⟩
  | @register h place r name a hfind hname =>
    have hchanged : r.register name (.routine a) = .ok ⟨Assoc.put name a r.entries⟩ :=
      Registry.register_eq_ok_iff.2 ⟨hname, a, rfl, rfl⟩
    exact bind_eq_ok_iff.2 ⟨_, hfind, bind_eq_ok_iff.2 ⟨_, mapError_eq_ok_iff.2 hchanged, rfl⟩⟩
  | copy hfind hcopied =>
    exact bind_eq_ok_iff.2 ⟨_, hfind, bind_eq_ok_iff.2 ⟨_, mapError_eq_ok_iff.2 hcopied, rfl⟩⟩

/-- A step under which an operation is carried out. -/
theorem Performs.step (hop : s.Performs op s') : s.step op = s' := by
  rw [Registries.step, hop.perform]

/-- An operation that is refused changes nothing. -/
theorem step_of_refused {e : Refusal} (hop : s.perform op = .error e) : s.step op = s := by
  rw [step, hop]

/-- A step either carries the operation out or leaves every registry as it was. -/
theorem step_cases (s : Registries α) (op : Operation α) :
    s.Performs op (s.step op) ∨ s.step op = s := by
  rw [step]
  cases hop : s.perform op with
  | ok s' => exact .inl (performs_of_perform hop)
  | error e => exact .inr rfl

/-- A handle leads to a registry that is live. -/
theorem find_eq_ok_iff :
    s.find h = .ok (place, r) ↔ s.place? h = some place ∧ s.live[place]? = some r := by
  rw [find]
  constructor
  · intro hfind
    split at hfind
    · cases hfind
    · next hplace =>
      split at hfind
      · cases hfind
      · next hlive =>
        cases hfind
        exact ⟨hplace, hlive⟩
  · rintro ⟨hplace, hlive⟩
    simp only [hplace, hlive]

/-- A registration in a live registry is refused when the name is not usable or what is offered
cannot be called. -/
theorem perform_register_refused_iff {offer : Offer α} (hfind : s.find h = .ok (place, r)) :
    (∃ e, s.perform (.register h name offer) = .error e) ↔
      Registry.isUsableName name = false ∨ ∃ kind, offer = .notCallable kind := by
  rw [← Registry.register_refused_iff (r := r), perform, hfind]
  cases hr : r.register name offer <;>
    simp [hr, Except.mapError, bind, Except.bind, pure, Except.pure]

/-! ## One registry through operations -/

/-- A live registry changes only by a registration in itself, which puts one routine under one
name. -/
theorem live_step (op : Operation α) (hlive : s.live[place]? = some r) :
    (s.step op).live[place]? = some r ∨
      ∃ name a, s.Registers place name a op ∧
        (s.step op).live[place]? = some ⟨Assoc.put name a r.entries⟩ := by
  have hlt : place < s.live.length := (List.getElem?_eq_some_iff.1 hlive).1
  have hadd (made : Registry α) : (s.add made).live[place]? = some r := by
    rw [add, List.getElem?_append_left hlt, hlive]
  obtain hperforms | hsame := s.step_cases op
  · generalize s.step op = s' at hperforms ⊢
    cases hperforms with
    | create _ | copy _ _ => exact .inl (hadd _)
    | attach _ => exact .inl hlive
    | @register h target r' name a hfind hname =>
      by_cases htarget : target = place
      · subst htarget
        obtain rfl : r' = r :=
          Option.some.inj ((find_eq_ok_iff.1 hfind).2.symm.trans hlive)
        exact .inr ⟨name, a, .mk hfind hname, by simp [hlt]⟩
      · exact .inl (by simp [List.getElem?_set_ne htarget, hlive])
  · exact .inl (hsame.symm ▸ hlive)

/-- A registration puts the routine under the name. -/
theorem Registers.get?_step (hop : s.Registers place name a op) :
    ∃ r, (s.step op).live[place]? = some r ∧ r.get? name = some a := by
  cases hop with
  | @mk h r hfind hname =>
    have hlt : place < s.live.length :=
      (List.getElem?_eq_some_iff.1 (find_eq_ok_iff.1 hfind).2).1
    rw [(Performs.register (a := a) hfind hname).step]
    exact ⟨⟨Assoc.put name a r.entries⟩, by simp [hlt], by rw [Registry.get?_put, if_pos rfl]⟩

/-- What is found under a name stays as long as no routine is registered under it. -/
theorem get?_step (hop : ∀ a, ¬ s.Registers place name a op) (hlive : s.live[place]? = some r) :
    ∃ r', (s.step op).live[place]? = some r' ∧ r'.get? name = r.get? name := by
  obtain hsame | ⟨other, a, hregisters, hput⟩ := live_step op hlive
  · exact ⟨r, hsame, rfl⟩
  · have hother : name ≠ other := by
      rintro rfl
      exact hop a hregisters
    exact ⟨_, hput, by rw [Registry.get?_put, if_neg hother]⟩

/-- A name is untouched by one operation more when it was untouched so far and that operation does
not register it. -/
theorem untouched_concat : Untouched place name s (ops ++ [op]) ↔
    Untouched place name s ops ∧ ∀ a, ¬ (s.run ops).Registers place name a op := by
  induction ops generalizing s with
  | nil => simp [Untouched, run]
  | cons first ops ih =>
    rw [List.cons_append, Untouched, Untouched, ih, and_assoc]
    rfl

/-- A registry answers for a name as before as long as no operation registers that name in it. -/
theorem get?_run (huntouched : Untouched place name s ops) (hlive : s.live[place]? = some r) :
    ∃ r', (s.run ops).live[place]? = some r' ∧ r'.get? name = r.get? name := by
  induction ops generalizing s r with
  | nil => exact ⟨r, hlive, rfl⟩
  | cons op ops ih =>
    obtain ⟨r', hlive', hget'⟩ := get?_step huntouched.1 hlive
    obtain ⟨r'', hlive'', hget''⟩ := ih huntouched.2 hlive'
    exact ⟨r'', hlive'', hget''.trans hget'⟩

/-- The last operation is performed on what the ones before it have led to. -/
theorem run_concat (s : Registries α) (ops : List (Operation α)) (op : Operation α) :
    s.run (ops ++ [op]) = (s.run ops).step op := by
  simp [run]

/-- The first operation is performed before all others. -/
theorem run_cons (s : Registries α) (op : Operation α) (ops : List (Operation α)) :
    (s.step op).run ops = s.run (op :: ops) := rfl

/-- A run can be cut at any of its operations. -/
theorem run_append_cons (s : Registries α) (before after : List (Operation α)) (op : Operation α) :
    s.run (before ++ op :: after) = ((s.run before).step op).run after := by
  simp [run]

/-! ## Well-formed registries -/

/-- Every registry is well formed. -/
def WellFormed (s : Registries α) : Prop := ∀ r ∈ s.live, r.WellFormed

/-- Each live registry of well-formed ones is well-formed. -/
theorem WellFormed.of_live (hs : s.WellFormed) (hlive : s.live[place]? = some r) : r.WellFormed :=
  hs r (List.mem_of_getElem? hlive)

/-- A registry that comes into being well-formed leaves all of them so. -/
theorem WellFormed.add (hs : s.WellFormed) (hr : r.WellFormed) : (s.add r).WellFormed := by
  intro r' hr'
  rcases List.mem_append.1 hr' with hr' | hr'
  · exact hs r' hr'
  · rwa [List.mem_singleton.1 hr']

/-- No operation spoils a registry: a registration refuses what would. -/
theorem WellFormed.step (hs : s.WellFormed) (op : Operation α) : (s.step op).WellFormed := by
  obtain hperforms | hsame := s.step_cases op
  · generalize s.step op = s' at hperforms ⊢
    cases hperforms with
    | create hr => exact hs.add (Registry.wellFormed_ofOffers hr)
    | attach _ => exact hs
    | @register h place r name a hfind hname =>
      intro r' hr'
      rcases List.mem_or_eq_of_mem_set hr' with hr' | rfl
      · exact hs r' hr'
      · exact (hs.of_live (find_eq_ok_iff.1 hfind).2).register
          (Registry.register_eq_ok_iff.2 ⟨hname, a, rfl, rfl⟩)
    | copy hfind hcopied => exact hs.add (Registry.wellFormed_ofOffers hcopied)
  · rwa [hsame]

/-- From nothing, only well-formed registries come into being. -/
theorem wellFormed_run (ops : List (Operation α)) : (empty.run ops).WellFormed := by
  induction ops using List.reverseRecOn with
  | nil => exact fun _ hr => nomatch hr
  | append_singleton ops op ih =>
    rw [run_concat]
    exact ih.step op

/-! ## The operation that decides -/

/-- A registry that is added has the place behind the others. -/
theorem live_add (s : Registries α) (r : Registry α) : (s.add r).live[s.live.length]? = some r := by
  simp [add]

/-- A live registry can be copied, and the copy is the same again. -/
theorem Performs.ofCopy (hs : s.WellFormed) (hfind : s.find h = .ok (place, r)) :
    s.Performs (.copy h) (s.add r) :=
  .copy hfind (hs.of_live (find_eq_ok_iff.1 hfind).2).copy

/-- What an origin tells is found. -/
theorem Origin.get? (horigin : Origin place name ops held) :
    ∃ r, (empty.run ops).live[place]? = some r ∧ r.get? name = held := by
  cases horigin with
  | registered hop huntouched =>
    obtain ⟨r, hlive, hget⟩ := hop.get?_step
    obtain ⟨r', hlive', hget'⟩ := get?_run huntouched hlive
    rw [run_append_cons]
    exact ⟨r', hlive', hget'.trans hget⟩
  | @created before offers after hplace hoffers huntouched =>
    obtain ⟨r, hr⟩ := Registry.exists_ofOffers_iff.2 hoffers
    have hlive := live_add (empty.run before) r
    rw [← (Performs.create hr).step, hplace] at hlive
    obtain ⟨r', hlive', hget'⟩ := get?_run huntouched hlive
    rw [run_append_cons]
    exact ⟨r', hlive', hget'.trans (Registry.get?_ofOffers hr name)⟩
  | @copied before h origin r after hplace hfind huntouched =>
    have hlive := live_add (empty.run before) r
    rw [← (Performs.ofCopy (wellFormed_run before) hfind).step, hplace] at hlive
    obtain ⟨r', hlive', hget'⟩ := get?_run huntouched hlive
    rw [run_append_cons]
    exact ⟨r', hlive', hget'⟩

/-- An operation that registers nothing under the name leaves the origin as it is. -/
theorem Origin.concat (horigin : Origin place name ops held)
    (hop : ∀ a, ¬ (empty.run ops).Registers place name a op) :
    Origin place name (ops ++ [op]) held := by
  have hafter {before after : List (Operation α)} {first : Operation α}
      (hops : ops = before ++ first :: after)
      (huntouched : Untouched place name ((empty.run before).step first) after) :
      Untouched place name ((empty.run before).step first) (after ++ [op]) := by
    rw [untouched_concat, ← run_append_cons, ← hops]
    exact ⟨huntouched, hop⟩
  cases horigin with
  | registered hregisters huntouched =>
    rw [List.append_assoc, List.cons_append]
    exact .registered hregisters (hafter rfl huntouched)
  | created hplace hoffers huntouched =>
    rw [List.append_assoc, List.cons_append]
    exact .created hplace hoffers (hafter rfl huntouched)
  | copied hplace hfind huntouched =>
    rw [List.append_assoc, List.cons_append]
    exact .copied hplace hfind (hafter rfl huntouched)

/-- An operation that makes a registry is its origin. -/
theorem Origin.of_made (hnone : (empty.run ops).live[place]? = none)
    (hlive : ((empty.run ops).step op).live[place]? = some r) (name : String) :
    ∃ held, Origin place name (ops ++ [op]) held := by
  generalize hs : empty.run ops = s at hnone hlive
  have hle : s.live.length ≤ place := List.getElem?_eq_none_iff.1 hnone
  have hplace (made : Registry α) (hadd : s.step op = s.add made) : s.live.length = place := by
    have hlt : place < (s.add made).live.length := by
      rw [← hadd]
      exact (List.getElem?_eq_some_iff.1 hlive).1
    rw [add, List.length_append, List.length_singleton] at hlt
    omega
  obtain hperforms | hsame := s.step_cases op
  · generalize hs' : s.step op = s' at hperforms
    cases hperforms with
    | create hr =>
      exact ⟨_, .created (hs ▸ hplace _ hs') (Registry.exists_ofOffers_iff.1 ⟨_, hr⟩) trivial⟩
    | copy hfind _ => exact ⟨_, .copied (hs ▸ hplace _ hs') (hs ▸ hfind) trivial⟩
    | attach _ =>
      rw [hs'] at hlive
      exact absurd (hnone.symm.trans hlive) (by simp)
    | register _ _ =>
      rw [hs'] at hlive
      have hlt := (List.getElem?_eq_some_iff.1 hlive).1
      rw [List.length_set] at hlt
      omega
  · rw [hsame] at hlive
    exact absurd (hnone.symm.trans hlive) (by simp)

/-- Every name in every live registry has an origin. -/
theorem exists_origin (hlive : (empty.run ops).live[place]? = some r) (name : String) :
    ∃ held, Origin place name ops held := by
  induction ops using List.reverseRecOn generalizing r with
  | nil => exact nomatch hlive
  | append_singleton ops op ih =>
    rw [run_concat] at hlive
    by_cases hop : ∃ a, (empty.run ops).Registers place name a op
    · obtain ⟨a, hop⟩ := hop
      exact ⟨some a, .registered hop trivial⟩
    · cases hbefore : (empty.run ops).live[place]? with
      | none => exact Origin.of_made hbefore hlive name
      | some r' =>
        obtain ⟨held, horigin⟩ := ih hbefore
        exact ⟨held, horigin.concat (not_exists.1 hop)⟩

/-- **Registries after any operations.** What a live registry holds under a name is what the origin
of the name tells. Its names can be declared, are listed in increasing order and are the ones that
resolve. It changes only by a registration in itself. A registration is refused just when the name is
not usable or what is offered cannot be called, and then nothing at all changes. A copy is never
refused, and starts with all that the registry holds. -/
theorem run_described (ops : List (Operation α)) (hlive : (empty.run ops).live[place]? = some r) :
    (∀ name held, Origin place name ops held ↔ r.get? name = held) ∧
    r.Orderly ∧
    (∀ op, (∀ name a, ¬ (empty.run ops).Registers place name a op) →
      (empty.run (ops ++ [op])).live[place]? = some r) ∧
    ∀ h, (empty.run ops).place? h = some place →
      (∀ name offer,
        ((∃ e, (empty.run ops).perform (.register h name offer) = .error e) ↔
          name = "" ∨ '|' ∈ name.toList ∨ ',' ∈ name.toList ∨ ∃ kind, offer = .notCallable kind) ∧
        ((∃ e, (empty.run ops).perform (.register h name offer) = .error e) →
          empty.run (ops ++ [.register h name offer]) = empty.run ops)) ∧
      empty.run (ops ++ [.copy h]) = (empty.run ops).add r := by
  have hwell := wellFormed_run ops
  refine ⟨fun name held => ⟨fun horigin => ?_, ?_⟩, (hwell.of_live hlive).orderly,
    fun op hop => ?_, fun h hplace => ?_⟩
  · obtain ⟨r', hlive', hget⟩ := horigin.get?
    rwa [Option.some.inj (hlive.symm.trans hlive')]
  · rintro rfl
    obtain ⟨held, horigin⟩ := exists_origin hlive name
    obtain ⟨r', hlive', hget⟩ := horigin.get?
    rwa [Option.some.inj (hlive.symm.trans hlive'), hget]
  · rw [run_concat]
    refine (live_step op hlive).resolve_right ?_
    rintro ⟨name, a, hregisters, -⟩
    exact hop name a hregisters
  · have hfind := find_eq_ok_iff.2 ⟨hplace, hlive⟩
    refine ⟨fun name offer => ⟨?_, fun ⟨e, he⟩ => ?_⟩, ?_⟩
    · rw [perform_register_refused_iff hfind, ← Bool.not_eq_true, Registry.isUsableName_iff]
      tauto
    · rw [run_concat, step_of_refused he]
    · rw [run_concat, (Performs.ofCopy hwell hfind).step]

/-- A registry of the library's rules, a copy of it, a rule replaced in the first through an engine,
and in the copy a registration that is refused and one that is not. -/
theorem run_described_copied :
    let host : Host := .standard ⟨2026, 6, 15, rfl⟩
    let lenient : Check := fun _ _ _ => .ok none
    let later := [.register (.engine 0) "alpha" (.routine lenient),
      .register (.registry 1) "a|b" (.routine lenient),
      .register (.registry 1) "slug" (.routine lenient)]
    let ops :=
      .create (Builtin.offers host) :: .attach (.registry 0) :: .copy (.engine 0) :: later
    ∃ r r', (empty.run ops).live[0]? = some r ∧ (empty.run ops).live[1]? = some r' ∧
      Origin 0 "alpha" ops (some lenient) ∧ r.get? "alpha" = some lenient ∧
      Origin 1 "alpha" ops (some Check.alpha) ∧ r'.get? "alpha" = some Check.alpha ∧
      r.get? "slug" = none ∧ r'.get? "slug" = some lenient ∧ "slug" ∈ r'.names ∧
      empty.run (ops ++ [.register (.registry 1) "a,b" (.routine lenient)]) = empty.run ops := by
  intro host lenient later ops
  have hbuiltins : empty.step (.create (Builtin.offers host)) = ⟨[.builtins host], []⟩ :=
    (Performs.create (Registry.ofOffers_builtins host)).step
  have hattached : step ⟨[.builtins host], []⟩ (.attach (.registry 0)) =
      ⟨[.builtins host], [0]⟩ := rfl
  have hcopied : step ⟨[.builtins host], [0]⟩ (.copy (.engine 0)) =
      ⟨[.builtins host, .builtins host], [0]⟩ := by
    refine (Performs.ofCopy (fun r hr => ?_) rfl).step
    rw [List.mem_singleton.1 hr]
    exact Registry.builtins_wellFormed host
  have hrun : empty.run ops = run ⟨[.builtins host, .builtins host], [0]⟩ later := by
    rw [← hcopied, run_cons, ← hattached, run_cons, ← hbuiltins, run_cons]
  have hlive : (empty.run ops).live[0]? =
      some ⟨Assoc.put "alpha" lenient (Builtin.checks host)⟩ := by rw [hrun]; rfl
  have hlive' : (empty.run ops).live[1]? =
      some ⟨Assoc.put "slug" lenient (Builtin.checks host)⟩ := by rw [hrun]; rfl
  obtain ⟨horigin, -⟩ := run_described ops hlive
  obtain ⟨horigin', horderly', -, hrest⟩ := run_described ops hlive'
  have hrefused := ((hrest (.registry 1) rfl).1 "a,b" (.routine lenient))
  exact ⟨_, _, hlive, hlive', (horigin _ _).2 rfl, rfl, (horigin' _ _).2 rfl, rfl, rfl, rfl,
    (horderly'.stored _).2 rfl, hrefused.2 (hrefused.1.2 (.inr (.inr (.inl (by decide)))))⟩

end RecordRules.Registries
