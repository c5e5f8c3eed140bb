import DeviceWatch.Proofs.Heeding
import DeviceWatch.Proofs.Turn
/-!
# Visits to the observer

While no pass begins, an observer that listens is told something only where it
is visited itself. `Attended` is a stretch of a run in which no pass begins, with
all that the observer is told meanwhile: nothing where others are visited, and
one event at a visit to the observer, if it listens for it. Such a stretch
follows each registration of the observer and each pass that begins, and pays
what the observer is to be told by then.
-/

namespace DeviceWatch

variable {κ τ : Type}

theorem greeting_cons {f : Filter} {m : EventSet} {d : Device} {rest : List Device} :
    greeting f m (d :: rest) =
      (if f.hears m d .arrived then [(d, .arrived)] else []) ++ greeting f m rest := by
  rw [greeting, List.filter_cons]
  split <;> rfl

/-- The observer listens under a number drawn before. -/
theorem World.Ready.drawn {w : World κ τ} {c : ContextId} {o : CallbackId} {f : Filter}
    {m : EventSet} (hw : w.Ready c o) (hh : (w.outlook c o).hears = some (f, m)) :
    o.val < w.nextCallback := by
  obtain ⟨x, hx, -⟩ := Option.map_eq_some_iff.1 hh
  exact hw.sound.below (Registry.mem_ids_iff.2 ⟨x, hx⟩)

/-- **A stretch of a run in which no pass begins**, and what the observer is told. -/
structure Attended (c : ContextId) (o : CallbackId) (told : List (Device × Event))
    (w : World κ τ) (ns : List Notice) (w' : World κ τ) : Prop extends
    Followed c o w ns w' where
  passless : passes c ns = []
  deliveries : deliveries c o ns = told

namespace Attended

variable {q : Prop} {c : ContextId} {o : CallbackId} {l k : List (Device × Event)}
variable {w w₁ w₂ w₃ : World κ τ} {ns ms : List Notice}

theorem refl (hw : w.Ready c o) : Attended c o [] w [] w where
  toFollowed := .refl hw
  passless := rfl
  deliveries := rfl

theorem trans (h₁ : Attended c o l w₁ ns w₂) (h₂ : Attended c o k w₂ ms w₃) :
    Attended c o (l ++ k) w₁ (ns ++ ms) w₃ where
  toFollowed := h₁.toFollowed.trans h₂.toFollowed
  passless := by rw [passes_append, h₁.passless, h₂.passless]; rfl
  deliveries := by rw [deliveries_append, h₁.deliveries, h₂.deliveries]

/-- Where no pass begins and the observer is not visited, it is told nothing. -/
theorem of_heeded (ho : o.val < w₁.nextCallback) (h : Heeded True c o w₁ ns w₂) :
    Attended c o [] w₁ ns w₂ where
  toFollowed := h.toFollowed
  passless := h.passless trivial
  deliveries := by
    rw [h.deliveries]
    exact Outlook.tale_of_passless (h.unregistered ho) (h.passless trivial)

/-- A stretch in which the observer is told what it was to be told when the
stretch began completes the tale. -/
theorem settle (h : Followed c o w₁ ns w₂) (ho : o.val < w₂.nextCallback)
    (hd : DeviceWatch.deliveries c o ns = []) (ht : (w₁.outlook c o).tale c o ns = l)
    (hp : q → passes c ns = []) (hrest : Attended c o l w₂ ms w₃) :
    Heeded q c o w₁ (ns ++ ms) w₃ where
  toFollowed := h.trans hrest.toFollowed
  deliveries := by
    rw [deliveries_append, hd, hrest.deliveries, Outlook.tale_append, ht,
      Outlook.tale_of_passless (hrest.unregistered ho) hrest.passless]
    simp
  passless hq := by rw [passes_append, hp hq, hrest.passless]; rfl

end Attended

namespace Act

variable {host : Host κ τ} {q : Prop} {c c' : ContextId} {o id : CallbackId} {d : Device}
variable {e : Event} {f : Filter} {m : EventSet} {w : World κ τ}

/-! ## Others -/

/-- A visit to another record is heeded. -/
theorem heeds_visit (hr : ∀ inv, (host.react inv).Obeys (Heeds q c o))
    (hne : ¬(c' = c ∧ id = o)) : (visit host c' d e id).Obeys (Heeds q c o) := by
  have hn : (Notice.delivered c' id d e).concerns c o = false := by
    simpa [Notice.concerns] using hne
  refine closed_obeys.visit heeds_decide (fun _ => ?_) fun _ => heeds_commit
  exact closed_obeys.invoke (heeds_note rfl hn rfl) hr

/-! ## The observer -/

theorem attended_delivered (hw : w.Ready c o) :
    Attended c o [(d, e)] w [.delivered c o d e] w where
  toFollowed := .single hw rfl rfl
  passless := rfl
  deliveries := by simp [deliveries]

/-- The callback's run of a visit is heeded if callbacks are. -/
theorem heeded_call (hr : ∀ inv, (host.react inv).Obeys (Heeds q c o)) {run : Effect κ τ Wish}
    (hcall : call host c' d e w id = some run)
    (hw : (w.setRegistry c' ((w.registry c').decide id d e).2).Ready c o)
    (hno : ∀ n ∈ run.notices, n.dismisses c o = false) :
    Heeded q c o (w.setRegistry c' ((w.registry c').decide id d e).2) run.notices run.world := by
  rcases hv : ((w.registry c').decide id d e).1 with _ | _ | _ | program
  all_goals simp only [call, hv] at hcall
  all_goals cases hcall
  exact hr _ _ hw hno

/-- A visit that runs the observer's callback tells it of the event. -/
theorem attended_visit_of_call (hr : ∀ inv, (host.react inv).Obeys (Heeds True c o))
    {run : Effect κ τ Wish} {wish : Wish} (hcall : call host c d e w o = some run)
    (hwish : run.result = some wish) (hw : w.Ready c o) (ho : o.val < w.nextCallback)
    (hno : ∀ n ∈ ((visit host c d e o).run w).notices, n.dismisses c o = false) :
    ((visit host c d e o).run w).result = some (.invoked false) ∧
      Attended c o [(d, e)] w ((visit host c d e o).run w).notices
        ((visit host c d e o).run w).world := by
  rw [run_visit_of_call hcall hwish] at hno ⊢
  simp only [List.forall_mem_cons, List.forall_mem_append] at hno
  obtain ⟨-, -, hran, hcommit, -⟩ := hno
  -- The observer is told nothing while it is decided about, while its callback runs
  -- and while the wish is committed; it is told of the event in between.
  have hfirst : Attended c o [] w [.decided c o ((w.registry c).decide o d e).1.decision]
      (w.setRegistry c ((w.registry c).decide o d e).2) :=
    .of_heeded ho (heeds_decide w hw (List.forall_mem_singleton.2 rfl))
  have hsecond : Attended c o [] _ run.notices run.world :=
    .of_heeded (Nat.lt_of_lt_of_le ho hfirst.drawn) (heeded_call hr hcall hfirst.ready hran)
  have hthird : Attended c o [] run.world
      [.committed c o wish ((run.world.registry c).releases o wish)]
      (run.world.setRegistry c ((run.world.registry c).commit o wish)) :=
    .of_heeded (Nat.lt_of_lt_of_le ho (Nat.le_trans hfirst.drawn hsecond.drawn))
      (heeds_commit _ hsecond.ready (List.forall_mem_singleton.2 hcommit))
  -- The commit keeps the record: it is not pending, and the wish was not to go.
  have hkept : (run.world.registry c).releases o wish = false := by
    rw [Bool.eq_false_iff]
    intro hrel
    obtain ⟨x, hx, rfl | hs⟩ := Registry.releases_iff.1 hrel
    · simp [Notice.dismisses] at hcommit
    · exact hsecond.ready.spared (Registry.status?_eq_some hx hs)
  have hinvoke : ((w.registry c).decide o d e).1.decision = .invoke :=
    Registry.decide_eq_invoke_iff.2 (call_isSome_iff.1 (by rw [hcall]; rfl))
  rw [hinvoke] at hfirst
  refine ⟨by rw [hkept], ?_⟩
  exact hfirst.trans ((attended_delivered hfirst.ready).trans (hsecond.trans hthird))

/-- **A visit to the observer** tells it of the event if it listens for it, and
leaves it where it is. -/
theorem attended_visit (hr : ∀ inv, (host.react inv).Obeys (Heeds True c o))
    (hret : ∀ inv, (host.react inv).Returns) (hw : w.Ready c o)
    (hh : (w.outlook c o).hears = some (f, m))
    (hno : ∀ n ∈ ((visit host c d e o).run w).notices, n.dismisses c o = false) :
    ((visit host c d e o).run w).result =
        some (if f.hears m d e then .invoked false else .skipped) ∧
      Attended c o (if f.hears m d e then [(d, e)] else []) w
        ((visit host c d e o).run w).notices ((visit host c d e o).run w).world := by
  have ho : o.val < w.nextCallback := hw.drawn hh
  obtain ⟨x, hx, hfm⟩ := Option.map_eq_some_iff.1 hh
  obtain ⟨rfl, rfl⟩ : x.filter = f ∧ x.events = m := by simpa using hfm
  have hactive : x.status = .active := by
    rcases hs : x.status with _ | _
    · rfl
    · exact absurd (Registry.status?_eq_some hx hs) hw.spared
  by_cases hhear : x.filter.hears x.events d e = true
  · have hsome : (call host c d e w o).isSome = true := call_isSome_iff.2 ⟨x, hx, hactive, hhear⟩
    obtain ⟨run, hcall⟩ := Option.isSome_iff_exists.1 hsome
    obtain ⟨wish, hwish⟩ := call_returns hret hcall
    rw [if_pos hhear, if_pos hhear]
    exact attended_visit_of_call hr hcall hwish hw ho hno
  · have hskip : (visit host c d e o).run w =
        { result := some .skipped
          world := w.setRegistry c ((w.registry c).decide o d e).2
          notices := [.decided c o ((w.registry c).decide o d e).1.decision] } := by
      rw [visit, run_bind, run_decide, Effect.andThen_some, Registry.decide_of_active hx hactive,
        Record.hears, if_neg hhear]
      rfl
    rw [hskip, if_neg hhear, if_neg hhear]
    exact ⟨rfl, .of_heeded ho (heeds_decide w hw (List.forall_mem_singleton.2 rfl))⟩

/-! ## Many visits -/

/-- Where devices that are there are delivered to another record, what happens is
heeded. -/
theorem heeds_enumerate {devices : List Device}
    (hr : ∀ inv, (host.react inv).Obeys (Heeds q c o)) (hne : ¬(c' = c ∧ id = o)) :
    (enumerate host c' id devices).Obeys (Heeds q c o) :=
  closed_obeys.enumerate fun _ _ => heeds_visit hr hne

/-- While devices that are there are delivered to the observer, it is told of those
that it listens for, in order. -/
theorem attended_enumerate (hr : ∀ inv, (host.react inv).Obeys (Heeds True c o))
    (hret : ∀ inv, (host.react inv).Returns) {devices : List Device} (hw : w.Ready c o)
    (hh : (w.outlook c o).hears = some (f, m))
    (hno : ∀ n ∈ ((enumerate host c o devices).run w).notices, n.dismisses c o = false) :
    Attended c o (greeting f m devices) w ((enumerate host c o devices).run w).notices
      ((enumerate host c o devices).run w).world := by
  induction devices generalizing w with
  | nil => exact .refl hw
  | cons d rest ih =>
    obtain ⟨v, hv⟩ : ∃ v, ((visit host c d .arrived o).run w).result = some v :=
      returns_visit hret w
    rw [enumerate, run_bind_of_result hv] at hno ⊢
    rw [List.forall_mem_append] at hno
    obtain ⟨hresult, hvisit⟩ := attended_visit hr hret hw hh hno.1
    obtain rfl : v = if f.hears m d .arrived then .invoked false else .skipped :=
      Option.some.inj (hv.symm.trans hresult)
    rw [greeting_cons]
    refine hvisit.trans ?_
    have hears := (hvisit.hears (hw.drawn hh)).trans hh
    -- The observer stays where it is, so whether or not it listens the rest goes on.
    by_cases hhear : f.hears m d .arrived = true
    · rw [if_pos hhear] at hno ⊢
      have hgo := run_bind_pure (x := enumerate host c o rest)
        (fun vs => (d, Visit.invoked false) :: vs) ((visit host c d .arrived o).run w).world
      simp only [hgo] at hno ⊢
      exact ih hvisit.ready hears hno.2
    · rw [if_neg hhear] at hno ⊢
      have hgo := run_bind_pure (x := enumerate host c o rest)
        (fun vs => (d, Visit.skipped) :: vs) ((visit host c d .arrived o).run w).world
      simp only [hgo] at hno ⊢
      exact ih hvisit.ready hears hno.2

/-- Where others are visited, what happens is heeded. -/
theorem heeds_visitAll {ids : List CallbackId} (hr : ∀ inv, (host.react inv).Obeys (Heeds q c o))
    (hne : c' = c → o ∉ ids) : (visitAll host c' d e ids).Obeys (Heeds q c o) := by
  refine closed_obeys.visitAll fun id hid => heeds_visit hr ?_
  rintro ⟨hc, rfl⟩
  exact hne hc hid

/-- While records are visited once each, the observer among them, it is told of the
event once if it listens for it. -/
theorem attended_visitAll (hr : ∀ inv, (host.react inv).Obeys (Heeds True c o))
    (hret : ∀ inv, (host.react inv).Returns) {ids : List CallbackId} (hids : ids.Nodup)
    (hmem : o ∈ ids) (hw : w.Ready c o) (hh : (w.outlook c o).hears = some (f, m))
    (hno : ∀ n ∈ ((visitAll host c d e ids).run w).notices, n.dismisses c o = false) :
    Attended c o (if f.hears m d e then [(d, e)] else []) w
      ((visitAll host c d e ids).run w).notices ((visitAll host c d e ids).run w).world := by
  induction ids generalizing w with
  | nil => cases hmem
  | cons id rest ih =>
    have ho : o.val < w.nextCallback := hw.drawn hh
    obtain ⟨v, hv⟩ : ∃ v, ((visit host c d e id).run w).result = some v := returns_visit hret w
    have hgo := run_bind_pure (x := visitAll host c d e rest) (fun vs => (id, v) :: vs)
      ((visit host c d e id).run w).world
    rw [visitAll, run_bind_of_result hv, hgo, List.forall_mem_append] at hno
    rw [visitAll, run_bind_of_result hv, hgo]
    obtain ⟨hid, hrest⟩ := List.nodup_cons.1 hids
    -- Either the observer comes first and never again, or another one does.
    rcases List.mem_cons.1 hmem with rfl | hmem
    · have hvisit := (attended_visit hr hret hw hh hno.1).2
      have hothers := heeds_visitAll (d := d) (e := e) hr (fun _ => hid) _ hvisit.ready hno.2
      rw [← List.append_nil (if f.hears m d e then [(d, e)] else [])]
      exact hvisit.trans (.of_heeded (Nat.lt_of_lt_of_le ho hvisit.drawn) hothers)
    · have hne : ¬(c = c ∧ id = o) := fun h => hid (h.2 ▸ hmem)
      have hvisit : Attended c o [] w _ _ := .of_heeded ho (heeds_visit hr hne w hw hno.1)
      exact hvisit.trans (ih hrest hmem hvisit.ready ((hvisit.hears ho).trans hh) hno.2)

end Act
end DeviceWatch
