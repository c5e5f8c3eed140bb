import DeviceWatch.Proofs.Registration
import DeviceWatch.Proofs.Turn
/-!
# Enumerations

A registration may ask for the devices that are already there. They are offered to the new
record one after the other, each by a visit like that of a pass, and what the callback does
meanwhile may end the offers: it may ask to go, be deregistered, or lose its record in a
teardown. The visit after which the record is not active any more is the last that runs
the callback, though it need not be the last visit: after a teardown the end comes with the
next device, which finds no record. A device that the record does not listen for is passed
over and ends nothing.
-/

namespace DeviceWatch

variable {κ τ : Type}

/-- Whether the devices after this one are to be offered. -/
def Visit.goesOn : Visit → Bool
  | .skipped => true
  | .invoked went => !went
  | _ => false

/-- Those of the offers in which the callback ran. -/
def accepted (ts : List (Device × Turn κ τ)) : List (Device × Turn κ τ) :=
  ts.filter fun p => p.2.ran

/-- **What came of the devices that were offered to a record**, and of the record. -/
structure Offered (c : ContextId) (x : Record κ) (devices : List Device)
    (ts : List (Device × Turn κ τ)) (u : World κ τ) : Prop where
  /-- Nothing is offered to anybody else. -/
  own : ∀ p ∈ ts, p.2.id = x.id
  /-- The callback runs with the devices that it listens for, from the first on, in their
  order. -/
  order : (accepted ts).map Prod.fst <+: devices.filter (x.hears · .arrived)
  /-- Every run but the last left the record active. -/
  between : ∀ before p after, accepted ts = before ++ p :: after → after ≠ [] →
    (p.2.left.registry c).status? x.id = some .active
  /-- If the callback did not run with all of them, the last run did not. -/
  cut : (accepted ts).map Prod.fst ≠ devices.filter (x.hears · .arrived) →
    ∃ p, (accepted ts).getLast? = some p ∧ (p.2.left.registry c).status? x.id ≠ some .active
  /-- A run leaves the record active if the callback waits for more and it is active when the
  callback is done. -/
  left : ∀ p ∈ accepted ts, ∀ run, p.2.call = some run →
    ((p.2.left.registry c).status? x.id = some .active ↔
      run.result = some .rearm ∧ (run.world.registry c).status? x.id = some .active)
  /-- If every run left the record active, it is as it was. -/
  kept : (∀ p ∈ accepted ts, (p.2.left.registry c).status? x.id = some .active) →
    (u.registry c).get? x.id = some x
  /-- If one did not, it is gone. -/
  dismissed : (∃ p ∈ accepted ts, (p.2.left.registry c).status? x.id ≠ some .active) → u.Gone x.id

namespace Offered

variable {c : ContextId} {x : Record κ} {d : Device} {rest : List Device} {t : Turn κ τ}
variable {ts : List (Device × Turn κ τ)} {u : World κ τ}

theorem accepted_cons_of_ran (h : t.ran = true) : accepted ((d, t) :: ts) = (d, t) :: accepted ts :=
  List.filter_cons_of_pos h

theorem accepted_cons_of_not_ran (h : t.ran = false) : accepted ((d, t) :: ts) = accepted ts :=
  List.filter_cons_of_neg (by simp [h])

/-- Nothing was offered. -/
theorem nil (h : (u.registry c).get? x.id = some x) : Offered c x [] [] u where
  own := List.forall_mem_nil _
  order := List.prefix_rfl
  between before p after heq := by
    have hlen := congrArg List.length heq
    simp [accepted] at hlen
  cut h := absurd rfl h
  left := List.forall_mem_nil _
  kept _ := h
  dismissed := by
    rintro ⟨p, hp, -⟩
    cases hp

/-- The first device was passed over. -/
theorem skip (hid : t.id = x.id) (hears : x.hears d .arrived = false) (hran : t.ran = false)
    (h : Offered c x rest ts u) : Offered c x (d :: rest) ((d, t) :: ts) u := by
  have haccepted : accepted ((d, t) :: ts) = accepted ts := accepted_cons_of_not_ran hran
  have hdevices : (d :: rest).filter (x.hears · .arrived) = rest.filter (x.hears · .arrived) :=
    List.filter_cons_of_neg (by simp [hears])
  refine ⟨List.forall_mem_cons.2 ⟨hid, h.own⟩, ?_, ?_, ?_, ?_, ?_, ?_⟩
  · rw [haccepted, hdevices]
    exact h.order
  · rw [haccepted]
    exact h.between
  · rw [haccepted, hdevices]
    exact h.cut
  · rw [haccepted]
    exact h.left
  · rw [haccepted]
    exact h.kept
  · rw [haccepted]
    exact h.dismissed

/-- The callback ran with the first device, and the offers went on. -/
theorem goOn (hid : t.id = x.id) (hears : x.hears d .arrived = true) (hran : t.ran = true)
    (hleft : ∀ run, t.call = some run →
      ((t.left.registry c).status? x.id = some .active ↔
        run.result = some .rearm ∧ (run.world.registry c).status? x.id = some .active))
    (hactive : (t.left.registry c).status? x.id = some .active) (h : Offered c x rest ts u) :
    Offered c x (d :: rest) ((d, t) :: ts) u := by
  have haccepted : accepted ((d, t) :: ts) = (d, t) :: accepted ts := accepted_cons_of_ran hran
  have hdevices : (d :: rest).filter (x.hears · .arrived) =
      d :: rest.filter (x.hears · .arrived) := List.filter_cons_of_pos hears
  refine ⟨List.forall_mem_cons.2 ⟨hid, h.own⟩, ?_, ?_, ?_, ?_, ?_, ?_⟩
  · rw [haccepted, hdevices, List.map_cons, List.cons_prefix_cons]
    exact ⟨rfl, h.order⟩
  · intro before p after heq hafter
    rw [haccepted] at heq
    rcases List.cons_eq_append_iff.1 heq with ⟨-, hp⟩ | ⟨before', -, hrest⟩
    · obtain ⟨rfl, -⟩ := List.cons.inj hp
      exact hactive
    · exact h.between before' p after hrest hafter
  · rw [haccepted, hdevices, List.map_cons]
    intro hne
    obtain ⟨p, hlast, hp⟩ := h.cut fun heq => hne (by rw [heq])
    refine ⟨p, ?_, hp⟩
    rw [List.getLast?_cons, hlast]
    rfl
  · rw [haccepted]
    exact List.forall_mem_cons.2 ⟨hleft, h.left⟩
  · rw [haccepted]
    exact fun hall => h.kept fun p hp => hall p (List.mem_cons_of_mem _ hp)
  · rw [haccepted]
    rintro ⟨p, hp, hne⟩
    rcases List.mem_cons.1 hp with rfl | hp
    · exact absurd hactive hne
    · exact h.dismissed ⟨p, hp, hne⟩

/-- The callback ran with the first device, and after that with none. -/
theorem stop (hid : t.id = x.id) (hears : x.hears d .arrived = true) (hran : t.ran = true)
    (hleft : ∀ run, t.call = some run →
      ((t.left.registry c).status? x.id = some .active ↔
        run.result = some .rearm ∧ (run.world.registry c).status? x.id = some .active))
    (hactive : (t.left.registry c).status? x.id ≠ some .active)
    (hrest : ∀ p ∈ ts, p.2.id = x.id ∧ p.2.ran = false) (hgone : u.Gone x.id) :
    Offered c x (d :: rest) ((d, t) :: ts) u := by
  have hnone : accepted ts = [] :=
    List.filter_eq_nil_iff.2 fun p hp => by rw [(hrest p hp).2]; exact Bool.false_ne_true
  have haccepted : accepted ((d, t) :: ts) = [(d, t)] := by rw [accepted_cons_of_ran hran, hnone]
  have hdevices : (d :: rest).filter (x.hears · .arrived) =
      d :: rest.filter (x.hears · .arrived) := List.filter_cons_of_pos hears
  refine ⟨List.forall_mem_cons.2 ⟨hid, fun p hp => (hrest p hp).1⟩, ?_, ?_, ?_, ?_, ?_, ?_⟩
  · rw [haccepted, hdevices]
    exact List.cons_prefix_cons.2 ⟨rfl, List.nil_prefix⟩
  · intro before p after heq hafter
    rw [haccepted] at heq
    have hlen := congrArg List.length heq
    have hpos := List.length_pos_of_ne_nil hafter
    simp only [List.length_append, List.length_cons, List.length_nil] at hlen
    omega
  · rw [haccepted]
    exact fun _ => ⟨(d, t), rfl, hactive⟩
  · rw [haccepted]
    exact List.forall_mem_singleton.2 hleft
  · rw [haccepted]
    exact fun hall => absurd (hall _ List.mem_cons_self) hactive
  · exact fun _ => hgone

end Offered

/-- The record that a registration makes. -/
def World.newcomer (w : World κ τ) (c : ContextId) (f : Filter) (m : EventSet) (program : κ) :
    Record κ :=
  ⟨⟨w.nextCallback⟩, c, m, f, program, .active⟩

/-- **The account of a registration** that asked for the devices that are there, made these
offers, and had this effect. -/
structure Enumerated (c : ContextId) (f : Filter) (m : EventSet) (flags : Flags) (program : κ)
    (w : World κ τ) (ts : List (Device × Turn κ τ))
    (out : Effect κ τ (Except RegisterError CallbackId)) : Prop
    extends Offered c (w.newcomer c f m program) ((w.enrol c f m program).roster c).toList ts
      out.world where
  /-- The registration succeeds, whatever came of the offers. -/
  result : out.result = some (.ok ⟨w.nextCallback⟩)
  /-- What it noted is what the offers tell. -/
  notices : out.notices = .inserted c ⟨w.nextCallback⟩ ::
    .registered c ⟨w.nextCallback⟩ f m flags ((w.enrol c f m program).roster c).toList ::
      ts.flatMap fun p => p.2.told c p.1 .arrived
  /-- A record that does not listen for arrivals is told of none. -/
  deaf : m.contains .arrived = false → accepted ts = []

namespace Registry

variable {r : Registry κ} {id : CallbackId} {wish : Wish}

/-- A commit leaves a record active if its callback waits for more and it is active. -/
theorem status?_commit : (r.commit id wish).status? id = some .active ↔
    wish = .rearm ∧ r.status? id = some .active := by
  have hdead : id ∉ (r.commit id wish).ids → (r.commit id wish).status? id ≠ some .active := by
    intro h
    rw [status?, get?_eq_none_iff.2 h]
    intro heq
    cases heq
  constructor
  · intro h
    by_contra hno
    refine hdead (not_mem_ids_commit ?_) h
    cases wish with
    | deregister => exact Or.inl rfl
    | rearm => exact Or.inr fun hactive => hno ⟨rfl, hactive⟩
  · rintro ⟨rfl, hactive⟩
    have hnot : r.status? id ≠ some .pending := by
      rw [hactive]
      intro heq
      cases heq
    rw [status?, get?_commit hnot fun _ => rfl]
    exact hactive

end Registry

namespace Act

variable (host : Host κ τ) (c : ContextId) (id : CallbackId)

/-- The visits by which devices are offered to a record, until it is not to be reached any
more. -/
def offers : List Device → World κ τ → List (Device × Turn κ τ)
  | [], _ => []
  | d :: rest, w =>
    (d, turn host c d .arrived w id) ::
      if (turn host c d .arrived w id).whole.result.any Visit.goesOn then
        offers rest (turn host c d .arrived w id).left
      else []

variable {host c id} {w : World κ τ} {d : Device} {rest devices : List Device}

/-! ## One device -/

/-- After a visit the enumeration goes on or ends. -/
theorem run_enumerate_cons {v : Visit} (rest : List Device)
    (hv : (turn host c d .arrived w id).whole.result = some v)
    (hret : ∀ inv, (host.react inv).Returns) :
    ((enumerate host c id (d :: rest)).run w).world =
        (if v.goesOn then
          ((enumerate host c id rest).run (turn host c d .arrived w id).left).world
        else (turn host c d .arrived w id).left) ∧
      ((enumerate host c id (d :: rest)).run w).notices =
        (turn host c d .arrived w id).whole.notices ++
          if v.goesOn then
            ((enumerate host c id rest).run (turn host c d .arrived w id).left).notices
          else [] := by
  obtain ⟨vs, hvs⟩ : ∃ vs, ((enumerate host c id rest).run
    (turn host c d .arrived w id).left).result = some vs :=
      closed_returns.enumerate (fun _ _ => returns_visit hret) _
  simp only [turn, Turn.left] at hv hvs ⊢
  rw [enumerate, run_bind, Effect.andThen, hv]
  rcases v with _ | _ | _ | (_ | _)
  all_goals simp [Visit.goesOn, Effect.andThen, hvs]

theorem offers_cons {v : Visit} (hv : (turn host c d .arrived w id).whole.result = some v) :
    offers host c id (d :: rest) w = (d, turn host c d .arrived w id) ::
      if v.goesOn then offers host c id rest (turn host c d .arrived w id).left else [] := by
  rw [offers, hv, Option.any_some]

/-- A visit that runs no callback is followed by others if the record was skipped. -/
theorem goesOn_of_no_call (h : call host c d .arrived w id = none) :
    ∃ v : Visit, (turn host c d .arrived w id).whole.result = some v ∧
      (v.goesOn = true ↔ ((w.registry c).decide id d .arrived).1.decision = .skip) := by
  rw [turn, visit, run_bind, run_decide, Effect.andThen_some]
  rcases hv : ((w.registry c).decide id d .arrived).1 with _ | _ | _ | program
  · exact ⟨.gone, rfl, by simp [Visit.goesOn, Verdict.decision]⟩
  · exact ⟨.released, rfl, by simp [Visit.goesOn, Verdict.decision]⟩
  · exact ⟨.skipped, rfl, by simp [Visit.goesOn, Verdict.decision]⟩
  · rw [call_of_invoke hv] at h
    cases h

theorem ran_of_no_call (h : call host c d .arrived w id = none) :
    (turn host c d .arrived w id).ran = false := by
  rw [Turn.ran, turn, h]
  rfl

/-- To a record that is gone nothing is offered after the next device, and its callback does
not run. -/
theorem offers_of_gone (devices : List Device) (hlife : ∀ inv, (host.react inv).Obeys Life)
    (hret : ∀ inv, (host.react inv).Returns) (hw : w.Gone id) :
    (∀ p ∈ offers host c id devices w, p.2.id = id ∧ p.2.ran = false) ∧
      ((enumerate host c id devices).run w).world.Gone id := by
  cases devices with
  | nil => exact ⟨List.forall_mem_nil _, hw⟩
  | cons d rest =>
    have hnone : (w.registry c).get? id = none := Registry.get?_eq_none_iff.2 (hw.absent c)
    have hcall : call host c d .arrived w id = none := by
      rw [call, Registry.decide_of_none hnone]
    obtain ⟨v, hv, hgoes⟩ := goesOn_of_no_call hcall
    have hends : v.goesOn = false := by
      rw [Bool.eq_false_iff, ne_eq, hgoes, Registry.decide_of_none hnone]
      rintro (heq | heq)
    obtain ⟨hworld, -⟩ := run_enumerate_cons rest hv hret
    rw [hworld, offers_cons hv, hends]
    refine ⟨List.forall_mem_singleton.2 ⟨rfl, ran_of_no_call hcall⟩, ?_⟩
    exact (life_visit hlife w).gone hw

/-! ## All devices -/

section Offers

variable {x : Record κ}
variable (hlife : ∀ inv, (host.react inv).Obeys Life) (hret : ∀ inv, (host.react inv).Returns)
include hlife hret

/-- **What comes of the devices that are offered to an active record.** -/
theorem offered (devices : List Device) (hw : w.Sound) (hx : (w.registry c).get? x.id = some x)
    (hs : x.status = .active) :
    Offered c x devices (offers host c x.id devices w)
      ((enumerate host c x.id devices).run w).world := by
  -- By induction on the devices, as long as the record is active.
  induction devices generalizing w with
  | nil => exact .nil hx
  | cons d rest ih =>
    have hturn : Life w _ (turn host c d .arrived w x.id).left := life_visit hlife w
    have hlive := Registry.mem_ids_iff.2 ⟨x, hx⟩
    cases hears : x.hears d .arrived with
    | false =>
      have hdecide := Registry.decide_of_active (d := d) (e := .arrived) hx hs
      rw [hears, if_neg Bool.false_ne_true] at hdecide
      have hcall : call host c d .arrived w x.id = none := by rw [call, hdecide]
      obtain ⟨v, hv, hgoes⟩ := goesOn_of_no_call hcall
      have hon : v.goesOn = true := hgoes.2 (by rw [hdecide]; rfl)
      obtain ⟨hworld, -⟩ := run_enumerate_cons rest hv hret
      have hleft : ((turn host c d .arrived w x.id).left.registry c).get? x.id = some x := by
        rw [left_of_no_call hcall, hdecide]
        exact hx
      rw [hworld, offers_cons hv, hon]
      exact .skip rfl hears (ran_of_no_call hcall) (ih (hturn.sound hw) hleft)
    | true =>
      obtain ⟨run, hcall⟩ := Option.isSome_iff_exists.1 (call_isSome_iff.2 ⟨x, hx, hs, hears⟩)
      obtain ⟨wish, hwish⟩ := call_returns hret hcall
      have hran : (turn host c d .arrived w x.id).ran = true := by
        rw [Turn.ran, turn, hcall]
        rfl
      have hv := congrArg Effect.result (run_visit_of_call hcall hwish)
      obtain ⟨hworld, -⟩ := run_enumerate_cons rest hv hret
      have hleft : ∀ run', (turn host c d .arrived w x.id).call = some run' →
          (((turn host c d .arrived w x.id).left.registry c).status? x.id = some .active ↔
            run'.result = some .rearm ∧ (run'.world.registry c).status? x.id = some .active) := by
        intro run' hcall'
        obtain rfl : run = run' := Option.some.inj (hcall.symm.trans hcall')
        rw [left_of_call hcall hwish, Registry.status?_commit, hwish, Option.some_inj]
      rw [hworld, offers_cons hv]
      by_cases hactive :
          ((turn host c d .arrived w x.id).left.registry c).status? x.id = some .active
      · -- The record is active, so it is the one that was there before.
        obtain ⟨y, hy, hys⟩ := Option.map_eq_some_iff.1 hactive
        have hsame := (hturn.aged (hw.below hlive) c).eq_of_active hy hys
        have hget : ((turn host c d .arrived w x.id).left.registry c).get? x.id = some x :=
          hy.trans (hsame.symm.trans hx)
        have hstays : (run.world.registry c).releases x.id wish = false := by
          rw [Bool.eq_false_iff]
          intro hreleases
          obtain ⟨-, habsent⟩ := Registry.commit_removes_iff.2 hreleases
          rw [← left_of_call hcall hwish] at habsent
          exact habsent (Registry.mem_ids_iff.2 ⟨x, hget⟩)
        rw [hstays]
        exact .goOn rfl hears hran hleft hactive (ih (hturn.sound hw) hget)
      · have habsent : x.id ∉ ((turn host c d .arrived w x.id).left.registry c).ids := by
          refine absent_of_call hret hcall ?_
          by_contra hno
          rw [not_or, not_not] at hno
          obtain ⟨hwaits, hstill⟩ := hno
          refine hactive ((hleft run hcall).2 ⟨?_, hstill⟩)
          cases wish with
          | deregister => exact absurd hwish hwaits
          | rearm => exact hwish
        have hgone : (turn host c d .arrived w x.id).left.Gone x.id :=
          hturn.gone_of_absent hw hlive habsent
        -- A commit that found no record does not end the offers, but the next device does.
        cases (run.world.registry c).releases x.id wish with
        | true => exact .stop rfl hears hran hleft hactive (List.forall_mem_nil _) hgone
        | false =>
          obtain ⟨hrest, hlast⟩ := offers_of_gone rest hlife hret hgone
          exact .stop rfl hears hran hleft hactive hrest hlast

end Offers

theorem notices_enumerate (hret : ∀ inv, (host.react inv).Returns) :
    ((enumerate host c id devices).run w).notices =
      (offers host c id devices w).flatMap fun p => p.2.told c p.1 .arrived := by
  induction devices generalizing w with
  | nil => rfl
  | cons d rest ih =>
    obtain ⟨⟨v, hv, -⟩, htold⟩ :
      (∃ v, (turn host c d .arrived w id).whole.result = some v ∧ _) ∧ _ := turn_whole hret
    obtain ⟨-, hnotices⟩ := run_enumerate_cons rest hv hret
    rw [hnotices, offers_cons hv, List.flatMap_cons, htold]
    split
    next => rw [ih]
    next => rfl

/-- **A registration offers what is there until its record is not active any more**, and
succeeds in any case. -/
theorem register_enumerated {request : Request κ} {f : Filter} {program : κ}
    (hhost : host.Within Repertoire.Any) (hret : ∀ inv, (host.react inv).Returns) (hw : w.Sound)
    (hhot : (w.context c).hasHotplug = true) (hcheck : request.check = .ok (f, program))
    (hroom : (w.registry c).isFull = false) (hflag : request.flags.enumerate = true) :
    Enumerated c f request.events request.flags program w
      (offers host c ⟨w.nextCallback⟩
        ((w.enrol c f request.events program).roster c).toList
        (w.enrol c f request.events program))
      ((register host c request).run w) := by
  have hlife : ∀ inv, (host.react inv).Obeys Life := fun inv => (hhost inv).life
  have hrun := run_register_of_check hret hhot hcheck hroom
  have hexisting : w.existing c request.flags =
      ((w.enrol c f request.events program).roster c).toList := by
    rw [World.existing, if_pos hflag, World.roster_enrol]
  rw [hexisting] at hrun
  have hsound : (w.enrol c f request.events program).Sound := (life_enrol hroom).sound hw
  have hget : ((w.enrol c f request.events program).registry c).get? ⟨w.nextCallback⟩ =
      some (w.newcomer c f request.events program) := by
    rw [World.get?_enrol hw, if_pos ⟨rfl, rfl⟩]
    rfl
  have hoffered : Offered c (w.newcomer c f request.events program) _ _ _ :=
    offered hlife hret ((w.enrol c f request.events program).roster c).toList hsound hget rfl
  rw [hrun]
  refine ⟨hoffered, rfl, ?_, fun hdeaf => ?_⟩
  · rw [notices_enumerate hret]
  · have hnone : ((w.enrol c f request.events program).roster c).toList.filter
        ((w.newcomer c f request.events program).hears · .arrived) = [] := by
      refine List.filter_eq_nil_iff.2 fun d _ => ?_
      simp [Record.hears, Filter.hears, World.newcomer, hdeaf]
    have horder := hoffered.order
    rw [hnone, List.prefix_nil, List.map_eq_nil_iff] at horder
    exact horder

/-- Callbacks that attach another device each time, and clear the registry at the device that
their program names. -/
def clearingAt : Host DeviceId Unit where
  react inv := do
    attach inv.context ⟨⟨9⟩, 1, 9, ⟨7, 1, 0⟩⟩
    if inv.device.id = inv.program then
      let _ ← teardown inv.context
    return .rearm
  order _ ids := ids
  order_perm _ _ := .refl _

theorem clearingAt_within : clearingAt.Within Repertoire.Any := by
  intro inv
  refine .bind (.op .idle Host.idle_within (.calm (.attach _ _))) fun _ => ?_
  by_cases hlast : inv.device.id = inv.program
  · rw [if_pos hlast]
    exact .bind (.op .idle Host.idle_within (.calm (.teardown _))) fun _ => .pure _
  · rw [if_neg hlast]
    exact .pure _

/-- A world with four devices on one context, the second of another vendor. -/
def fourDevices : World DeviceId Unit :=
  (World.addContext { memory := () } (.simulated true []) {}).1.setRoster ⟨1⟩
    ⟨[⟨⟨1⟩, 1, 1, ⟨7, 1, 0⟩⟩, ⟨⟨2⟩, 1, 2, ⟨8, 1, 0⟩⟩, ⟨⟨3⟩, 1, 3, ⟨7, 1, 0⟩⟩,
      ⟨⟨4⟩, 1, 4, ⟨7, 1, 0⟩⟩]⟩

/-- A request for what is there of one vendor. -/
def ofSeven : Request DeviceId :=
  { events := .all, flags := .existing, selector := { Selector.any with vendor := 7 },
    program := some ⟨3⟩ }

/-- Of four devices the second is passed over, the run with the third clears the registry, the
fourth finds no record, and the new one is not offered. -/
theorem register_enumerated_until_clearing :
    ∃ ts, Enumerated ⟨1⟩ { vendor := some 7 } .all .existing ⟨3⟩ fourDevices ts
        ((register clearingAt ⟨1⟩ ofSeven).run fourDevices) ∧
      ts.map (fun p => (p.1.id, p.2.ran)) =
        [(⟨1⟩, true), (⟨2⟩, false), (⟨3⟩, true), (⟨4⟩, false)] ∧
      ((register clearingAt ⟨1⟩ ofSeven).run fourDevices).world.Gone ⟨1⟩ ∧
      (((register clearingAt ⟨1⟩ ofSeven).run fourDevices).world.roster ⟨1⟩).ids =
        [⟨1⟩, ⟨2⟩, ⟨3⟩, ⟨4⟩, ⟨9⟩] := by
  have hret : ∀ inv, (clearingAt.react inv).Returns := by
    intro inv
    refine returns_attach.bind fun _ => ?_
    by_cases hlast : inv.device.id = inv.program
    · rw [if_pos hlast]
      exact returns_teardown.bind fun _ => returns_pure _
    · rw [if_neg hlast]
      exact returns_pure _
  have hw : fourDevices.Sound := World.sound_of_empty fun c => by
    rw [fourDevices, World.registry_setRoster]
    exact World.empty_addContext (fun _ => rfl) _ _ c
  have haccount := register_enumerated (c := ⟨1⟩) clearingAt_within hret hw rfl
    (rfl : ofSeven.check = .ok ({ vendor := some 7 }, ⟨3⟩)) rfl rfl
  refine ⟨_, haccount, rfl, haccount.dismissed ?_, rfl⟩
  -- The third device is the one at which the record was lost.
  refine ⟨_, List.mem_cons_of_mem _ List.mem_cons_self, ?_⟩
  exact nofun

end Act
end DeviceWatch
