import DeviceWatch.Proofs.FailedTransfer
import DeviceWatch.Proofs.FollowUp
/-!
# Departures cut short

A departure takes its device off the roster first, then tells the callbacks, and
disconnects the handles on the device last. A callback that panics unwinds all of
this from the middle: the device is gone, and the handles on it are as the callbacks
left them. Those that were marked by then, before the departure or by a pass that a
callback began, are recorded once; the others are not reached, and no later departure
on the bus makes up for it, as a device leaves only once.
-/

namespace DeviceWatch

variable {κ τ α β : Type}

/-- How often the platform of a context was told to give up a handle. -/
def World.timesGivenUp (w : World κ τ) (c : ContextId) (k : OpenId) : Nat :=
  ((w.record c).map Disconnect.handle).count k

/-- A handle that is open was given up once if it is marked, and never if not. -/
theorem World.Agrees.timesGivenUp {w : World κ τ} {c : ContextId} {made : List OpenHandle}
    {h : OpenHandle} (hw : w.Agrees c made) (hh : h ∈ (w.opens c).toList) :
    w.timesGivenUp c h.id = if w.isDisconnected h.id then 1 else 0 := by
  have hiff := hw.flag h (hw.made_of_open h hh)
  rw [World.timesGivenUp, hw.once.count]
  exact if_congr hiff.symm rfl rfl

/-- The acts by which an attached device is made to leave a bus, each with the device
that the pass over the departure tells of. -/
inductive Departing (host : Host κ τ) (b : BusId) (d : Device) :
    Device → (α : Type) → Act κ τ α → Prop
  | unplug : Departing host b d d _ (Act.unplug host b d.id)
  /-- A handle on the device knows it by its identity. -/
  | transferFailed (h : OpenHandle) : h.device.id = d.id →
      Departing host b d h.device _ (Act.transferFailed host b h)

/-- **How far a departure reaches** that had an effect as a whole; the callbacks of its
pass by themselves had the effect `called`. -/
structure Reach (c : ContextId) (i : DeviceId) (called : Effect κ τ (List (CallbackId × Visit)))
    (out : Effect κ τ α) : Prop where
  /-- It unwinds if and only if a callback panicked. -/
  unwinds : out.result = none ↔ called.result = none
  /-- A departure that unwinds stops where its callbacks did. -/
  stops : called.result = none → out.world = called.world
  /-- It closes no handle and opens none, but for what the callbacks do. -/
  opens : out.world.opens c = called.world.opens c
  /-- A handle still open on the device was given up exactly once, if no callback
  panicked. If one did, it was if and only if it was marked by then. -/
  times : ∀ h ∈ (out.world.opens c).on i, out.world.timesGivenUp c h.id =
    if called.result.isSome ∨ called.world.isDisconnected h.id then 1 else 0
  /-- All of them are reached if and only if no callback panicked, or the callbacks left
  none to be reached. -/
  whole : (∀ h ∈ (out.world.opens c).on i, out.world.timesGivenUp c h.id = 1) ↔
    called.result.isSome ∨
      ∀ h ∈ (called.world.opens c).on i, called.world.isDisconnected h.id = true

/-- How far a departure reaches is read off the marks. -/
theorem Reach.of_marks {c : ContextId} {i : DeviceId}
    {called : Effect κ τ (List (CallbackId × Visit))} {out : Effect κ τ α}
    (hunwinds : out.result = none ↔ called.result = none)
    (hstops : called.result = none → out.world = called.world)
    (hopens : out.world.opens c = called.world.opens c)
    (htimes : ∀ h ∈ (out.world.opens c).on i,
      out.world.timesGivenUp c h.id = if out.world.isDisconnected h.id then 1 else 0)
    (hmarks : ∀ h ∈ (out.world.opens c).on i, out.world.isDisconnected h.id = true ↔
      called.result.isSome ∨ called.world.isDisconnected h.id = true) :
    Reach c i called out where
  unwinds := hunwinds
  stops := hstops
  opens := hopens
  times h hh := by
    rw [htimes h hh]
    exact if_congr (hmarks h hh) rfl rfl
  whole := by
    have honce : ∀ h ∈ (out.world.opens c).on i, out.world.timesGivenUp c h.id = 1 ↔
        called.result.isSome ∨ called.world.isDisconnected h.id = true := by
      intro h hh
      rw [← hmarks h hh, htimes h hh]
      simp
    rw [← hopens, forall₂_congr honce]
    by_cases hsome : called.result.isSome = true <;> simp [hsome]

namespace Act

variable {host : Host κ τ} {b : BusId} {c : ContextId} {d told : Device} {e : Event}
variable {h : OpenHandle} {rest : Roster} {w : World κ τ} {vs : List (CallbackId × Visit)}
variable {x : Act κ τ α} {y : Act κ τ β}

/-! ## The pass -/

/-- A pass whose callbacks panic does not follow up. -/
theorem run_notify_of_panic (hscan : ((scan host c d e).run w).result = none) :
    (notify host c d e).run w =
      { result := none
        world := ((scan host c d e).run w).world
        notices := .passBegan c d e :: ((scan host c d e).run w).notices } := by
  have hproceed : (proceed host c d e).run w = (scan host c d e >>= settle c d e).run w := by
    rw [proceed, scan, bind_assoc]
    rfl
  rw [run_notify_proceed, hproceed, run_bind_of_panic hscan]

/-- A pass whose callbacks do not panic follows up in the world that they leave. -/
theorem run_notify_of_scan (hscan : ((scan host c d e).run w).result = some vs) :
    (∃ tally, ((notify host c d e).run w).result = some tally) ∧
      ((notify host c d e).run w).world =
        ((followUp c d e).run ((scan host c d e).run w).world).world := by
  obtain ⟨hs, hhs⟩ : ∃ hs, ((followUp c d e).run ((scan host c d e).run w).world).result =
    some hs := returns_followUp _
  have hrun : (notify host c d e).run w = _ := run_notify_of hscan hhs
  rw [hrun]
  exact ⟨⟨_, rfl⟩, rfl⟩

/-- The follow-up of a departure marks every handle on the device, and no other. -/
theorem marks_followUp :
    ((followUp c d .left).run w).world.opens c = w.opens c ∧
      ∀ k, ((followUp c d .left).run w).world.isDisconnected k = true ↔
        w.isDisconnected k = true ∨ ∃ h ∈ (w.opens c).on d.id, h.id = k := by
  obtain ⟨-, hhold⟩ : _ ∧ ((disconnectAll c ((w.opens c).on d.id)).run w).world.holding ⟨0⟩ c = _ :=
    holding_disconnectAll
  exact ⟨congrArg OpenList.mk (congrArg Holding.handles hhold),
    fun k => Iff.of_eq (congrFun (congrArg Holding.gone hhold) k)⟩

/-! ## The departure -/

/-- A departure is a pass over it, begun when the device is off the roster. -/
theorem run_of_departing (hx : Departing host b d told α x) (hc : w.contextOf b = c)
    (hd : (w.roster c).detach? d.id = some (d, rest)) :
    told.id = d.id ∧
      ((x.run w).result = none ↔
        ((notify host c told .left).run (w.setRoster c rest)).result = none) ∧
      (x.run w).world = ((notify host c told .left).run (w.setRoster c rest)).world := by
  subst hc
  cases hx with
  | unplug =>
    rw [run_unplug, hd]
    exact ⟨rfl, Option.map_eq_none_iff, rfl⟩
  | transferFailed h hid =>
    refine ⟨hid, ?_⟩
    rw [run_transferFailed, hid, hd]
    exact ⟨Iff.rfl, rfl⟩

theorem within_of_departing (hx : Departing host b d told α x)
    (hhost : host.Within Repertoire.Any) : x.Within Repertoire.Any := by
  cases hx with
  | unplug => exact .op host hhost (.calm (.unplug b d.id))
  | transferFailed h => exact .op host hhost (.calm (.transferFailed b h))

/-- **A departure reaches the handles on its device, unless a callback panics** before
it comes to them. This holds of every departure after every run, also of one begun by a
callback, as runs may be cut short anywhere. -/
theorem Within.departure_reaches (hy : y.Within Repertoire.Any) (hw : w.Unopened c)
    (hhost : host.Within Repertoire.Any) (hc : (y.run w).world.contextOf b = c)
    (hd : ((y.run w).world.roster c).detach? d.id = some (d, rest))
    (hx : Departing host b d told α x) :
    Reach c d.id ((scan host c told .left).run ((y.run w).world.setRoster c rest))
      (x.run (y.run w).world) := by
  obtain ⟨hid, hresult, hworld⟩ := run_of_departing hx hc hd
  obtain ⟨hagrees, -⟩ := (hy.records w).agrees [] hw.agrees
  obtain ⟨hagrees', -⟩ := ((within_of_departing hx hhost).records (y.run w).world).agrees _ hagrees
  have htimes : ∀ h ∈ ((x.run (y.run w).world).world.opens c).on d.id,
      (x.run (y.run w).world).world.timesGivenUp c h.id =
        if (x.run (y.run w).world).world.isDisconnected h.id then 1 else 0 :=
    fun h hh => hagrees'.timesGivenUp (OpenList.mem_on.1 hh).1
  generalize (y.run w).world.setRoster c rest = v at hresult hworld ⊢
  rcases hscan : ((scan host c told .left).run v).result with _ | vs
  · have hpass : (notify host c told .left).run v = _ := run_notify_of_panic hscan
    rw [hpass] at hresult hworld
    refine .of_marks ?_ (fun _ => hworld) (congrArg (World.opens · c) hworld) htimes fun h _ => ?_
    · simpa [hscan] using hresult
    · rw [hworld, hscan]
      simp
  · obtain ⟨⟨tally, htally⟩, hpass⟩ :
      (∃ tally, ((notify host c told .left).run v).result = some tally) ∧ _ :=
        run_notify_of_scan hscan
    obtain ⟨hopens, hmarks⟩ := marks_followUp (c := c) (d := told)
      (w := ((scan host c told .left).run v).world)
    rw [hpass] at hworld
    rw [← hworld] at hopens hmarks
    refine .of_marks ?_ ?_ hopens htimes fun h hh => ?_
    · simp [hresult, htally, hscan]
    · simp [hscan]
    · rw [hopens] at hh
      simp only [hscan, Option.isSome_some, true_or, iff_true, hmarks]
      exact Or.inr ⟨h, hid ▸ hh, rfl⟩

/-- Callbacks that, when a device leaves, report this again, open a handle on the device,
and panic. -/
def alarmed : Host Unit Unit where
  react inv :=
    if inv.event = .left then do
      let _ ← notify .idle inv.context inv.device .left
      let _ ← openHandle inv.context inv.device
      panic
    else return .rearm
  order _ ids := ids
  order_perm _ _ := .refl _

/-- Registers a callback, plugs a device in, and opens a handle on it. -/
def openUnder (host : Host Unit Unit) (b : BusId) (c : ContextId) : Act Unit Unit Unit := do
  let _ ← register host c { events := .all, program := some () }
  let _ ← plug host b { vendor := 1, product := 1 }
  let _ ← openDevice b ⟨1⟩

theorem alarmed_within : alarmed.Within Repertoire.Any := by
  intro inv
  by_cases he : inv.event = .left
  · simp only [alarmed, if_pos he]
    refine .bind (.op .idle Host.idle_within (.calm (.notify _ _ _))) fun _ => ?_
    refine .bind (.op .idle Host.idle_within (.calm (.openHandle _ _))) fun _ => ?_
    exact .op .idle Host.idle_within .panic
  · simp only [alarmed, if_neg he]
    exact .pure _

theorem openUnder_within {host : Host Unit Unit} (hhost : host.Within Repertoire.Any) :
    (openUnder host b c).Within Repertoire.Any := by
  refine .bind (.op _ hhost (.calm (.register c _))) fun _ => ?_
  refine .bind (.op _ hhost (.calm (.plug b _))) fun _ => ?_
  exact .bind (.op .idle Host.idle_within (.calm (.openDevice b _))) fun _ => .pure _

/-- The world that this leaves. -/
def heldUnder (host : Host Unit Unit) : World Unit Unit :=
  ((openUnder host ⟨1⟩ ⟨1⟩).run oneBus).world

/-- The pass that the callback began gave up the first handle, before the panic. The
handle that it opened afterwards was not reached. -/
theorem departure_reaches_of_alarmed :
    ∃ called out, out = (unplug alarmed ⟨1⟩ ⟨1⟩).run (heldUnder alarmed) ∧
      Reach ⟨1⟩ ⟨1⟩ called out ∧ called.result = none ∧
      (out.world.opens ⟨1⟩).toList.map (fun h => out.world.timesGivenUp ⟨1⟩ h.id) = [1, 0] := by
  have hy : (openUnder alarmed ⟨1⟩ ⟨1⟩).Within Repertoire.Any := openUnder_within alarmed_within
  have hx : Departing alarmed ⟨1⟩ (Bus.device 1 { vendor := 1, product := 1 }) _ _ _ := .unplug
  exact ⟨_, _, rfl, hy.departure_reaches oneBus_unopened alarmed_within rfl rfl hx, rfl, rfl⟩

/-- Callbacks that panic when a device leaves. -/
def upset : Host Unit Unit where
  react inv := if inv.event = .left then panic else return .rearm
  order _ ids := ids
  order_perm _ _ := .refl _

/-- **A handle may be missed**: its device is gone, the handle is open, and it was never
given up. -/
theorem departure_misses_of_upset :
    ∃ out, out = (unplug upset ⟨1⟩ ⟨1⟩).run (heldUnder upset) ∧
      out.result = none ∧ (out.world.roster ⟨1⟩).toList = [] ∧
      (out.world.opens ⟨1⟩).on ⟨1⟩ = [⟨⟨1⟩, Bus.device 1 { vendor := 1, product := 1 }⟩] ∧
      out.world.isDisconnected ⟨1⟩ = false ∧ out.world.timesGivenUp ⟨1⟩ ⟨1⟩ = 0 :=
  ⟨_, rfl, rfl, rfl, rfl, rfl, rfl⟩

/-! ## What a departure missed -/

/-- What the platform of a context gives up is on devices whose departures had a pass.
Certain passes are known to have begun. -/
def Blames (c : ContextId) (known : List (DeviceId × Event)) : Law κ τ :=
  fun w ns w' => ∀ r ∈ w'.record c, r ∈ w.record c ∨ (r.device, .left) ∈ known ++ announced c ns

theorem Blames.of_platform {known : List (DeviceId × Event)} {w w' : World κ τ} {ns : List Notice}
    (h : w'.platform c = w.platform c) : Blames c known w ns w' := by
  intro r hr
  rw [World.record_eq h] at hr
  exact Or.inl hr

instance {known : List (DeviceId × Event)} : Law.Composes (Blames (κ := κ) (τ := τ) c known) where
  refl _ _ hr := Or.inl hr
  trans h₁ h₂ r hr := by
    rw [announced_append, ← List.append_assoc]
    obtain hr | hr := h₂ r hr
    · exact (h₁ r hr).imp_right (List.mem_append_left _)
    · refine Or.inr (List.mem_append.2 ?_)
      exact (List.mem_append.1 hr).imp_left (List.mem_append_left _)

section Blames

variable {c' : ContextId} {known : List (DeviceId × Event)}

theorem blames_of_still (hx : x.Obeys Still) : x.Obeys (Blames c known) :=
  fun w => .of_platform ((hx w).platform c)

/-- The platform of the handle's context is told of the handle's own device. -/
theorem blames_disconnect (hknown : c' = c → (h.device.id, .left) ∈ known) :
    (disconnect c' h : Act κ τ Bool).Obeys (Blames c known) := by
  refine obeys_disconnect fun w _ r hr => ?_
  rw [World.record, World.platform_setPlatform] at hr
  split at hr
  next hc =>
    rcases hp : w.platform c' with _ | ⟨hotplug, ds⟩
    · rw [hp] at hr
      cases hr
    · rw [hp] at hr
      rw [World.record, hc, hp]
      refine (List.mem_append.1 hr).imp_right fun hr => ?_
      rw [List.mem_singleton.1 hr]
      exact List.mem_append_left _ (hknown hc.symm)
  next => exact Or.inl hr

/-- The passes that a notice tells of are known in what comes after it. -/
theorem blames_notify (hv : ∀ id, (visit host c' d e id).Obeys (Blames c [])) :
    (notify host c' d e).Obeys (Blames c []) := by
  have hproceed : (proceed host c' d e).Obeys (Blames c (announced c [.passBegan c' d e])) := by
    refine obeys_get.bind fun w => Obeys.bind ?visits fun vs => Obeys.bind ?followUp fun _ => ?note
    case visits =>
      refine closed_obeys.visitAll fun id _ => (hv id).mono fun w ns w' hblames r hr => ?_
      exact (hblames r hr).imp_right (List.mem_append_right _)
    case followUp =>
      rw [followUp]
      split
      next he =>
        refine (obeys_context c').bind fun x => closed_obeys.disconnectAll fun h hh => ?_
        refine blames_disconnect fun hc => ?_
        rw [(OpenList.mem_on.1 hh).2, he, hc]
        simp [announced, passes]
      next => exact obeys_pure _
    case note =>
      exact Obeys.bind (fun _ => .of_platform rfl) fun _ => obeys_pure _
  intro w r hr
  rw [run_notify_proceed] at hr ⊢
  rw [List.nil_append, ← List.singleton_append, announced_append]
  exact hproceed w r hr

theorem parts_blames : Parts fun _ (y : Act κ τ _) => y.Obeys (Blames c []) where
  toClosed := closed_obeys
  decide := blames_of_still still_decide
  commit := blames_of_still still_commit
  markPending := blames_of_still still_markPending
  insert := blames_of_still still_insert
  teardown := blames_of_still still_teardown
  attach _ := .of_platform World.platform_setRoster
  detach := obeys_detach fun _ _ _ _ => .of_platform World.platform_setRoster
  openHandle _ := .of_platform World.platform_setOpens
  closeHandle := obeys_closeHandle fun _ _ _ => .of_platform World.platform_setOpens
  buses _ _ := .of_platform rfl
  delivered _ := .of_platform rfl
  registered _ := .of_platform rfl
  plugged _ := .of_platform rfl
  unplugged _ := .of_platform rfl
  notify := blames_notify

/-- **What a run gives up is on devices whose departures it had passes over.** -/
theorem Within.blames (hx : x.Within Repertoire.Any) : x.Obeys (Blames c []) :=
  hx.obeys_of_parts parts_blames fun _ _ _ hr => Or.inl hr

end Blames

end Act

/-- The device of a handle has left, if it is not there. -/
theorem World.Past.left_of_away {w : World κ τ} {b : BusId} {c : ContextId} {first : Nat}
    {ns : List Notice} {h : OpenHandle} (hw : w.Past b c first ns) (hh : h ∈ opened c ns)
    (haway : h.device ∉ (w.roster c).toList) : (h.device.id, .left) ∈ changes c ns := by
  have hno : h.device.id ∉ (rosterAfter c ns).ids := by
    intro hmem
    obtain ⟨d, hd, hid⟩ := List.mem_map.1 hmem
    rw [← hw.roster] at hd
    exact haway (hw.eq_device hh hd hid ▸ hd)
  have harrived := List.count_pos_iff.2
    (mem_changes_of_attached (hw.chronicle.attached_of_opened hh))
  have hbalance := hw.chronicle.balance h.device.id
  rw [if_neg hno, Nat.add_zero] at hbalance
  exact List.count_pos_iff.1 (hbalance ▸ harrived)

namespace Act

variable {b : BusId} {c : ContextId} {h : OpenHandle} {w : World κ τ}
variable {y : Act κ τ β} {z : Act κ τ α}

/-- **What a departure missed stays missed.** A handle that is open after a run on a fresh
bus, while its device is gone and it is not marked, is never given up, whatever is done on
the bus afterwards. -/
theorem Within.missed_for_good (hy : y.Within (Repertoire.Cut (Repertoire.OnBus b)))
    (hz : z.Within (Repertoire.Cut (Repertoire.OnBus b))) (hw : w.FreshBus b)
    (hu : w.Unopened c) (hc : w.contextOf b = c) (hh : h ∈ ((y.run w).world.opens c).toList)
    (haway : h.device ∉ ((y.run w).world.roster c).toList)
    (hm : (y.run w).world.isDisconnected h.id = false) :
    (z.run (y.run w).world).world.isDisconnected h.id = false ∧
      (z.run (y.run w).world).world.timesGivenUp c h.id = 0 := by
  have hpast := hy.past hw hc
  obtain ⟨hagrees, -⟩ := (hy.of_cut.records w).agrees [] hu.agrees
  rw [List.nil_append] at hagrees
  obtain ⟨hagrees', -⟩ := (hz.of_cut.records (y.run w).world).agrees _ hagrees
  have hopened := hagrees.made_of_open h hh
  have hpast' := hz.recounts (y.run w).world _ hpast (List.nil_subset _)
  -- The device does not leave again, so there is no other pass over its departure.
  have hno : (h.device.id, .left) ∉ announced c (z.run (y.run w).world).notices := by
    have hsame := hpast'.announced
    rw [announced_append, changes_append, hpast.announced] at hsame
    rw [List.append_cancel_left hsame]
    exact hpast'.chronicle.not_left_again (hpast.left_of_away hopened haway)
  have hblames : Blames c [] (y.run w).world _ (z.run (y.run w).world).world := hz.of_cut.blames _
  generalize z.run (y.run w).world = out at hagrees' hno hblames ⊢
  have hmade : h ∈ opened c (y.run w).notices ++ opened c out.notices :=
    List.mem_append_left _ hopened
  have hnone : h.id ∉ (out.world.record c).map Disconnect.handle := by
    intro hmem
    obtain ⟨r, hr, hid⟩ := List.mem_map.1 hmem
    obtain hr' | hr' := hblames r hr
    · rw [(hagrees.flag h hopened).2 (List.mem_map.2 ⟨r, hr', hid⟩)] at hm
      cases hm
    · -- The entry is of this handle, so it is of this device.
      obtain ⟨o, ho, rfl⟩ := hagrees'.entry r hr
      obtain rfl : o = h := List.inj_on_of_nodup_map hagrees'.distinct ho hmade hid
      exact hno hr'
  exact ⟨Bool.eq_false_iff.2 fun hmark => hnone ((hagrees'.flag h hmade).1 hmark),
    List.count_eq_zero.2 hnone⟩

end Act
end DeviceWatch
