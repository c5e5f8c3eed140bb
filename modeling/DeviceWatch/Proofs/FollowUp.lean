import DeviceWatch.Proofs.Disconnection
import DeviceWatch.Proofs.Opening
import DeviceWatch.Proofs.Tallies
/-!
# The follow-up of a departure

A pass over a departure disconnects the handles that are open on the device, and
it looks for them only when its callbacks are done. Meanwhile the callbacks may
have opened and closed handles, and passes that they began may have followed up
the same departure. What is left to the pass itself is therefore read off the
world that the callbacks left: the handles listed there, less those marked already.
-/

namespace DeviceWatch

variable {κ τ α : Type}

namespace World

/-- The handles among these that are not marked as disconnected. -/
def unmarked (w : World κ τ) (hs : List OpenHandle) : List OpenHandle :=
  hs.filter fun h => !w.isDisconnected h.id

/-- The handles that are due when the callbacks of a pass are done: after a
departure, those listed on the device and not marked. -/
def due (w : World κ τ) (c : ContextId) (d : Device) (e : Event) : List OpenHandle :=
  if e = .left then w.unmarked ((w.opens c).on d.id) else []

variable {w : World κ τ} {c : ContextId} {d : Device} {e : Event} {h : OpenHandle}
variable {hs : List OpenHandle}

theorem unmarked_cons_of_marked (hm : w.isDisconnected h.id = true) :
    w.unmarked (h :: hs) = w.unmarked hs := by
  rw [unmarked, List.filter_cons, hm]
  rfl

theorem unmarked_cons_of_unmarked (hm : ¬ w.isDisconnected h.id = true) :
    w.unmarked (h :: hs) = h :: w.unmarked hs := by
  rw [unmarked, List.filter_cons, Bool.eq_false_iff.2 hm]
  rfl

theorem mem_due : h ∈ w.due c d e ↔
    e = .left ∧ h.device.id = d.id ∧ h ∈ (w.opens c).toList ∧ w.isDisconnected h.id = false := by
  by_cases he : e = .left
  · rw [due, if_pos he, unmarked, List.mem_filter, OpenList.mem_on, Bool.not_eq_true']
    exact ⟨fun ⟨⟨ho, hd⟩, hm⟩ => ⟨he, hd, ho, hm⟩, fun ⟨_, hd, ho, hm⟩ => ⟨⟨ho, hd⟩, hm⟩⟩
  · rw [due, if_neg he]
    exact ⟨nofun, fun ⟨he', _⟩ => absurd he' he⟩

theorem due_sublist : (w.due c d e).Sublist (w.opens c).toList := by
  rw [due]
  split
  · exact List.filter_sublist.trans List.filter_sublist
  · exact List.nil_sublist _

end World

/-- **What a disconnection of handles does** that gives up these, one after the
other: it marks them and no other, and the platform is told of them in order. -/
structure Disconnects (c : ContextId) (lost : List OpenHandle) (w : World κ τ)
    (out : Effect κ τ (List OpenHandle)) : Prop where
  result : out.result = some lost
  notices : out.notices = lost.flatMap fun h => Act.givenUp c h (w.platform c)
  flag (k : OpenId) : out.world.isDisconnected k = true ↔
    w.isDisconnected k = true ∨ ∃ h ∈ lost, h.id = k
  platform (c' : ContextId) : out.world.platform c' =
    if c' = c then lost.foldl (fun p h => p.giveUp h) (w.platform c) else w.platform c'
  registry (c' : ContextId) : out.world.registry c' = w.registry c'
  roster (c' : ContextId) : out.world.roster c' = w.roster c'
  opens (c' : ContextId) : out.world.opens c' = w.opens c'

/-- **The follow-up of a pass** that began in a world, made these turns, had this
effect by the time that its callbacks were done, and gave up these handles after
them. -/
structure FollowUp (c : ContextId) (d : Device) (e : Event) (w : World κ τ)
    (ts : List (Turn κ τ)) (scanned : Effect κ τ (List (CallbackId × Visit)))
    (lost : List OpenHandle) (out : Effect κ τ Tally) : Prop where
  /-- All runs of callbacks, with what happens under them, come before all
  disconnects of the pass itself; the tally counts these. -/
  order : ∃ tally, out.result = some tally ∧ tally.disconnected = lost.length ∧
    out.notices = .passBegan c d e :: (ts.flatMap (Turn.told c d e) ++
      (lost.flatMap fun h => Act.givenUp c h (scanned.world.platform c)) ++
      [.passEnded c d e tally])
  /-- What the turns tell is what happened by the time that the callbacks were done. -/
  told : scanned.notices = ts.flatMap (Turn.told c d e)
  /-- Handles are given up in the order of the list that the callbacks left. -/
  listed : lost.Sublist (scanned.world.opens c).toList
  /-- None is given up twice. -/
  once : (lost.map OpenHandle.id).Nodup
  /-- After a departure, what is listed on the device and not marked is given up, and
  nothing else ever. -/
  mem_iff (h : OpenHandle) : h ∈ lost ↔ e = .left ∧ h.device.id = d.id ∧
    h ∈ (scanned.world.opens c).toList ∧ scanned.world.isDisconnected h.id = false
  /-- Listed is what was open when the pass began or was opened by the callbacks, and
  was not closed by them. -/
  opens (h : OpenHandle) : h ∈ (scanned.world.opens c).toList ↔
    (h ∈ (w.opens c).toList ∨ .opened c h ∈ scanned.notices) ∧ .closed c h.id ∉ scanned.notices
  /-- Whatever passes begun by the callbacks gave up is marked. -/
  nested (c' : ContextId) (h : OpenHandle) : .disconnected c' h ∈ scanned.notices →
    scanned.world.isDisconnected h.id = true
  /-- The pass itself marks what it gives up, and no other handle. -/
  flag (k : OpenId) : out.world.isDisconnected k = true ↔
    scanned.world.isDisconnected k = true ∨ ∃ h ∈ lost, h.id = k
  /-- The platform of the context is told of these handles, in order, and no other
  platform of any. -/
  platform (c' : ContextId) : out.world.platform c' =
    if c' = c then lost.foldl (fun p h => p.giveUp h) (scanned.world.platform c)
    else scanned.world.platform c'
  /-- Registries, devices and open handles stay as the callbacks left them. -/
  rest (c' : ContextId) : out.world.registry c' = scanned.world.registry c' ∧
    out.world.roster c' = scanned.world.roster c' ∧ out.world.opens c' = scanned.world.opens c'

namespace Act

variable {host : Host κ τ} {c : ContextId} {d : Device} {e : Event} {w : World κ τ}
variable {h k : OpenHandle} {hs lost : List OpenHandle} {p : Platform}

/-! ## Disconnecting one handle after the other -/

/-- A platform tells of disconnects or does not, whatever it gave up before. -/
theorem givenUp_giveUp : givenUp c h (p.giveUp k) = givenUp c h p := by
  cases p <;> rfl

theorem disconnectAll_nil : Disconnects c [] w ((disconnectAll c []).run w) where
  result := rfl
  notices := rfl
  flag k := by simp [disconnectAll]
  platform c' := by
    by_cases hc : c' = c
    · rw [if_pos hc, hc]
      rfl
    · rw [if_neg hc]
      rfl
  registry _ := rfl
  roster _ := rfl
  opens _ := rfl

theorem run_disconnectAll_of_marked (hm : w.isDisconnected h.id = true) :
    (disconnectAll c (h :: hs)).run w = (disconnectAll c hs).run w := by
  have hrun : (disconnect c h).run w = { result := some false, world := w } := by
    rw [run_disconnect, if_pos hm]
  rw [disconnectAll, run_bind, hrun, Effect.andThen_some, run_bind_pure]
  rcases (disconnectAll c hs).run w with ⟨_ | others, w', ns⟩ <;> rfl

/-- A handle that is not marked is given up first, and then the others are. -/
theorem disconnects_cons (hm : ¬ w.isDisconnected h.id = true)
    (hrest : ∀ v : World κ τ, (∀ i, v.isDisconnected i = true ↔
      w.isDisconnected i = true ∨ i = h.id) → Disconnects c lost v ((disconnectAll c hs).run v)) :
    Disconnects c (h :: lost) w ((disconnectAll c (h :: hs)).run w) := by
  have hrun : (disconnect c h).run w =
      { result := some true
        world := World.setPlatform { w with disconnected := h.id :: w.disconnected } c
          ((w.platform c).giveUp h)
        notices := givenUp c h (w.platform c) } := by
    rw [run_disconnect, if_neg hm]
  have hv := hrest _ fun i => World.isDisconnected_mark (w := w) (c := c)
    (p := (w.platform c).giveUp h) (i := h.id) (k := i)
  have hplatform : ∀ c', (World.setPlatform { w with disconnected := h.id :: w.disconnected } c
      ((w.platform c).giveUp h)).platform c' =
      if c' = c then (w.platform c).giveUp h else w.platform c' := fun _ =>
    World.platform_setPlatform
  have hflag := fun i => World.isDisconnected_mark (w := w) (c := c)
    (p := (w.platform c).giveUp h) (i := h.id) (k := i)
  rw [disconnectAll, run_bind, hrun, Effect.andThen_some, run_bind_pure]
  generalize (disconnectAll c hs).run _ = out at hv
  refine ⟨?_, ?_, fun i => ?_, fun c' => ?_, fun c' => ?_, fun c' => ?_, fun c' => ?_⟩
  · rw [hv.result]
    rfl
  · rw [hv.notices, hplatform, if_pos rfl, List.flatMap_cons]
    simp only [givenUp_giveUp]
  · rw [hv.flag, hflag, or_assoc, List.exists_mem_cons_iff, eq_comm (a := i)]
  · rw [hv.platform, hplatform, hplatform, if_pos rfl, List.foldl_cons]
    split <;> rfl
  · rw [hv.registry, World.registry_setPlatform]
    rfl
  · rw [hv.roster, World.roster_setPlatform]
    rfl
  · rw [hv.opens, World.opens_setPlatform]
    rfl

/-- **Handles are disconnected unless they are marked**, if no two have one number. -/
theorem disconnects_disconnectAll (hn : (hs.map OpenHandle.id).Nodup) :
    Disconnects c (w.unmarked hs) w ((disconnectAll c hs).run w) := by
  induction hs generalizing w with
  | nil => exact disconnectAll_nil
  | cons h rest ih =>
    obtain ⟨hno, hrest⟩ := List.nodup_cons.1 hn
    by_cases hm : w.isDisconnected h.id = true
    · rw [World.unmarked_cons_of_marked hm, run_disconnectAll_of_marked hm]
      exact ih hrest
    · rw [World.unmarked_cons_of_unmarked hm]
      refine disconnects_cons hm fun v hv => ?_
      -- The mark on the first handle is on none of the others.
      have hsame : v.unmarked rest = w.unmarked rest := by
        refine List.filter_congr fun o ho => ?_
        have hne : o.id ≠ h.id := fun heq => hno (heq ▸ List.mem_map_of_mem ho)
        have hiff : v.isDisconnected o.id = w.isDisconnected o.id := by
          rw [Bool.eq_iff_iff, hv, or_iff_left hne]
        rw [hiff]
      rw [← hsame]
      exact ih hrest

/-- A departure is followed up with what is due, and no arrival is followed up. -/
theorem disconnects_followUp (hw : w.Distinguished) :
    Disconnects c (w.due c d e) w ((followUp c d e).run w) := by
  by_cases he : e = .left
  · have hon : (((w.opens c).on d.id).map OpenHandle.id).Nodup :=
      (hw.distinct c).sublist (List.filter_sublist.map OpenHandle.id)
    have hall : Disconnects c (w.unmarked ((w.opens c).on d.id)) w
      ((disconnectAll c ((w.opens c).on d.id)).run w) := disconnects_disconnectAll hon
    rw [followUp, World.due, if_pos he, if_pos he]
    exact hall
  · rw [followUp, World.due, if_neg he, if_neg he]
    exact disconnectAll_nil

/-! ## The pass -/

/-- What a pass does before it follows up: it visits the records that are live. -/
def scan (host : Host κ τ) (c : ContextId) (d : Device) (e : Event) :
    Act κ τ (List (CallbackId × Visit)) := do
  let w ← get
  visitAll host c d e (host.order w (w.registry c).ids)

theorem handles_scan (hhost : host.Within Repertoire.Any) :
    (scan host c d e).Obeys HandlesOf :=
  obeys_get.bind fun _ => still_visitAll fun inv => (hhost inv).handles

/-- **Every pass follows up the departure of its device** when its callbacks are done,
whatever they do, if none of them panics. -/
theorem notify_follows_up (hhost : host.Within Repertoire.Any)
    (hret : ∀ inv, (host.react inv).Returns) (hw : w.Distinguished) :
    FollowUp c d e w (turns host c d e (host.order w (w.registry c).ids) w)
      ((scan host c d e).run w) (((scan host c d e).run w).world.due c d e)
      ((notify host c d e).run w) := by
  have hscan : (scan host c d e).run w =
    (visitAll host c d e (host.order w (w.registry c).ids)).run w := rfl
  have hv : Handles w ((scan host c d e).run w).notices ((scan host c d e).run w).world :=
    handles_scan hhost w hw
  obtain ⟨⟨vs, hvs, -, -⟩, htold⟩ :
    (∃ vs, ((visitAll host c d e (host.order w (w.registry c).ids)).run w).result = some vs ∧
      _) ∧ _ := visitAll_whole hret
  rw [← hscan] at hvs htold
  have hlost : Disconnects c (((scan host c d e).run w).world.due c d e)
      ((scan host c d e).run w).world ((followUp c d e).run ((scan host c d e).run w).world) :=
    disconnects_followUp hv.distinguished
  have hrun : (notify host c d e).run w = _ := run_notify_of hvs hlost.result
  rw [← hscan] at hrun
  rw [hrun]
  refine ⟨⟨_, rfl, rfl, ?order⟩, htold, World.due_sublist, ?once, fun h => World.mem_due,
    hv.opens c, hv.marked, hlost.flag, hlost.platform, ?rest⟩
  case order => rw [htold, hlost.notices]
  case once =>
    exact (hv.distinguished.distinct c).sublist (World.due_sublist.map OpenHandle.id)
  case rest => exact fun c' => ⟨hlost.registry c', hlost.roster c', hlost.opens c'⟩

/-- Callbacks that close the first handle when a device leaves, report the departure
again, and open another handle on the device. -/
def clinging : Host Unit Unit where
  react inv :=
    if inv.event = .left then do
      let _ ← closeHandle inv.context ⟨⟨1⟩, inv.device⟩
      let _ ← notify .idle inv.context inv.device .left
      let _ ← openHandle inv.context inv.device
      return .rearm
    else return .rearm
  order _ ids := ids
  order_perm _ _ := .refl _

/-- Registers a callback, and opens two handles on a device. -/
def openTwo (c : ContextId) (d : Device) : Act Unit Unit Unit := do
  let _ ← register clinging c { events := .all, program := some () }
  let _ ← openHandle c d
  let _ ← openHandle c d

theorem clinging_within : clinging.Within Repertoire.Any := by
  intro inv
  by_cases he : inv.event = .left
  · simp only [clinging, if_pos he]
    refine .bind (.op .idle Host.idle_within (.calm (.closeHandle _ _))) fun _ => ?_
    refine .bind (.op .idle Host.idle_within (.calm (.notify _ _ _))) fun _ => ?_
    exact .bind (.op .idle Host.idle_within (.calm (.openHandle _ _))) fun _ => .pure _
  · simp only [clinging, if_neg he]
    exact .pure _

theorem clinging_returns (inv : Invocation Unit) : (clinging.react inv).Returns := by
  by_cases he : inv.event = .left
  · simp only [clinging, if_pos he]
    refine returns_closeHandle.bind fun _ => Returns.bind ?_ fun _ => ?_
    · exact parts_returns.calm (fun _ => returns_pure _) (.notify _ _ _)
    · exact returns_openHandle.bind fun _ => returns_pure _
  · simp only [clinging, if_neg he]
    exact returns_pure _

theorem openTwo_within {c : ContextId} {d : Device} : (openTwo c d).Within Repertoire.Any := by
  refine .bind (.op _ clinging_within (.calm (.register c _))) fun _ => ?_
  refine .bind (.op .idle Host.idle_within (.calm (.openHandle c d))) fun _ => ?_
  exact .bind (.op .idle Host.idle_within (.calm (.openHandle c d))) fun _ => .pure _

theorem oneBus_distinguished : oneBus.Distinguished :=
  ((World.distinguished_blank ()).addContext _ _).addBus _

/-- The callback closes the first of two handles, the pass that it begins disconnects
the second, and the pass itself the third, which the callback opened. -/
theorem follow_up_of_clinging :
    FollowUp ⟨1⟩ default .left ((openTwo ⟨1⟩ default).run oneBus).world
        (turns clinging ⟨1⟩ default .left [⟨1⟩] ((openTwo ⟨1⟩ default).run oneBus).world)
        ((scan clinging ⟨1⟩ default .left).run ((openTwo ⟨1⟩ default).run oneBus).world)
        [⟨⟨3⟩, default⟩]
        ((notify clinging ⟨1⟩ default .left).run ((openTwo ⟨1⟩ default).run oneBus).world) ∧
      ((scan clinging ⟨1⟩ default .left).run
        ((openTwo ⟨1⟩ default).run oneBus).world).world.isDisconnected ⟨2⟩ = true := by
  have hw : ((openTwo ⟨1⟩ default).run oneBus).world.Distinguished :=
    openTwo_within.distinguished oneBus_distinguished
  exact ⟨notify_follows_up clinging_within clinging_returns hw, rfl⟩

end Act
end DeviceWatch
