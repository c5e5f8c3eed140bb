import DeviceWatch.Proofs.Attachment
import DeviceWatch.Proofs.Chronicle
import DeviceWatch.Proofs.Tallies
/-!
# The past of a bus

Where a fresh bus is driven by acts on it alone, with callbacks that act on it
again to any depth, what is noted of its context is a chronicle, and it accounts for
the devices that are there. This holds at every moment of a run, also while callbacks
run: a run may be cut short by a panic anywhere, so the worlds that such runs leave
are all those that runs pass through.
-/

namespace DeviceWatch

variable {κ τ α : Type}

/-- **The past of a bus** that was fresh: its notices are a chronicle, which accounts
for the devices that are there. -/
structure World.Past (w : World κ τ) (b : BusId) (c : ContextId) (first : Nat)
    (past : List Notice) : Prop where
  context : w.contextOf b = c
  roster : w.roster c = rosterAfter c past
  chronicle : Chronicle c past
  first_le : first ≤ (w.bus b).nextDevice
  /-- The numbers drawn are those of the devices that arrived. -/
  arrived (i : DeviceId) : (changes c past).count (i, .arrived) =
    if first ≤ i.val ∧ i.val < (w.bus b).nextDevice then 1 else 0
  /-- Every change has its pass. -/
  announced : announced c past = changes c past

/-- What happens goes on with the past of a bus. Certain notices are known to be in
it. -/
def Recounts (b : BusId) (c : ContextId) (first : Nat) (known : List Notice) : Law κ τ :=
  fun w ns w' => ∀ past, w.Past b c first past → known ⊆ past → w'.Past b c first (past ++ ns)

/-- Whether the notice presumes nothing and changes no roster. -/
def Notice.plain : Notice → Bool
  | .attached .. | .detached .. | .passBegan .. => false
  | .registered .. | .opened .. | .delivered .. => false
  | _ => true

theorem Notice.presumes_of_plain {c : ContextId} {n : Notice} (h : n.plain = true)
    (past : List Notice) : n.Presumes c past := by
  cases n <;> first | exact True.intro | cases h

theorem Notice.not_moves_of_plain {n : Notice} (h : n.plain = true) : n.moves = false := by
  cases n <;> first | rfl | cases h

theorem Roster.follow_of_not_moves {c : ContextId} {r : Roster} {n : Notice}
    (h : n.moves = false) : r.follow c n = r := by
  cases n <;> first | rfl | cases h

namespace World.Past

variable {w w' : World κ τ} {b : BusId} {c : ContextId} {first : Nat} {n : Notice}
variable {past ns known : List Notice}

/-- The past goes on where no device comes or goes. -/
theorem extend (h : w.Past b c first past) (hsame : SameDevices b w ns w')
    (hns : ∀ n ∈ ns, n.moves = false) (hchronicle : Chronicle c (past ++ ns)) :
    w'.Past b c first (past ++ ns) := by
  obtain rfl := h.context
  have hcontext : w'.contextOf b = w.contextOf b := congrArg Bus.context hsame.bus
  have hroster : w'.roster (w.contextOf b) = w.roster (w.contextOf b) := by
    have hdevices := hsame.devices
    rwa [devices, hcontext] at hdevices
  refine ⟨hcontext, ?_, hchronicle, hsame.bus ▸ h.first_le, fun i => ?_, ?_⟩
  · rw [hroster, h.roster, rosterAfter_append]
    exact (Roster.followAll_of_follow fun n hn => Roster.follow_of_not_moves (hns n hn)).symm
  · rw [changes_append, changes_of_idle hns, List.append_nil, hsame.bus]
    exact h.arrived i
  · rw [changes_append, announced_append, changes_of_idle hns, announced_of_idle hns, h.announced]

theorem extend_plain (h : w.Past b c first past) (hsame : SameDevices b w ns w')
    (hns : ∀ n ∈ ns, n.plain = true) : w'.Past b c first (past ++ ns) :=
  h.extend hsame (fun n hn => Notice.not_moves_of_plain (hns n hn))
    (h.chronicle.extend fun _ n hn => Notice.presumes_of_plain (hns n hn) _)

/-- Something is noted that moves nothing. -/
theorem note (h : w.Past b c first past) (hn : n.Presumes c past) (hm : n.moves = false) :
    w.Past b c first (past ++ [n]) :=
  h.extend ⟨rfl, rfl⟩ (List.forall_mem_singleton.2 hm) (h.chronicle.concat hn)

/-- A new device arrives, and the pass over its arrival begins. -/
theorem arrive (h : w.Past b c first past) (s : DeviceSpec) (label : String) :
    (w.withNew b s).Past b c first
      (past ++ [.attached c (Bus.device (w.bus b).nextDevice s),
        .plugged (Bus.device (w.bus b).nextDevice s) label] ++
        [.passBegan c (Bus.device (w.bus b).nextDevice s) .arrived]) := by
  rw [List.append_assoc, List.cons_append, List.cons_append, List.nil_append]
  obtain rfl := h.context
  generalize hd : Bus.device (w.bus b).nextDevice s = d
  have hid : d.id.val = (w.bus b).nextDevice := by rw [← hd]; rfl
  -- Numbers drawn before are lower.
  have hnew : (d.id, Event.arrived) ∉ changes (w.contextOf b) past := by
    rw [← List.count_eq_zero, h.arrived, if_neg (by omega)]
  have hroster : (w.withNew b s).roster (w.contextOf b) = (w.roster (w.contextOf b)).attach d := by
    rw [withNew, roster_setRoster, if_pos rfl, hd]
  have hafter : rosterAfter (w.contextOf b) (past ++ [.attached (w.contextOf b) d]) =
      (rosterAfter (w.contextOf b) past).attach d := by
    rw [rosterAfter_concat]
    exact if_pos rfl
  have hin : d ∈ (rosterAfter (w.contextOf b) (past ++ [.attached (w.contextOf b) d])).toList := by
    rw [hafter]
    exact List.mem_append_right _ (List.mem_singleton_self d)
  refine ⟨?_, ?_, ?_, ?_, fun i => ?_, ?_⟩
  · exact contextOf_withNew
  · rw [hroster, h.roster, rosterAfter_append]
    exact (if_pos rfl).symm
  · have hattached := h.chronicle.concat (n := .attached (w.contextOf b) d) fun _ => hnew
    have hplugged := hattached.concat (n := .plugged d label) trivial
    have hbegan := hplugged.concat (n := .passBegan (w.contextOf b) d .arrived) fun _ => by
      rw [rosterAfter_concat]
      exact hin
    simpa using hbegan
  · rw [bus_withNew]
    exact Nat.le_succ_of_le h.first_le
  · have hfirst := h.first_le
    have hlast : changes (w.contextOf b) [.attached (w.contextOf b) d, .plugged d label,
        .passBegan (w.contextOf b) d .arrived] = [(d.id, .arrived)] := by simp [changes]
    rw [changes_append, hlast, List.count_append, h.arrived, bus_withNew]
    by_cases hi : d.id = i
    · subst hi
      simp [hid, hfirst]
    · have hval : i.val ≠ (w.bus b).nextDevice := fun heq =>
        hi (congrArg DeviceId.mk (hid.trans heq.symm))
      simp only [List.count_singleton, beq_iff_eq, Prod.mk.injEq, hi, false_and, if_false]
      refine if_congr ?_ rfl rfl
      omega
  · rw [changes_append, announced_append, h.announced]
    simp [changes, DeviceWatch.announced, passes]

/-- A device leaves, and the pass over its departure begins. -/
theorem leave {i : DeviceId} {d x : Device} {rest : Roster} (h : w.Past b c first past)
    (hdetach : (w.roster c).detach? i = some (x, rest)) (hid : d.id = x.id)
    (hns : ∀ n ∈ ns, n.plain = true) :
    (w.setRoster c rest).Past b c first
      (past ++ .detached c x :: ns ++ [.passBegan c d .left]) := by
  rw [List.append_assoc]
  obtain ⟨rfl, hperm⟩ := Roster.detach?_eq_some hdetach
  have hin : x ∈ (rosterAfter c past).toList := by
    rw [← h.roster]
    exact hperm.mem_iff.2 List.mem_cons_self
  have hmoves : ∀ n ∈ ns, n.moves = false := fun n hn => Notice.not_moves_of_plain (hns n hn)
  have hchanges : changes c (.detached c x :: ns ++ [.passBegan c d .left]) = [(x.id, .left)] := by
    rw [← List.singleton_append, changes_append, changes_append, changes_detached,
      changes_of_idle hmoves, if_pos rfl]
    rfl
  have hannounced : DeviceWatch.announced c (.detached c x :: ns ++ [.passBegan c d .left]) =
      [(x.id, .left)] := by
    rw [← List.singleton_append, announced_append, announced_append, announced_of_idle hmoves,
      ← hid]
    simp [DeviceWatch.announced, passes]
  refine ⟨h.context, ?_, ?_, h.first_le, fun i => ?_, ?_⟩
  · rw [roster_setRoster, if_pos rfl, rosterAfter_append, Roster.followAll, List.cons_append,
      List.foldl_cons, ← Roster.followAll, Roster.followAll_of_follow, ← h.roster]
    · simp [Roster.follow, hdetach]
    · intro n hn
      rcases List.mem_append.1 hn with hn | hn
      · exact Roster.follow_of_not_moves (hmoves n hn)
      · rw [List.mem_singleton.1 hn]
        rfl
  · rw [← List.append_assoc, ← List.singleton_append, ← List.append_assoc]
    have hdetached := h.chronicle.concat (n := .detached c x) fun _ => hin
    exact (hdetached.extend fun _ n hn => Notice.presumes_of_plain (hns n hn) _).concat trivial
  · have hnone : [(x.id, Event.left)].count (i, .arrived) = 0 :=
      List.count_eq_zero.2 (by simp)
    rw [changes_append, hchanges, List.count_append, hnone, Nat.add_zero]
    exact h.arrived i
  · rw [changes_append, announced_append, h.announced, hchanges, hannounced]

end World.Past

/-! ## Acts -/

section Recounts

variable {b : BusId} {c : ContextId} {first : Nat} {known known' : List Notice}

instance : Law.Composes (Recounts (κ := κ) (τ := τ) b c first known) where
  refl w past hpast _ := by rwa [List.append_nil]
  trans h₁ h₂ past hpast hknown := by
    rw [← List.append_assoc]
    exact h₂ _ (h₁ past hpast hknown) (List.subset_append_of_subset_left _ hknown)

/-- More may be known. -/
theorem Act.Obeys.recounts_mono {x : Act κ τ α} (hx : x.Obeys (Recounts b c first known))
    (h : known ⊆ known') : x.Obeys (Recounts b c first known') :=
  hx.mono fun _ _ _ hrecounts past hpast hknown => hrecounts past hpast (List.Subset.trans h hknown)

end Recounts

namespace Act

variable {host : Host κ τ} {b : BusId} {c c' : ContextId} {first : Nat} {known : List Notice}
variable {id : CallbackId} {d x : Device} {e : Event} {w : World κ τ} {s : DeviceSpec}
variable {i : DeviceId} {h : OpenHandle} {n : Notice} {request : Request κ}

theorem recounts_of_plain {x : Act κ τ α} (hsame : x.Obeys (SameDevices b))
    (hplain : x.Obeys (Notes fun n => n.plain = true)) : x.Obeys (Recounts b c first known) :=
  fun w _ hpast _ => hpast.extend_plain (hsame w) (hplain w)

theorem recounts_note (hn : ∀ past, known ⊆ past → n.Presumes c past) (hm : n.moves = false) :
    (note n : Act κ τ Unit).Obeys (Recounts b c first known) :=
  fun _ past hpast hknown => hpast.note (hn past hknown) hm

theorem recounts_remember (f : τ → τ) (w : World κ τ) :
    Recounts b c first known w [] { w with memory := f w.memory } :=
  fun _ hpast _ => hpast.extend_plain ⟨rfl, rfl⟩ (List.forall_mem_nil _)

/-! ## Passes -/

/-- What a pass does once it has begun. -/
def proceed (host : Host κ τ) (c : ContextId) (d : Device) (e : Event) : Act κ τ Tally :=
  get >>= fun w => visitAll host c d e (host.order w (w.context c).registry.ids) >>= settle c d e

theorem run_notify_proceed : (notify host c d e).run w =
    { (proceed host c d e).run w with
      notices := .passBegan c d e :: ((proceed host c d e).run w).notices } := by
  rw [notify_eq, run_bind, run_note, Effect.andThen_some]
  rfl

theorem sameDevices_followUp : (followUp c d e : Act κ τ _).Obeys (SameDevices b) := by
  rw [followUp]
  split
  · exact closed_obeys.disconnectOn fun _ => sameDevices_disconnect
  · exact obeys_pure _

section Callbacks

variable (hr : ∀ inv, (host.react inv).Obeys (Recounts b c first []))
include hr

/-- A visit goes on with the past if what it may deliver has behind it what it
presumes. -/
theorem recounts_visit
    (hd : ∀ past, known ⊆ past → (Notice.delivered c' id d e).Presumes c past) :
    (visit host c' d e id).Obeys (Recounts b c first known) := by
  refine closed_obeys.visit ?decide (fun program => ?invoke) fun wish => ?commit
  case decide => exact recounts_of_plain still_decide (notes_decide fun _ => rfl)
  case commit => exact recounts_of_plain still_commit (notes_commit fun _ => rfl)
  case invoke =>
    exact closed_obeys.invoke (recounts_note hd rfl) fun inv =>
      (hr inv).recounts_mono (List.nil_subset _)

/-- So does a pass that has begun. -/
theorem recounts_proceed
    (hd : ∀ id past, known ⊆ past → (Notice.delivered c' id d e).Presumes c past) :
    (proceed host c' d e).Obeys (Recounts b c first known) := by
  refine obeys_get.bind fun w => Obeys.bind ?visits fun vs => ?settle
  case visits => exact closed_obeys.visitAll fun id _ => recounts_visit hr (hd id)
  case settle =>
    refine Obeys.bind ?followUp fun _ => (recounts_note ?_ rfl).bind fun _ => obeys_pure _
    · exact recounts_of_plain sameDevices_followUp (notes_followUp fun _ => rfl)
    · exact fun past _ => Notice.presumes_of_plain rfl past

/-- A pass that begins with the past of a bus ends with it. -/
theorem past_notify (known : List Notice) {past : List Notice}
    (hpast : w.Past b c first (past ++ [.passBegan c d e]))
    (hknown : known ⊆ past ++ [.passBegan c d e])
    (hd : ∀ id later, known ⊆ later → (Notice.delivered c id d e).Presumes c later) :
    ((notify host c d e).run w).world.Past b c first
      (past ++ ((notify host c d e).run w).notices) := by
  have hproceed : (proceed host c d e).Obeys (Recounts b c first known) := recounts_proceed hr hd
  have hpast' := hproceed w _ hpast hknown
  rw [run_notify_proceed]
  rwa [List.append_assoc] at hpast'

/-! ## Acts on the bus -/

theorem recounts_plug : (plug host b s).Obeys (Recounts b c first known) := by
  intro w past hpast _
  obtain rfl := hpast.context
  rw [run_plug]
  have hbegan := hpast.arrive s s.label
  generalize Bus.device (w.bus b).nextDevice s = d at hbegan ⊢
  have hpass := past_notify hr [.passBegan (w.contextOf b) d .arrived] hbegan
    (List.subset_append_right _ _) fun id later hlater _ =>
      ⟨_, hlater (List.mem_singleton_self _), by simp [Notice.offers]⟩
  rwa [List.append_assoc] at hpass

/-- The pass over a departure, of the device or of one that is taken for it. -/
theorem past_departure (ns : List Notice) {past : List Notice} {rest : Roster}
    (hpast : w.Past b c first past)
    (hdetach : (w.roster c).detach? i = some (x, rest)) (hid : d.id = x.id)
    (hns : ∀ n ∈ ns, n.plain = true) :
    ((notify host c d .left).run (w.setRoster c rest)).world.Past b c first
      (past ++ .detached c x :: ns ++
        ((notify host c d .left).run (w.setRoster c rest)).notices) := by
  refine past_notify hr [.detached c x] (hpast.leave hdetach hid hns) ?_ ?_
  · simp
  · intro id later hlater _
    rw [hid]
    exact mem_changes_of_detached (hlater (List.mem_singleton_self _))

theorem recounts_unplug : (unplug host b i).Obeys (Recounts b c first known) := by
  intro w past hpast _
  obtain rfl := hpast.context
  rw [run_unplug]
  rcases hdetach : (w.roster (w.contextOf b)).detach? i with _ | ⟨x, rest⟩
  · rwa [List.append_nil]
  · have hpass := past_departure hr [.unplugged x] hpast hdetach rfl
      (List.forall_mem_singleton.2 rfl)
    rwa [List.append_assoc] at hpass

theorem recounts_transferFailed : (transferFailed host b h).Obeys (Recounts b c first known) := by
  intro w past hpast _
  obtain rfl := hpast.context
  rw [run_transferFailed]
  rcases hdetach : (w.roster (w.contextOf b)).detach? h.device.id with _ | ⟨x, rest⟩
  · rwa [List.append_nil]
  · obtain ⟨hid, -⟩ := Roster.detach?_eq_some hdetach
    have hpass := past_departure hr [] hpast hdetach hid.symm (List.forall_mem_nil _)
    rwa [List.append_assoc] at hpass

/-! ## Registrations -/

/-- What a registration does once its record is made: it names the devices that are
there, and tells of them. -/
theorem recounts_greet {filter : Filter} :
    (context c' >>= fun x =>
      note (.registered c' id filter request.events request.flags
        (if request.flags.enumerate then x.roster.toList else [])) >>= fun _ =>
      enumerate host c' id (if request.flags.enumerate then x.roster.toList else []) >>= fun _ =>
      pure (.ok id) : Act κ τ (Except RegisterError CallbackId)).Obeys
        (Recounts b c first known) := by
  intro w past hpast _
  rw [run_bind, run_context, Effect.andThen_some]
  generalize hdevices : (if request.flags.enumerate then (w.context c').roster.toList else []) =
    existing
  rw [run_bind, run_note, Effect.andThen_some]
  have hnoted := hpast.note (n := .registered c' id filter request.events request.flags existing)
    (fun hc d hd => ?there) rfl
  case there =>
    subst hc
    rw [← hpast.roster]
    rw [← hdevices] at hd
    split at hd
    · exact hd
    · cases hd
  have hvisits : (enumerate host c' id existing).Obeys
      (Recounts b c first [.registered c' id filter request.events request.flags existing]) := by
    refine closed_obeys.enumerate fun d hd => recounts_visit hr fun later hlater hc => ?_
    exact ⟨_, hlater (List.mem_singleton_self _), by simp [Notice.offers, hc, hd]⟩
  have hpast' := hvisits w _ hnoted (List.subset_append_right _ _)
  rw [run_bind_pure]
  rwa [List.append_assoc] at hpast'

theorem recounts_register : (register host c' request).Obeys (Recounts b c first known) := by
  refine (obeys_context c').bind fun x => ?_
  by_cases hx : (!x.hasHotplug) = true
  · rw [if_pos hx]
    exact obeys_pure _
  rw [if_neg hx]
  rcases request.check with error | ⟨filter, program⟩
  · exact obeys_pure _
  refine (recounts_of_plain still_insert (notes_insert fun _ => rfl)).bind fun result => ?_
  rcases result with error | id
  · exact obeys_pure _
  · exact recounts_greet hr

end Callbacks

/-! ## Handles -/

/-- A handle is opened on a device that is there. -/
theorem recounts_openDevice : (openDevice b i : Act κ τ _).Obeys (Recounts b c first known) := by
  intro w past hpast _
  obtain rfl := hpast.context
  have hsame : SameDevices b w _ ((openDevice b i).run w).world := sameDevices_openDevice w
  rw [run_openDevice] at hsame ⊢
  rcases hget : (w.roster (w.contextOf b)).get? i with _ | d
  · rwa [List.append_nil]
  · rw [hget] at hsame
    refine hpast.extend hsame (List.forall_mem_singleton.2 rfl) (hpast.chronicle.concat fun _ => ?_)
    rw [← hpast.roster]
    exact Roster.mem_of_get? hget

end Act

/-! ## Runs -/

/-- The acts of a repertoire, and panics. A run that a panic cuts short leaves the
world that it had come to. -/
inductive Repertoire.Cut (R : Repertoire κ τ) (host : Host κ τ) : (α : Type) → Act κ τ α → Prop
  | op {α : Type} {x : Act κ τ α} : R host α x → Cut R host α x
  | panic {α : Type} : Cut R host α Act.panic

namespace Act

variable {b : BusId} {c : ContextId} {first : Nat} {known : List Notice} {x : Act κ τ α}

/-- A run on a bus is one among all. -/
theorem Within.of_cut (hx : x.Within (Repertoire.Cut (Repertoire.OnBus b))) :
    x.Within Repertoire.Any := by
  refine hx.mono fun host _ y hop => ?_
  cases hop with
  | op hop => exact .calm hop.calm
  | panic => exact .panic

/-- **Every run on a bus goes on with its past**, whatever its callbacks do and
wherever it is cut short. -/
theorem Within.recounts (hx : x.Within (Repertoire.Cut (Repertoire.OnBus b))) :
    x.Obeys (Recounts b c first []) := by
  refine hx.obeys (fun w f => recounts_remember f w) fun {β host y} _ hr hop => ?_
  cases hop with
  | panic => exact obeys_panic
  | op hop =>
    cases hop with
    | plug => exact recounts_plug hr
    | unplug => exact recounts_unplug hr
    | openDevice => exact recounts_openDevice
    | closeDevice =>
      exact recounts_of_plain sameDevices_closeDevice
        (closed_obeys.closeDevice fun _ => notes_closeHandle rfl)
    | transferFailed => exact recounts_transferFailed hr
    | register => exact recounts_register hr
    | deregister =>
      exact recounts_of_plain still_deregister (closed_obeys.deregister (notes_markPending rfl))
    | teardown => exact recounts_of_plain still_teardown (notes_teardown fun _ => rfl)

end Act

/-- A fresh bus has no past. -/
theorem World.FreshBus.past {w : World κ τ} {b : BusId} (hw : w.FreshBus b) :
    w.Past b (w.contextOf b) (w.bus b).nextDevice [] where
  context := rfl
  roster := by
    rw [rosterAfter, Roster.followAll, List.foldl_nil, ← hw.devices]
  chronicle := .nil
  first_le := Nat.le_refl _
  arrived i := (if_neg (by omega)).symm
  announced := rfl

/-- **What a run on a fresh bus notes is its past.** -/
theorem Act.Within.past {b : BusId} {c : ContextId} {w : World κ τ} {x : Act κ τ α}
    (hx : x.Within (Repertoire.Cut (Repertoire.OnBus b))) (hw : w.FreshBus b)
    (hc : w.contextOf b = c) :
    (x.run w).world.Past b c (w.bus b).nextDevice (x.run w).notices := by
  subst hc
  exact hx.recounts w [] hw.past (List.nil_subset _)

end DeviceWatch
