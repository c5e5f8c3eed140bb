import Mathlib.Algebra.GroupWithZero.Nat
import DeviceWatch.Proofs.Disconnection
import DeviceWatch.Proofs.GivingUp
/-!
# Tallies of disconnected handles

A pass over a departure disconnects handles after its callbacks ran, and says in
its tally how many. Passes that its callbacks began have done the same before,
for the same device perhaps; but a handle that one pass disconnected the others
pass over. So the tallies of all passes that came to an end, nested or not, add up
to the handles that the platform of the context gave up. A pass that a panic cut
short has not disconnected anything.
-/

namespace DeviceWatch

variable {κ τ α : Type}

/-- The sum of the handles disconnected by all passes over a context's callbacks,
by their tallies. -/
def tallied (c : ContextId) (ns : List Notice) : Nat :=
  (ns.map fun
    | .passEnded c' _ _ t => if c' = c then t.disconnected else 0
    | _ => 0).sum

/-- Whether the notice tells of a handle disconnected or of a pass that ended. -/
def Notice.settles : Notice → Bool
  | .disconnected .. | .passEnded .. => true
  | _ => false

/-- The tallies of passes add up to the handles that a context's platform was told
to give up. -/
def Tallies (c : ContextId) : Law κ τ :=
  fun w ns w' => w.Simulated c → w'.Simulated c ∧ tallied c ns = (disconnects c ns).length

theorem tallied_append {c : ContextId} {ns ms : List Notice} :
    tallied c (ns ++ ms) = tallied c ns + tallied c ms := by
  rw [tallied, List.map_append, List.sum_append]
  rfl

/-- Where no pass ends there is nothing to add up. -/
theorem tallied_eq_zero {c : ContextId} {ns : List Notice}
    (h : ∀ n ∈ ns, ∀ c' d e t, n ≠ .passEnded c' d e t) : tallied c ns = 0 := by
  refine List.sum_eq_zero_iff_forall_eq_nat.2 fun m hm => ?_
  obtain ⟨n, hn, rfl⟩ := List.mem_map.1 hm
  cases n with
  | passEnded c' d e t => exact absurd rfl (h _ hn c' d e t)
  | _ => rfl

instance {c : ContextId} : Law.Composes (Tallies (κ := κ) (τ := τ) c) where
  refl _ hw := ⟨hw, rfl⟩
  trans h₁ h₂ hw := by
    obtain ⟨hw₁, hsum₁⟩ := h₁ hw
    obtain ⟨hw₂, hsum₂⟩ := h₂ hw₁
    refine ⟨hw₂, ?_⟩
    rw [tallied_append, disconnects_append, List.length_append, hsum₁, hsum₂]

/-- Where no handle is disconnected and no pass ends, the sums stay as they are. -/
theorem Tallies.of_quiet {c : ContextId} {w w' : World κ τ} {ns : List Notice}
    (hplatform : w'.platform c = w.platform c) (hns : ∀ n ∈ ns, n.settles = false) :
    Tallies c w ns w' := by
  intro hw
  have hnone : disconnects c ns = [] := by
    refine List.filterMap_eq_nil_iff.2 fun n hn => ?_
    have hquiet := hns n hn
    cases n <;> first | rfl | cases hquiet
  refine ⟨?_, ?_⟩
  · rw [World.Simulated, hplatform]
    exact hw
  · rw [hnone]
    refine tallied_eq_zero fun n hn c' d e t heq => ?_
    rw [heq] at hn
    cases hns _ hn

namespace Act

variable {host : Host κ τ} {c c' : ContextId} {id : CallbackId} {d : Device}
variable {e : Event} {i : DeviceId} {w : World κ τ} {h : OpenHandle} {hs : List OpenHandle}
variable {vs : List (CallbackId × Visit)} {x : Act κ τ α}

/-! ## Acts that disconnect nothing -/

theorem tallies_of_still (hx : x.Obeys Still) (hn : x.Obeys (Notes fun n => n.settles = false)) :
    x.Obeys (Tallies c) :=
  fun w => .of_quiet ((hx w).platform c) (hn w)

theorem tallies_note {n : Notice} (hn : n.settles = false) :
    (note n : Act κ τ Unit).Obeys (Tallies c) :=
  obeys_note fun _ => .of_quiet rfl (List.forall_mem_singleton.2 hn)

theorem tallies_attach : (attach c' d : Act κ τ Unit).Obeys (Tallies c) := by
  intro w
  rw [run_attach]
  exact .of_quiet World.platform_setRoster (List.forall_mem_singleton.2 rfl)

theorem tallies_detach : (detach c' i : Act κ τ _).Obeys (Tallies c) := by
  refine obeys_detach fun w d rest _ => ?_
  exact .of_quiet World.platform_setRoster (List.forall_mem_singleton.2 rfl)

theorem tallies_openHandle : (openHandle c' d : Act κ τ OpenHandle).Obeys (Tallies c) := by
  intro w
  rw [run_openHandle]
  exact .of_quiet World.platform_setOpens (List.forall_mem_singleton.2 rfl)

theorem tallies_closeHandle : (closeHandle c' h : Act κ τ Bool).Obeys (Tallies c) := by
  refine obeys_closeHandle fun w rest _ => ?_
  exact .of_quiet World.platform_setOpens (List.forall_mem_singleton.2 rfl)

/-! ## The end of a pass -/

/-- A handle disconnected anew is noted, if its context's platform keeps a record. -/
theorem disconnect_answer :
    ∃ new, ((disconnect c' h).run w).result = some new ∧
      (w.Simulated c → ((disconnect c' h).run w).world.Simulated c ∧
        disconnects c ((disconnect c' h).run w).notices =
          if c' = c ∧ new = true then [h.id] else []) := by
  rw [run_disconnect]
  split
  · exact ⟨false, rfl, fun hw => ⟨hw, by simp [disconnects]⟩⟩
  refine ⟨true, rfl, fun hw => ?_⟩
  obtain ⟨hotplug, ds, hp⟩ := hw
  by_cases hc : c' = c
  · subst hc
    refine ⟨⟨hotplug, ds ++ [⟨h.id, h.device.id⟩], ?_⟩, ?_⟩
    · rw [World.platform_setPlatform, if_pos rfl, hp]
      rfl
    · simp [hp, givenUp, disconnects]
  · refine ⟨⟨hotplug, ds, ?_⟩, ?_⟩
    · rw [World.platform_setPlatform, if_neg (Ne.symm hc), ← hp]
      rfl
    · rcases w.platform c' with _ | _ <;> simp [givenUp, disconnects, hc]

theorem disconnectAll_answer :
    ∃ new, ((disconnectAll c' hs).run w).result = some new ∧
      (w.Simulated c → ((disconnectAll c' hs).run w).world.Simulated c ∧
        disconnects c ((disconnectAll c' hs).run w).notices =
          if c' = c then new.map OpenHandle.id else []) := by
  induction hs generalizing w with
  | nil => exact ⟨[], rfl, fun hw => ⟨hw, by simp [disconnectAll, disconnects]⟩⟩
  | cons h rest ih =>
    obtain ⟨new, hnew, hfirst⟩ : ∃ new, ((disconnect c' h).run w).result = some new ∧
      (w.Simulated c → _) := disconnect_answer
    obtain ⟨others, hothers, hrest⟩ := @ih ((disconnect c' h).run w).world
    obtain ⟨hworld, hnotices⟩ : ((disconnectAll c' (h :: rest)).run w).world = _ ∧ _ :=
      run_disconnectAll_cons
    refine ⟨if new then h :: others else others, ?_, fun hw => ?_⟩
    · rw [disconnectAll, run_bind_of_result hnew, run_bind_pure, hothers]
      rfl
    · obtain ⟨hw₁, hns₁⟩ := hfirst hw
      obtain ⟨hw₂, hns₂⟩ := hrest hw₁
      rw [hworld, hnotices, disconnects_append, hns₁, hns₂]
      refine ⟨hw₂, ?_⟩
      by_cases hc : c' = c
      · rcases new with _ | _ <;> simp [hc]
      · simp [hc]

theorem followUp_answer :
    ∃ new, ((followUp c' d e).run w).result = some new ∧
      (w.Simulated c → ((followUp c' d e).run w).world.Simulated c ∧
        disconnects c ((followUp c' d e).run w).notices =
          if c' = c then new.map OpenHandle.id else []) := by
  rw [followUp]
  split
  · exact disconnectAll_answer
  · exact ⟨[], rfl, fun hw => ⟨hw, by simp [disconnects]⟩⟩

/-- What a pass does after its visits: it follows up the event and ends. -/
def settle (c : ContextId) (d : Device) (e : Event) (vs : List (CallbackId × Visit)) :
    Act κ τ Tally := do
  let disconnected ← followUp c d e
  note (.passEnded c d e (Pass.tally ⟨vs, disconnected⟩))
  return Pass.tally ⟨vs, disconnected⟩

/-- A pass begins, visits the live records, and settles. -/
theorem notify_eq : notify host c d e =
    note (.passBegan c d e) >>= fun _ => get >>= fun w =>
      visitAll host c d e (host.order w (w.context c).registry.ids) >>= settle c d e := by
  simp only [notify, pass_eq, bind_assoc, pure_bind]
  rfl

/-- The end of a pass counts what it disconnects. -/
theorem tallies_settle : (settle c' d e vs : Act κ τ Tally).Obeys (Tallies c) := by
  intro w hw
  obtain ⟨new, hnew, hanswer⟩ : ∃ new, ((followUp c' d e).run w).result = some new ∧
    (w.Simulated c → _) := followUp_answer
  obtain ⟨hw', hns⟩ := hanswer hw
  have hended : ∀ n ∈ ((followUp c' d e).run w).notices, ∀ c'' d' e' t,
      n ≠ .passEnded c'' d' e' t := notes_followUp (fun _ => nofun) w
  have hrun : (settle c' d e vs).run w =
      { result := some (Pass.tally ⟨vs, new⟩)
        world := ((followUp c' d e).run w).world
        notices := ((followUp c' d e).run w).notices ++
          [.passEnded c' d e (Pass.tally ⟨vs, new⟩)] } := by
    rw [settle, run_bind_of_result hnew]
    rfl
  rw [hrun]
  refine ⟨hw', ?_⟩
  rw [tallied_append, disconnects_append, List.length_append, hns, tallied_eq_zero hended]
  by_cases hc : c' = c <;> simp [hc, tallied, disconnects, Pass.tally]

/-! ## Runs -/

/-- A panic of a callback ends the pass before it counts anything. -/
theorem tallies_notify (hv : ∀ id, (visit host c' d e id).Obeys (Tallies c)) :
    (notify host c' d e).Obeys (Tallies c) := by
  rw [notify_eq]
  refine (tallies_note rfl).bind fun _ => obeys_get.bind fun w => Obeys.bind ?visits fun _ => ?_
  case visits => exact closed_obeys.visitAll fun id _ => hv id
  exact tallies_settle

theorem parts_tallies : Parts fun _ (y : Act κ τ _) => y.Obeys (Tallies c) where
  toClosed := closed_obeys
  decide := tallies_of_still still_decide (notes_decide fun _ => rfl)
  commit := tallies_of_still still_commit (notes_commit fun _ => rfl)
  markPending := tallies_of_still still_markPending (notes_markPending rfl)
  insert := tallies_of_still still_insert (notes_insert fun _ => rfl)
  teardown := tallies_of_still still_teardown (notes_teardown fun _ => rfl)
  attach := tallies_attach
  detach := tallies_detach
  openHandle := tallies_openHandle
  closeHandle := tallies_closeHandle
  buses _ := obeys_modify fun _ => .of_quiet rfl (List.forall_mem_nil _)
  delivered := tallies_note rfl
  registered := tallies_note rfl
  plugged := tallies_note rfl
  unplugged := tallies_note rfl
  notify := tallies_notify

/-- **In every run the tallies add up**, whatever its callbacks do and whether or not
they panic. -/
theorem Within.tallies (hx : x.Within Repertoire.Any) : x.Obeys (Tallies c) :=
  hx.obeys_of_parts parts_tallies fun _ _ => .of_quiet rfl (List.forall_mem_nil _)

end Act

/-! ## The record of a context -/

/-- No handle has been opened in the context, and its platform has an empty record.
Elsewhere handles are open and disconnected under numbers given before. -/
structure World.Unopened (w : World κ τ) (c : ContextId) : Prop where
  simulated : ∃ hotplug, w.platform c = .simulated hotplug []
  handles : (w.opens c).toList = []
  open_lt : ∀ c', ∀ o ∈ (w.opens c').toList, o.id.val < w.nextOpen
  flag_lt : ∀ k, w.isDisconnected k = true → k.val < w.nextOpen

/-- **The account of a context's record** after a run that left these notices. -/
structure RecordAccount (c : ContextId) (ns : List Notice) (w : World κ τ) : Prop where
  /-- No handle is recorded twice. -/
  once : ((w.record c).map Disconnect.handle).Nodup
  /-- A handle opened in the context is recorded if and only if it is
  disconnected. -/
  flag : ∀ h ∈ opened c ns,
    (h.id ∈ (w.record c).map Disconnect.handle ↔ w.isDisconnected h.id = true)
  /-- Each entry is of a handle opened in the context. -/
  made : ∀ e ∈ w.record c, ∃ h ∈ opened c ns, h.id = e.handle
  /-- The entry of a handle tells of the handle's own device. -/
  own : ∀ h ∈ opened c ns, ∀ e ∈ w.record c, e.handle = h.id → e.device = h.device.id
  /-- All passes that came to an end count, by their tallies, what is recorded. -/
  tally : tallied c ns = (w.record c).length

namespace World

variable {w : World κ τ} {c : ContextId}

/-- A new context on a simulated platform has seen no handle. -/
theorem unopened_addContext (w : World κ τ) (settings : ContextSettings) (hotplug : Bool)
    (hopen : ∀ c', ∀ o ∈ (w.opens c').toList, o.id.val < w.nextOpen)
    (hflag : ∀ k, w.isDisconnected k = true → k.val < w.nextOpen) :
    (w.addContext (.simulated hotplug []) settings).1.Unopened ⟨w.nextContext⟩ := by
  refine ⟨⟨hotplug, ?_⟩, ?_, fun c' o ho => ?_, hflag⟩
  · simp [addContext, platform, context, Context.create]
  · simp [addContext, opens, context, Context.create]
  · by_cases hc : c'.val = w.nextContext
    · simp [addContext, opens, context, Context.create, hc] at ho
    · refine hopen c' o ?_
      simpa [addContext, opens, context, hc, Store.get_set_of_ne] using ho

theorem Unopened.agrees (hw : w.Unopened c) : w.Agrees c [] := by
  obtain ⟨hotplug, hp⟩ := hw.simulated
  have hrecord : w.record c = [] := by
    rw [record, hp]
    rfl
  refine ⟨⟨⟨hotplug, [], hp⟩, ?_, ?_⟩, ?_, List.nodup_nil, List.forall_mem_nil _, ?_,
    hw.flag_lt, List.forall_mem_nil _⟩
  · simp [hrecord]
  · simp [hrecord]
  · simp [hw.handles]
  · exact fun c' _ o ho => ⟨hw.open_lt c' o ho, List.not_mem_nil⟩

end World

namespace Act

variable {c : ContextId} {w : World κ τ} {x : Act κ τ α}

/-- **A handle is given up once, and the record tells which were.** After every run
over a context, whatever its callbacks do and whether or not they panic, the
record has its account; and no run takes a mark away. -/
theorem Within.record_account (hx : x.Within Repertoire.Any) (hw : w.Unopened c) :
    RecordAccount c (x.run w).notices (x.run w).world ∧
      ∀ v k, v.isDisconnected k = true → (x.run v).world.isDisconnected k = true := by
  obtain ⟨hotplug, hp⟩ := hw.simulated
  obtain ⟨hagrees, hrecord⟩ := (hx.records w).agrees [] hw.agrees
  obtain ⟨-, htally⟩ : _ ∧ tallied c _ = _ := hx.tallies w ⟨hotplug, [], hp⟩
  rw [List.nil_append] at hagrees
  have hnil : w.record c = [] := by
    rw [World.record, hp]
    rfl
  rw [hnil, List.map_nil, List.nil_append] at hrecord
  refine ⟨⟨hagrees.once, ?flag, ?made, ?own, ?tally⟩, fun v => (hx.records (c := c) v).lasting⟩
  case flag => exact fun h hh => (hagrees.flag h hh).symm
  case made =>
    intro e he
    obtain ⟨h, hh, rfl⟩ := hagrees.entry e he
    exact ⟨h, hh, rfl⟩
  case own =>
    -- Handles opened in the context are told apart by their numbers.
    intro h hh e he heq
    obtain ⟨o, ho, rfl⟩ := hagrees.entry e he
    rw [List.inj_on_of_nodup_map hagrees.distinct ho hh heq]
  case tally => rw [htally, ← hrecord, List.length_map]

/-- Callbacks that report a departure again, and then panic. -/
def echoing : Host Unit Unit where
  react inv :=
    if inv.event = .left then do
      let _ ← notify .idle inv.context inv.device .left
      panic
    else return .rearm
  order _ ids := ids
  order_perm _ _ := .refl _

/-- A device with two open handles is unplugged. The callback that hears of it
reports the departure before it panics, and it is reported once more afterwards. -/
def departThrice (b : BusId) (c : ContextId) : Act Unit Unit Unit := do
  let _ ← register echoing c { events := .all, program := some () }
  let (d, _) ← plug echoing b { vendor := 1, product := 1 }
  let _ ← openDevice b d.id
  let _ ← openDevice b d.id
  let _ ← (some <$> unplug echoing b d.id).recover (pure none)
  let _ ← notify .idle c d .left

theorem echoing_within : echoing.Within Repertoire.Any := by
  intro inv
  by_cases he : inv.event = .left
  · simp only [echoing, if_pos he]
    refine .bind (.op .idle Host.idle_within (.calm (.notify _ _ _))) fun _ => ?_
    exact .op .idle Host.idle_within .panic
  · simp only [echoing, if_neg he]
    exact .pure _

theorem departThrice_within {b : BusId} {c : ContextId} :
    (departThrice b c).Within Repertoire.Any := by
  refine .bind (.op _ echoing_within (.calm (.register c _))) fun _ => ?_
  refine .bind (.op _ echoing_within (.calm (.plug b _))) fun (d, _) => ?_
  refine .bind (.op .idle Host.idle_within (.calm (.openDevice b _))) fun _ => ?_
  refine .bind (.op .idle Host.idle_within (.calm (.openDevice b _))) fun _ => ?_
  refine .bind (.recover ?_ (.pure none)) fun _ => ?_
  · exact .bind (.op _ echoing_within (.calm (.unplug b _))) fun _ => .pure _
  · exact .bind (.op .idle Host.idle_within (.calm (.notify c d _))) fun _ => .pure _

theorem oneBus_unopened : oneBus.Unopened ⟨1⟩ := by
  obtain ⟨hsim, hopens, hlt, hflag⟩ := World.unopened_addContext { memory := () } {} true nofun nofun
  exact ⟨hsim, hopens, hlt, hflag⟩

/-- The pass begun by the callback disconnects both handles; the pass that the
panic cut short and the last one disconnect none. -/
theorem record_account_of_departThrice :
    RecordAccount ⟨1⟩ ((departThrice ⟨1⟩ ⟨1⟩).run oneBus).notices
        ((departThrice ⟨1⟩ ⟨1⟩).run oneBus).world ∧
      ((departThrice ⟨1⟩ ⟨1⟩).run oneBus).world.record ⟨1⟩ =
        [⟨⟨1⟩, ⟨1⟩⟩, ⟨⟨2⟩, ⟨1⟩⟩] ∧
      tallied ⟨1⟩ ((departThrice ⟨1⟩ ⟨1⟩).run oneBus).notices = 2 := by
  have hx : (departThrice ⟨1⟩ ⟨1⟩).Within Repertoire.Any := departThrice_within
  obtain ⟨haccount, -⟩ := hx.record_account oneBus_unopened
  exact ⟨haccount, rfl, rfl⟩

end Act
end DeviceWatch
