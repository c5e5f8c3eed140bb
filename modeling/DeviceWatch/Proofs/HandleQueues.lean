import DeviceWatch.Proofs.FollowUp
import DeviceWatch.Proofs.StepFailures
/-!
# Handles in turn

A replay keeps the unused handles of every name in a queue, the context of its bus keeps a
list of the open ones. Steps update the two in different ways: opening appends to both,
closing takes from both, a failed transfer takes from the queue alone, and the list changes
its order when a handle goes. The two stay in agreement all the same, as long as nobody
else closes handles: a handle that was opened is in the list until a step closes it, and
those of the queue are the ones opened under the name and not used, in the order in which
they were opened.
-/

namespace DeviceWatch

variable {κ τ α : Type}

/-! ## Acts that close no handle of a bus -/

/-- A bus stays on its context, where no handle is closed. -/
structure Unclosed (b : BusId) (w : World κ τ) (ns : List Notice) (w' : World κ τ) : Prop where
  context : w'.contextOf b = w.contextOf b
  unclosed (k : OpenId) : .closed (w.contextOf b) k ∉ ns

instance {b : BusId} : Law.OfBuses (Unclosed (κ := κ) (τ := τ) b) where
  refl _ := ⟨rfl, fun _ => List.not_mem_nil⟩
  trans {w₁ w₂ w₃ ns ms} h₁ h₂ := by
    refine ⟨h₂.context.trans h₁.context, fun k hk => ?_⟩
    rcases List.mem_append.1 hk with hk | hk
    · exact h₁.unclosed k hk
    · rw [← h₁.context] at hk
      exact h₂.unclosed k hk
  still {w w' ns} h := by
    refine ⟨?_, fun k hk => ?_⟩
    · rw [World.contextOf, World.bus, h.buses]
      rfl
    · cases (h.silent _ hk : Notice.ofBus (.closed _ k) = false)

/-- **No handle of a bus is closed.** Others may be opened in its context. -/
structure Spares (b : BusId) (w : World κ τ) (ns : List Notice) (w' : World κ τ) : Prop
    extends Unclosed b w ns w' where
  handles : HandlesOf w ns w'

instance {b : BusId} : Law.OfBuses (Spares (κ := κ) (τ := τ) b) where
  refl w := ⟨Law.Composes.refl w, Law.Composes.refl (L := HandlesOf) w⟩
  trans h₁ h₂ :=
    ⟨Law.Composes.trans h₁.toUnclosed h₂.toUnclosed,
      Law.Composes.trans (L := HandlesOf) h₁.handles h₂.handles⟩
  still h := ⟨Law.OfBuses.still h, Law.OfBuses.still (L := HandlesOf) h⟩

namespace Act

variable {host : Host κ τ} {b b' : BusId} {c : ContextId} {d : Device} {e : Event}
variable {i : DeviceId} {h : OpenHandle} {s : DeviceSpec} {w : World κ τ}

theorem unclosed_detach : (detach c i : Act κ τ _).Obeys (Unclosed b) := by
  refine obeys_detach fun w d rest _ => ⟨rfl, fun k hk => ?_⟩
  cases List.mem_singleton.1 hk

theorem unclosed_openHandle : (openHandle c d : Act κ τ OpenHandle).Obeys (Unclosed b) := by
  intro w
  refine ⟨rfl, fun k hk => ?_⟩
  cases List.mem_singleton.1 hk

theorem unclosed_disconnect : (disconnect c h : Act κ τ Bool).Obeys (Unclosed b) := by
  refine obeys_disconnect fun w _ => ⟨rfl, fun k hk => ?_⟩
  exact forall_mem_givenUp (P := (· ≠ .closed (w.contextOf b) k)) nofun _ hk rfl

section Callbacks

variable (hr : ∀ inv, (host.react inv).Obeys (Unclosed b))
include hr

theorem unclosed_notify : (notify host c d e).Obeys (Unclosed b) :=
  still_notify hr (closed_obeys.disconnectOn fun _ => unclosed_disconnect)

theorem unclosed_plug : (plug host b' s).Obeys (Unclosed b) := by
  intro w
  have hnew : Unclosed b w [.attached (w.contextOf b') (Bus.device (w.bus b').nextDevice s),
      .plugged (Bus.device (w.bus b').nextDevice s) s.label] (w.withNew b' s) :=
    ⟨World.contextOf_withNew, fun k hk => by simp at hk⟩
  have hpass : (notify host (w.contextOf b') (Bus.device (w.bus b').nextDevice s)
      .arrived).Obeys (Unclosed b) := unclosed_notify hr
  rw [run_plug]
  exact Law.Composes.trans hnew (hpass _)

theorem unclosed_unplug : (unplug host b' i).Obeys (Unclosed b) :=
  closed_obeys.unplug (fun _ => unclosed_detach) (fun _ => still_note rfl)
    fun _ _ => unclosed_notify hr

theorem unclosed_transferFailed : (transferFailed host b' h).Obeys (Unclosed b) :=
  closed_obeys.transferFailed (fun _ => unclosed_detach) fun _ => unclosed_notify hr

end Callbacks

/-- Opening handles closes none. -/
theorem spares_openDevice : (openDevice b' i : Act κ τ _).Obeys (Spares b) := by
  have hunclosed : (openDevice b' i : Act κ τ _).Obeys (Unclosed b) :=
    closed_obeys.openDevice fun _ _ => unclosed_openHandle
  have hhandles : (openDevice b' i : Act κ τ _).Obeys HandlesOf :=
    closed_obeys.openDevice fun _ _ => handles_openHandle
  exact fun w => ⟨hunclosed w, hhandles w⟩

/-- A handle that a bus opens comes last in the list. -/
theorem opens_of_openDevice (hopen : ((openDevice b i).run w).result = some (.ok h)) :
    (((openDevice b i).run w).world.opens (w.contextOf b)).toList =
      (w.opens (w.contextOf b)).toList ++ [h] := by
  rw [run_openDevice] at hopen ⊢
  rcases hget : (w.roster (w.contextOf b)).get? i with _ | d
  · rw [hget] at hopen
    cases hopen
  · rw [hget] at hopen
    cases hopen
    simp only [run_openHandle, World.opens_setOpens, if_pos]
    rfl

/-- A handle in the list is closed, and no other is. -/
theorem run_closeHandle_of_mem (hw : w.Distinguished) (hmem : h ∈ (w.opens c).toList) :
    ∃ l : OpenList, (w.opens c).toList.Perm (h :: l.toList) ∧
      (closeHandle c h).run w =
        { result := some true, world := w.setOpens c l, notices := [.closed c h.id] } := by
  obtain ⟨l, hclose, hperm⟩ := OpenList.close?_of_mem (hw.distinct c) hmem
  refine ⟨l, hperm, ?_⟩
  rw [run_closeHandle, hclose]

end Act

namespace Attempt

/-- What the attempt does. -/
def effect (host : Host κ τ) (b : BusId) (a : Attempt κ τ) :
    Effect κ τ (Except StepError Unit × Replay) :=
  (Replay.attempt host b a.replay a.step).run a.world

/-- The handle of a name that the attempt closes. -/
def closed? (name : String) (a : Attempt κ τ) : Option OpenHandle :=
  match a.step with
  | .closeHandle _ => a.used? name
  | _ => none

variable {b : BusId} {name other : String} {a : Attempt κ τ} {h : OpenHandle}

/-- A handle is used by a step on its own name that takes it off the queue. -/
theorem used?_eq_some (hused : a.used? name = some h) :
    (a.step = .closeHandle name ∨ a.step = .transferFailed name) ∧
      ∃ rest, a.replay.takeHandle? name = some (h, rest) := by
  obtain ⟨step, r, w⟩ := a
  cases step with
  | closeHandle other =>
    simp only [used?] at hused
    split at hused
    next heq =>
      obtain ⟨⟨k, rest⟩, htake, rfl⟩ := Option.map_eq_some_iff.1 hused
      rw [heq] at htake ⊢
      exact ⟨Or.inl rfl, rest, htake⟩
    next => cases hused
  | transferFailed other =>
    simp only [used?] at hused
    split at hused
    next heq =>
      obtain ⟨⟨k, rest⟩, htake, rfl⟩ := Option.map_eq_some_iff.1 hused
      rw [heq] at htake ⊢
      exact ⟨Or.inr rfl, rest, htake⟩
    next => cases hused
  | _ => cases hused

theorem closed?_eq_some (hclosed : a.closed? name = some h) :
    a.step = .closeHandle name ∧ a.used? name = some h := by
  obtain ⟨step, r, w⟩ := a
  cases step with
  | closeHandle other =>
    have hused : used? name ⟨.closeHandle other, r, w⟩ = some h := hclosed
    obtain ⟨hstep | hstep, -⟩ := used?_eq_some hused
    · exact ⟨hstep, hused⟩
    · cases hstep
  | _ => cases hclosed

/-- A step that takes a handle off the queue uses it. -/
theorem used?_of_take {step : Step} {r rest : Replay} {w : World κ τ}
    (hstep : step = .closeHandle name ∨ step = .transferFailed name)
    (htake : r.takeHandle? name = some (h, rest)) : used? name ⟨step, r, w⟩ = some h := by
  rcases hstep with rfl | rfl
  · simp [used?, htake]
  · simp [used?, htake]

/-- A closed handle is a used one. -/
theorem mem_used_of_closed {past : List (Attempt κ τ)}
    (hmem : h ∈ past.filterMap (closed? name)) : h ∈ past.filterMap (used? name) := by
  obtain ⟨a, ha, hclosed⟩ := List.mem_filterMap.1 hmem
  obtain ⟨-, hused⟩ := closed?_eq_some hclosed
  exact List.mem_filterMap.2 ⟨a, ha, hused⟩

/-- **What an attempt does to handles** in a context. -/
structure Serves (host : Host κ τ) (b : BusId) (c : ContextId) (a : Attempt κ τ) : Prop where
  /-- If it fails, it opens none and uses none. -/
  fails (error : StepError) (r' : Replay) (name : String) :
    (a.effect host b).result = some (.error error, r') →
      a.opened? b name = none ∧ a.used? name = none
  /-- A handle that is opened comes last in the list. -/
  opens (name : String) (r' : Replay) : a.step = .openHandle name →
    (a.effect host b).result = some (.ok (), r') →
    ∃ h, a.opened? b name = some h ∧
      ((a.effect host b).world.opens c).toList = (a.world.opens c).toList ++ [h]
  /-- A handle that is closed was in the list and is taken off it, no other is, and all
  marks stay as they are. -/
  closes (name : String) (r' : Replay) : a.step = .closeHandle name →
    (a.effect host b).result = some (.ok (), r') →
    ∃ h, a.used? name = some h ∧
      (a.world.opens c).toList.Perm (h :: ((a.effect host b).world.opens c).toList) ∧
      ∀ k, (a.effect host b).world.isDisconnected k = a.world.isDisconnected k
  /-- A handle on which a transfer fails was in the list and stays there. -/
  leaves (name : String) (r' : Replay) : a.step = .transferFailed name →
    (a.effect host b).result = some (.ok (), r') →
    ∃ h, a.used? name = some h ∧
      (a.effect host b).world = ((Act.transferFailed host b h).run a.world).world ∧
      h ∈ (a.world.opens c).toList ∧ h ∈ ((a.effect host b).world.opens c).toList

end Attempt

namespace Replay

variable {host : Host κ τ} {b : BusId} {c : ContextId} {start w w' : World κ τ} {r r' : Replay}
variable {step : Step} {past : List (Attempt κ τ)} {name other : String} {h k : OpenHandle}
variable {answer : Except StepError Unit} {ns : List Notice}

/-- The replays that steps on a bus lead to, also after some of them failed, and the worlds
that they leave, where nobody else closes handles of the bus. In between, anything else may
happen: devices come and go, callbacks are registered, others open handles of their own. -/
inductive Alone (host : Host κ τ) (b : BusId) (start : World κ τ) :
    List (Attempt κ τ) → Replay → World κ τ → Prop
  | start : Alone host b start [] {} start
  | step {past : List (Attempt κ τ)} {r r' : Replay} {w : World κ τ}
      {answer : Except StepError Unit} (step : Step) : Alone host b start past r w →
      ((attempt host b r step).run w).result = some (answer, r') →
      Alone host b start (past ++ [⟨step, r, w⟩]) r' ((attempt host b r step).run w).world
  | meanwhile {past : List (Attempt κ τ)} {r : Replay} {w w' : World κ τ} {ns : List Notice} :
      Alone host b start past r w → Spares b w ns w' → Alone host b start past r w'

/-! ## One attempt -/

theorem handles_attempt (r : Replay) (step : Step)
    (hr : ∀ inv, (host.react inv).Obeys (Spares b)) : (attempt host b r step).Obeys HandlesOf := by
  have hhandles : ∀ inv, (host.react inv).Obeys HandlesOf :=
    fun inv => (hr inv).mono fun _ _ _ => Spares.handles
  intro w
  rw [run_attempt]
  exact Act.handles_parts.toClosed.apply (Act.handles_parts.calm hhandles) w

/-- **A step that does not close a handle closes none.** -/
theorem unclosed_attempt (r : Replay) (step : Step)
    (hr : ∀ inv, (host.react inv).Obeys (Spares b)) (hstep : ∀ name, step ≠ .closeHandle name) :
    (attempt host b r step).Obeys (Unclosed b) := by
  have hunclosed : ∀ inv, (host.react inv).Obeys (Unclosed b) :=
    fun inv => (hr inv).mono fun _ _ _ => Spares.toUnclosed
  intro w
  rw [run_attempt]
  exact Act.closed_obeys.of_step (fun _ => Act.unclosed_plug hunclosed)
    (fun _ => Act.unclosed_unplug hunclosed)
    (fun _ => Act.closed_obeys.openDevice fun _ _ => Act.unclosed_openHandle)
    (fun name _ _ heq => absurd heq (hstep name)) (fun _ => Act.unclosed_transferFailed hunclosed) w

/-- A step that closes a handle closes the first of its queue. -/
theorem run_attempt_close (host : Host κ τ) (b : BusId) (w : World κ τ)
    (htake : r.takeHandle? name = some (h, r')) :
    (attempt host b r (.closeHandle name)).run w =
      { result := some (.ok (), r'.count)
        world := ((Act.closeDevice b h).run w).world
        notices := ((Act.closeDevice b h).run w).notices } := by
  obtain ⟨closed, hclose⟩ : ∃ closed, ((Act.closeDevice b h).run w).result = some closed :=
    Act.closed_returns.closeDevice (fun _ => Act.returns_closeHandle) w
  simp only [attempt, htake, Act.run_bind_of_result hclose, Act.run_pure, List.append_nil]

/-- A step that closes a handle closes one in the list, and no other. -/
theorem run_of_closed? (host : Host κ τ) (b : BusId) (hw : w.Distinguished)
    (hclosed : Attempt.closed? name ⟨step, r, w⟩ = some h)
    (hmem : h ∈ (w.opens (w.contextOf b)).toList) :
    ∃ l : OpenList, (w.opens (w.contextOf b)).toList.Perm (h :: l.toList) ∧
      ((attempt host b r step).run w).world = w.setOpens (w.contextOf b) l ∧
      ((attempt host b r step).run w).notices = [.closed (w.contextOf b) h.id] := by
  obtain ⟨hstep, hused⟩ := Attempt.closed?_eq_some hclosed
  obtain ⟨-, rest, htake⟩ := Attempt.used?_eq_some hused
  obtain rfl : step = .closeHandle name := hstep
  obtain ⟨l, hperm, hrun⟩ := Act.run_closeHandle_of_mem hw hmem
  refine ⟨l, hperm, ?_⟩
  rw [run_attempt_close host b w htake, Act.run_closeDevice, hrun]
  exact ⟨rfl, rfl⟩

/-- A step over a failed transfer succeeds if it has a handle, and tells the bus of it. -/
theorem world_attempt_transfer (htake : r.takeHandle? name = some (h, r'))
    {r'' : Replay} (hok : ((attempt host b r (.transferFailed name)).run w).result =
      some (answer, r'')) :
    answer = .ok () ∧ ((attempt host b r (.transferFailed name)).run w).world =
      ((Act.transferFailed host b h).run w).world := by
  simp only [attempt, htake] at hok ⊢
  obtain ⟨tally, -, hreturn, hworld⟩ := Act.of_run_bind hok
  cases hreturn
  exact ⟨rfl, hworld⟩

/-- A bus stays on its context. -/
theorem contextOf_attempt (hr : ∀ inv, (host.react inv).Obeys (Spares b)) :
    ((attempt host b r step).run w).world.contextOf b = w.contextOf b := by
  by_cases hstep : ∃ name, step = .closeHandle name
  · obtain ⟨name, rfl⟩ := hstep
    rcases htake : r.takeHandle? name with _ | ⟨h, rest⟩
    · simp only [attempt, htake]
      rfl
    · rw [run_attempt_close host b w htake, Act.run_closeDevice, Act.run_closeHandle]
      split
      · rfl
      · rfl
  · exact (unclosed_attempt r step hr (fun name heq => hstep ⟨name, heq⟩) w).context

/-! ## The books -/

namespace Ledger

/-- A handle that was used was opened. -/
theorem opened_of_used (hl : Ledger b past r w)
    (hmem : h ∈ past.filterMap (Attempt.used? name)) :
    h ∈ past.filterMap (Attempt.opened? b name) := by
  rw [hl.balance]
  exact List.mem_append_left _ hmem

/-- A handle of the queue was opened and not used. -/
theorem opened_of_queue (hl : Ledger b past r w) (hmem : h ∈ r.queue name) :
    h ∈ past.filterMap (Attempt.opened? b name) ∧ h ∉ past.filterMap (Attempt.used? name) := by
  have hdistinct := hl.distinct name
  rw [hl.balance] at hdistinct ⊢
  exact ⟨List.mem_append_right _ hmem,
    fun hused => List.disjoint_of_nodup_append hdistinct hused hmem⟩

end Ledger

/-- What a step takes off a queue was first in it. -/
theorem mem_queue_of_take (htake : r.takeHandle? name = some (h, r')) : h ∈ r.queue name := by
  rw [(queue_of_take htake).1]
  exact List.mem_cons_self

/-! ## The queues and the list -/

/-- **The queues of a replay agree with the list of open handles**, in a context. -/
structure Agrees (b : BusId) (c : ContextId) (past : List (Attempt κ τ)) (r : Replay)
    (w : World κ τ) : Prop where
  context : w.contextOf b = c
  distinguished : w.Distinguished
  ledger : Ledger b past r w
  /-- A number is that of one handle, opened under one name. -/
  apart (name other : String) (h k : OpenHandle) :
    h ∈ past.filterMap (Attempt.opened? b name) →
    k ∈ past.filterMap (Attempt.opened? b other) → h.id = k.id → name = other ∧ h = k
  /-- A handle is in the list until a step closes it. -/
  open_iff (name : String) (h : OpenHandle) : h ∈ past.filterMap (Attempt.opened? b name) →
    (h ∈ (w.opens c).toList ↔ h ∉ past.filterMap (Attempt.closed? name))

namespace Agrees

theorem fresh (hw : w.Distinguished) : Agrees b (w.contextOf b) [] {} w where
  context := rfl
  distinguished := hw
  ledger := .fresh
  apart _ _ _ _ h := absurd h List.not_mem_nil
  open_iff _ _ h := absurd h List.not_mem_nil

/-- What is in a queue is in the list. -/
theorem mem_opens_of_queue (hs : Agrees b c past r w) (hmem : h ∈ r.queue name) :
    h ∈ (w.opens c).toList := by
  obtain ⟨hopened, hunused⟩ := hs.ledger.opened_of_queue hmem
  exact (hs.open_iff name h hopened).2 fun hclosed => hunused (Attempt.mem_used_of_closed hclosed)

/-- A handle that a step takes off its queue is in the list. -/
theorem mem_opens_of_take (hs : Agrees b c past r w)
    (htake : r.takeHandle? name = some (h, r')) : h ∈ (w.opens c).toList :=
  hs.mem_opens_of_queue (mem_queue_of_take htake)

/-- Whatever closes no handle of the bus keeps them in agreement: what was opened by a
step has a number that was drawn before. -/
theorem open_iff_of_handles (hs : Agrees b c past r w) (hh : Handles w ns w')
    (hmem : h ∈ past.filterMap (Attempt.opened? b name)) :
    h ∈ (w'.opens c).toList ↔
      h ∉ past.filterMap (Attempt.closed? name) ∧ .closed c h.id ∉ ns := by
  have hold : .opened c h ∉ ns := by
    intro hopened
    have hlt := hs.ledger.lt name h hmem
    have hge := (hh.fresh c h hopened).1
    omega
  rw [hh.opens, or_iff_left hold, hs.open_iff name h hmem]

theorem meanwhile (hs : Agrees b c past r w) (hbetween : Spares b w ns w') :
    Agrees b c past r w' := by
  have hh := hbetween.handles hs.distinguished
  refine ⟨hbetween.context.trans hs.context, hh.distinguished, hs.ledger.mono hh.next, hs.apart,
    fun name h hmem => ?_⟩
  have hunclosed := hbetween.unclosed h.id
  rw [hs.context] at hunclosed
  rw [hs.open_iff_of_handles hh hmem, and_iff_left hunclosed]

/-- **An attempt closes the handle that it closes**, and no other. -/
theorem closed_iff (hs : Agrees b c past r w) (hr : ∀ inv, (host.react inv).Obeys (Spares b))
    (i : OpenId) : .closed c i ∈ ((Replay.attempt host b r step).run w).notices ↔
      ∃ name h, Attempt.closed? name ⟨step, r, w⟩ = some h ∧ h.id = i := by
  obtain rfl := hs.context
  have hcloses : ∀ {name h}, Attempt.closed? name ⟨step, r, w⟩ = some h →
      ((Replay.attempt host b r step).run w).notices = [.closed (w.contextOf b) h.id] := by
    intro name h hclosed
    obtain ⟨-, hused⟩ := Attempt.closed?_eq_some hclosed
    obtain ⟨-, rest, htake⟩ := Attempt.used?_eq_some hused
    obtain ⟨l, -, -, hns⟩ :=
      run_of_closed? host b hs.distinguished hclosed (hs.mem_opens_of_take htake)
    exact hns
  constructor
  · intro hmem
    by_cases hstep : ∃ name, step = .closeHandle name
    · obtain ⟨name, rfl⟩ := hstep
      rcases htake : r.takeHandle? name with _ | ⟨h, rest⟩
      · simp only [Replay.attempt, htake] at hmem
        cases hmem
      · have hclosed : Attempt.closed? name ⟨.closeHandle name, r, w⟩ = some h :=
          Attempt.used?_of_take (Or.inl rfl) htake
        rw [hcloses hclosed] at hmem
        obtain ⟨-, rfl⟩ := Notice.closed.inj (List.mem_singleton.1 hmem)
        exact ⟨name, h, hclosed, rfl⟩
    · have hunclosed := unclosed_attempt r step hr fun name heq => hstep ⟨name, heq⟩
      exact absurd hmem ((hunclosed w).unclosed i)
  · rintro ⟨name, h, hclosed, rfl⟩
    rw [hcloses hclosed]
    exact List.mem_singleton_self _

/-- **An attempt keeps the queues and the list in agreement.** -/
theorem attempt (hs : Agrees b c past r w) (hr : ∀ inv, (host.react inv).Obeys (Spares b))
    (hok : ((Replay.attempt host b r step).run w).result = some (answer, r')) :
    Agrees b c (past ++ [⟨step, r, w⟩]) r' ((Replay.attempt host b r step).run w).world := by
  have hh := handles_attempt r step hr w hs.distinguished
  have hnumber : ∀ {name h}, Attempt.opened? b name ⟨step, r, w⟩ = some h →
      h.id.val = w.nextOpen := fun hopen => (number_of_opened? host hopen).1
  have hcontext : ((Replay.attempt host b r step).run w).world.contextOf b = c :=
    (contextOf_attempt hr).trans hs.context
  refine ⟨hcontext, hh.distinguished, hs.ledger.attempt hh.next hok,
    fun name other h k hmem hmem' heq => ?apart, fun name h hmem => ?open_iff⟩
  case apart =>
    rw [filterMap_snoc, List.mem_append, Option.mem_toList] at hmem hmem'
    rcases hmem with hmem | hnew
    · rcases hmem' with hmem' | hnew'
      · exact hs.apart name other h k hmem hmem' heq
      · have hlt := hs.ledger.lt name h hmem
        have hid := hnumber hnew'
        rw [heq] at hlt
        omega
    · rcases hmem' with hmem' | hnew'
      · have hlt := hs.ledger.lt other k hmem'
        have hid := hnumber hnew
        rw [← heq] at hlt
        omega
      · obtain ⟨hstep, -⟩ := run_of_opened? host hnew
        obtain ⟨hstep', -⟩ := run_of_opened? host hnew'
        obtain rfl : name = other := Step.openHandle.inj (hstep.symm.trans hstep')
        exact ⟨rfl, Option.some.inj (hnew.symm.trans hnew')⟩
  case open_iff =>
    rw [filterMap_snoc, List.mem_append, Option.mem_toList] at hmem
    rw [filterMap_snoc, List.mem_append, Option.mem_toList, not_or]
    rcases hmem with hmem | hnew
    · rw [hs.open_iff_of_handles hh hmem, hs.closed_iff hr]
      refine and_congr_right fun _ => not_congr ⟨?_, fun hclosed => ⟨name, h, hclosed, rfl⟩⟩
      rintro ⟨other, k, hclosed, hid⟩
      -- The handle that is closed was opened under its own name.
      obtain ⟨-, hused⟩ := Attempt.closed?_eq_some hclosed
      obtain ⟨-, rest, htake⟩ := Attempt.used?_eq_some hused
      have hopened := (hs.ledger.opened_of_queue (mem_queue_of_take htake)).1
      obtain ⟨rfl, rfl⟩ := hs.apart other name k h hopened hmem hid
      exact hclosed
    · obtain ⟨rfl, i, hopen, hrun⟩ := run_of_opened? host hnew
      have hlast := Act.opens_of_openDevice hopen
      refine iff_of_true ?_ ⟨fun hclosed => ?_, nofun⟩
      · rw [hrun, ← hs.context, hlast]
        exact List.mem_append_right _ (List.mem_singleton_self h)
      · have hused := Attempt.mem_used_of_closed hclosed
        have hlt := hs.ledger.lt name h (hs.ledger.opened_of_used hused)
        have hid := hnumber hnew
        omega

/-- **What an attempt does to handles**, where the queues and the list agree. -/
theorem attempt_serves (hs : Agrees b c past r w) (hr : ∀ inv, (host.react inv).Obeys (Spares b))
    (hok : ((Replay.attempt host b r step).run w).result = some (answer, r')) :
    Attempt.Serves host b c ⟨step, r, w⟩ := by
  refine ⟨fun error r'' name hfail => ⟨?unopened, ?unused⟩, fun name r'' hstep hdone => ?opens,
    fun name r'' hstep hdone => ?closes, fun name r'' hstep hdone => ?leaves⟩
  case unopened =>
    refine Option.eq_none_iff_forall_ne_some.2 fun h hopen => ?_
    obtain ⟨-, i, -, hrun⟩ := run_of_opened? host hopen
    rw [Attempt.effect, hrun] at hfail
    cases hfail
  case unused =>
    refine Option.eq_none_iff_forall_ne_some.2 fun h hused => ?_
    obtain ⟨rfl | rfl, rest, htake⟩ := Attempt.used?_eq_some hused
    · rw [Attempt.effect, run_attempt_close host b w htake] at hfail
      cases hfail
    · obtain ⟨heq, -⟩ := world_attempt_transfer htake hfail
      cases heq
  case opens =>
    obtain rfl : step = .openHandle name := hstep
    rcases hname : r.device? name with _ | i
    · simp only [Attempt.effect, Replay.attempt, hname] at hdone
      cases hdone
    · simp only [Attempt.effect, Replay.attempt, hname] at hdone ⊢
      obtain ⟨e | h, hopen, hreturn, hworld⟩ := Act.of_run_bind hdone
      · cases hreturn
      · refine ⟨h, ?_, ?_⟩
        · rw [Attempt.opened?_of_run hname hopen, if_pos rfl]
          rfl
        · have hlast := Act.opens_of_openDevice hopen
          rw [hworld, ← hs.context]
          exact hlast
  case closes =>
    obtain rfl : step = .closeHandle name := hstep
    rcases htake : r.takeHandle? name with _ | ⟨h, rest⟩
    · simp only [Attempt.effect, Replay.attempt, htake] at hdone
      cases hdone
    · have hmem := hs.mem_opens_of_take htake
      obtain rfl := hs.context
      have hclosed : Attempt.closed? name ⟨.closeHandle name, r, w⟩ = some h :=
        Attempt.used?_of_take (Or.inl rfl) htake
      obtain ⟨l, hperm, hworld, -⟩ := run_of_closed? host b hs.distinguished hclosed hmem
      refine ⟨h, Attempt.used?_of_take (Or.inl rfl) htake, ?_, fun k => ?_⟩
      · rw [Attempt.effect, hworld, World.opens_setOpens, if_pos rfl]
        exact hperm
      · rw [Attempt.effect, hworld]
        rfl
  case leaves =>
    obtain rfl : step = .transferFailed name := hstep
    rcases htake : r.takeHandle? name with _ | ⟨h, rest⟩
    · simp only [Attempt.effect, Replay.attempt, htake] at hdone
      cases hdone
    · obtain ⟨-, hworld⟩ := world_attempt_transfer htake hdone
      have hmem := hs.mem_opens_of_take htake
      have hh := handles_attempt r (.transferFailed name) hr w hs.distinguished
      have hstep : ∀ other, Step.transferFailed name ≠ .closeHandle other := by
        intro other heq
        cases heq
      have hunclosed := (unclosed_attempt r (.transferFailed name) hr hstep w).unclosed
      rw [hs.context] at hunclosed
      refine ⟨h, Attempt.used?_of_take (Or.inr rfl) htake, hworld, hmem, ?_⟩
      exact (hh.opens c h).2 ⟨Or.inl hmem, hunclosed h.id⟩

end Agrees

/-! ## Runs -/

/-- **Handles are used in turn**: in the order in which they were opened under their name,
and each of them once. -/
structure InTurn (host : Host κ τ) (b : BusId) (c : ContextId) (past : List (Attempt κ τ))
    (r : Replay) (w : World κ τ) : Prop where
  /-- The handles used are the first of those opened. -/
  order (name : String) : past.filterMap (Attempt.opened? b name) =
    past.filterMap (Attempt.used? name) ++ r.queue name
  /-- No handle is opened twice. -/
  once (name : String) : (past.filterMap (Attempt.opened? b name)).Nodup
  /-- No handle is opened under two names. -/
  own (name other : String) (h : OpenHandle) : h ∈ past.filterMap (Attempt.opened? b name) →
    h ∈ past.filterMap (Attempt.opened? b other) → name = other
  /-- A handle is in the list until a step closes it, also after a failed transfer. -/
  open_iff (name : String) (h : OpenHandle) : h ∈ past.filterMap (Attempt.opened? b name) →
    (h ∈ (w.opens c).toList ↔ h ∉ past.filterMap (Attempt.closed? name))
  serves : ∀ a ∈ past, a.Serves host b c

/-- The queues agree with the list, whatever steps were tried. -/
theorem Alone.agrees (hr : ∀ inv, (host.react inv).Obeys (Spares b))
    (hstart : start.Distinguished) (h : Alone host b start past r w) :
    Agrees b (start.contextOf b) past r w ∧
      ∀ a ∈ past, a.Serves host b (start.contextOf b) := by
  induction h with
  | start => exact ⟨.fresh hstart, List.forall_mem_nil _⟩
  | step step _ hok ih =>
    obtain ⟨hagrees, hserves⟩ := ih
    refine ⟨hagrees.attempt hr hok, List.forall_mem_append.2 ⟨hserves, ?_⟩⟩
    exact List.forall_mem_singleton.2 (hagrees.attempt_serves hr hok)
  | meanwhile _ hbetween ih => exact ⟨ih.1.meanwhile hbetween, ih.2⟩

/-- **The handles of a name are used first in, first out**, whatever steps on other names,
unplugs and re-plugs come in between. -/
theorem Alone.first_in_first_out (hr : ∀ inv, (host.react inv).Obeys (Spares b))
    (hstart : start.Distinguished) (h : Alone host b start past r w) :
    InTurn host b (start.contextOf b) past r w := by
  obtain ⟨hagrees, hserves⟩ := h.agrees hr hstart
  refine ⟨hagrees.ledger.balance, hagrees.ledger.distinct, fun name other h hmem hmem' => ?_,
    hagrees.open_iff, hserves⟩
  obtain ⟨heq, -⟩ := hagrees.apart name other h h hmem hmem' rfl
  exact heq

/-- Callbacks that open a handle of their own on every device that comes or goes, if they
can. -/
def grasping (b : BusId) : Host Unit Unit where
  react inv := do
    let _ ← Act.openDevice b inv.device.id
    return .rearm
  order _ ids := ids
  order_perm _ _ := .refl _

/-- Two names with several handles each, one of them plugged in again with handles left, a
failed transfer on its former device and a step that fails: the handles of the first name
are used in turn, while the list has changed its order and holds those of the callbacks. -/
theorem first_in_first_out_of_grasping :
    ∃ past r w, Alone (grasping ⟨1⟩) ⟨1⟩ Act.oneBus past r w ∧
      past.map Attempt.step = [.plug "a" 1 1 0, .openHandle "a", .openHandle "a",
        .plug "b" 1 1 0, .openHandle "b", .unplug "a", .plug "a" 1 1 0, .openHandle "a",
        .transferFailed "a", .closeHandle "c", .closeHandle "b", .closeHandle "a"] ∧
      InTurn (grasping ⟨1⟩) ⟨1⟩ ⟨1⟩ past r w ∧
      (past.filterMap (Attempt.used? "a")).map (fun h => h.id.val) = [2, 3] ∧
      (r.queue "a").map (fun h => h.id.val) = [7] ∧
      (w.opens ⟨1⟩).toList.map (fun h => h.id.val) = [1, 2, 6, 4, 7] := by
  have hspares : ∀ inv, ((grasping ⟨1⟩).react inv : Act Unit Unit Wish).Obeys (Spares ⟨1⟩) :=
    fun _ => Act.spares_openDevice.bind fun _ => Act.obeys_pure _
  have hregister : (Act.register (grasping ⟨1⟩) ⟨1⟩ { events := .all, program := some () } :
      Act Unit Unit _).Obeys (Spares ⟨1⟩) := Act.still_register hspares
  have halone : Alone (grasping ⟨1⟩) ⟨1⟩ Act.oneBus _ _ _ :=
    (Alone.start.meanwhile (hregister _)).step (.plug "a" 1 1 0) rfl
      |>.step (.openHandle "a") rfl |>.step (.openHandle "a") rfl
      |>.step (.plug "b" 1 1 0) rfl |>.step (.openHandle "b") rfl |>.step (.unplug "a") rfl
      |>.step (.plug "a" 1 1 0) rfl |>.step (.openHandle "a") rfl
      |>.step (.transferFailed "a") rfl |>.step (.closeHandle "c") rfl
      |>.step (.closeHandle "b") rfl |>.step (.closeHandle "a") rfl
  exact ⟨_, _, _, halone, rfl, halone.first_in_first_out hspares Act.oneBus_distinguished,
    rfl, rfl, rfl⟩

end Replay
end DeviceWatch
