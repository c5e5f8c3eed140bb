import DeviceWatch.Detection
import DeviceWatch.Proofs.Alike
/-!
# Demands on a detector

Whoever knows a detector may ask it for a change of its bus, for an answer, or to stop; a
callback that runs under the detector may do so as well. To ask is to queue a command, and
that is all that it does to a detector: what is taken off the queue, what is answered and
what is published are the detector's own steps.

Callbacks are aloof if they act on contexts and buses and ask detectors, to any depth, and
do not look at what detectors hold. Aloof callbacks return, do the same in worlds that are
alike, and do no more to a detector than to queue commands (`Queues`). What others queue
while a callback runs counts as queued by it, since nobody reads the queue meanwhile.
-/

namespace DeviceWatch

variable {κ τ α : Type}

/-- What a detector may be asked for. -/
inductive Demand where
  | plug (spec : DeviceSpec)
  | unplug (id : DeviceId)
  /-- An answer once everything queued before is done. -/
  | sync
  | shutdown
  deriving DecidableEq

/-- The command for a demand. Who asks for an answer brings a token of his own. -/
def Demand.command (token : Nat) : Demand → Command
  | .plug spec => .plug spec
  | .unplug id => .unplug id
  | .sync => .sync token
  | .shutdown => .shutdown

/-- How many tokens a demand uses up. -/
def Demand.uses : Demand → Nat
  | .sync => 1
  | _ => 0

/-- Asks a detector for something. -/
def Act.demand (d : DetectorId) (x : Demand) : Act κ τ (Except DetectorError Unit) := do
  let token := ((← get).detector d).syncs
  modifyDetector d fun y => { y with syncs := y.syncs + x.uses }
  send d (x.command token)

/-! ## What became of the commands -/

/-- The commands that were queued for a detector, in order. -/
def queued (d : DetectorId) (ns : List Notice) : List Command :=
  ns.filterMap fun
    | .queued i command => if i = d then some command else none
    | _ => none

/-- The commands that a detector took off its queue, in order. -/
def taken (d : DetectorId) (ns : List Notice) : List Command :=
  ns.filterMap fun
    | .taken i command => if i = d then some command else none
    | _ => none

/-- The changes that a detector reported, in order. -/
def published (d : DetectorId) (ns : List Notice) : List BusChange :=
  ns.filterMap fun
    | .published i change => if i = d then some change else none
    | _ => none

/-- The tokens that commands bring, in order. -/
def tokens (commands : List Command) : List Nat :=
  commands.filterMap fun
    | .sync token => some token
    | _ => none

variable {d : DetectorId} {ns ms : List Notice}

theorem queued_append : queued d (ns ++ ms) = queued d ns ++ queued d ms :=
  List.filterMap_append

theorem taken_append : taken d (ns ++ ms) = taken d ns ++ taken d ms :=
  List.filterMap_append

theorem published_append : published d (ns ++ ms) = published d ns ++ published d ms :=
  List.filterMap_append

theorem tokens_append {l m : List Command} : tokens (l ++ m) = tokens l ++ tokens m :=
  List.filterMap_append

theorem mem_tokens {l : List Command} {t : Nat} : t ∈ tokens l ↔ .sync t ∈ l := by
  rw [tokens, List.mem_filterMap]
  constructor
  · rintro ⟨command, hmem, heq⟩
    cases command with
    | sync token =>
      obtain rfl := Option.some.inj heq
      exact hmem
    | _ => cases heq
  · intro h
    exact ⟨_, h, rfl⟩

/-- Tokens that were drawn from a counter, in order. -/
structure Drawn (start finish : Nat) (tokens : List Nat) : Prop where
  le : start ≤ finish
  between : ∀ t ∈ tokens, start ≤ t ∧ t < finish
  sorted : tokens.Pairwise (· < ·)

namespace Drawn

variable {m n p : Nat} {l k : List Nat}

theorem refl : Drawn n n [] :=
  ⟨Nat.le_refl n, List.forall_mem_nil _, .nil⟩

theorem trans (h : Drawn m n l) (h' : Drawn n p k) : Drawn m p (l ++ k) := by
  have hsplit : ∀ t ∈ l ++ k, m ≤ t ∧ t < p := by
    refine List.forall_mem_append.2 ⟨fun t ht => ?_, fun t ht => ?_⟩
    · exact ⟨(h.between t ht).1, Nat.lt_of_lt_of_le (h.between t ht).2 h'.le⟩
    · exact ⟨Nat.le_trans h.le (h'.between t ht).1, (h'.between t ht).2⟩
  refine ⟨Nat.le_trans h.le h'.le, hsplit, ?_⟩
  refine List.pairwise_append.2 ⟨h.sorted, h'.sorted, fun t ht u hu => ?_⟩
  exact Nat.lt_of_lt_of_le (h.between t ht).2 (h'.between u hu).1

end Drawn

/-- The command for a demand brings the token that it uses up. -/
theorem Demand.drawn (x : Demand) (n : Nat) :
    Drawn n (n + x.uses) (tokens [x.command n]) := by
  cases x with
  | sync => exact ⟨Nat.le_succ n, by simp [tokens, command, uses], .cons (by simp) .nil⟩
  | _ => exact .refl

/-! ## A law of all but the detector itself -/

/-- **To queue commands** is all that one does to a detector, and only one that runs takes
them. -/
structure Queues (d : DetectorId) (w : World κ τ) (ns : List Notice) (w' : World κ τ) : Prop where
  detector : w'.detector d = { w.detector d with
    queue := (w.detector d).queue ++ queued d ns
    syncs := (w'.detector d).syncs }
  drawn : Drawn (w.detector d).syncs (w'.detector d).syncs (tokens (queued d ns))
  refused : (w.detector d).running = false → queued d ns = []
  taken : DeviceWatch.taken d ns = []
  published : DeviceWatch.published d ns = []

instance : Law.Composes (Queues (κ := κ) (τ := τ) d) where
  refl w := by
    refine ⟨?_, .refl, fun _ => rfl, rfl, rfl⟩
    have hnone : (w.detector d).queue ++ queued d [] = (w.detector d).queue := List.append_nil _
    rw [hnone]
  trans {w₁ w₂ w₃ ns ms} h₁ h₂ := by
    have hrunning : (w₂.detector d).running = (w₁.detector d).running := by rw [h₁.detector]
    refine ⟨?_, ?_, fun hstopped => ?_, ?_, ?_⟩
    · rw [queued_append, ← List.append_assoc, h₂.detector, h₁.detector]
    · rw [queued_append, tokens_append]
      exact h₁.drawn.trans h₂.drawn
    · rw [queued_append, h₁.refused hstopped, h₂.refused (hrunning.trans hstopped)]
      rfl
    · rw [taken_append, h₁.taken, h₂.taken]
      rfl
    · rw [published_append, h₁.published, h₂.published]
      rfl

/-- Whether the notice tells of a detector. -/
def Notice.ofDetector : Notice → Bool
  | .queued .. | .taken .. | .published .. => true
  | _ => false

/-- What has no part in detectors leaves them as they are. -/
theorem Queues.of_quiet {w w' : World κ τ} (h : w'.detectors = w.detectors)
    (hns : ∀ n ∈ ns, n.ofDetector = false) : Queues d w ns w' := by
  have hsame : w'.detector d = w.detector d := by rw [World.detector, h, World.detector]
  have hqueued : queued d ns = [] := by
    refine List.filterMap_eq_nil_iff.2 fun n hn => ?_
    have hother := hns n hn
    cases n <;> first | rfl | cases hother
  have htaken : DeviceWatch.taken d ns = [] := by
    refine List.filterMap_eq_nil_iff.2 fun n hn => ?_
    have hother := hns n hn
    cases n <;> first | rfl | cases hother
  have hpublished : DeviceWatch.published d ns = [] := by
    refine List.filterMap_eq_nil_iff.2 fun n hn => ?_
    have hother := hns n hn
    cases n <;> first | rfl | cases hother
  refine ⟨?_, ?_, fun _ => hqueued, htaken, hpublished⟩
  · rw [hsame, hqueued, List.append_nil]
  · rw [hsame, hqueued]
    exact .refl

namespace Act

variable {x : Demand}

theorem queues_note {n : Notice} (h : n.ofDetector = false) :
    (note n : Act κ τ Unit).Obeys (Queues d) :=
  fun _ => .of_quiet rfl (List.forall_mem_singleton.2 h)

/-- Operations on contexts and buses leave detectors as they are. -/
theorem queues_parts : Parts (κ := κ) (τ := τ) fun _ x => x.Obeys (Queues d) where
  toClosed := closed_obeys
  decide := fun _ => .of_quiet rfl (List.forall_mem_singleton.2 rfl)
  commit := fun _ => .of_quiet rfl (List.forall_mem_singleton.2 rfl)
  markPending := by
    intro c id w
    rw [run_markPending]
    exact .of_quiet rfl (forall_mem_if rfl)
  insert := obeys_insert fun _ _ => .of_quiet rfl (List.forall_mem_singleton.2 rfl)
  teardown := by
    intro c w
    rw [run_teardown]
    exact .of_quiet rfl (forall_mem_if rfl)
  attach := fun _ => .of_quiet rfl (List.forall_mem_singleton.2 rfl)
  detach := obeys_detach fun _ _ _ _ => .of_quiet rfl (List.forall_mem_singleton.2 rfl)
  openHandle := fun _ => .of_quiet rfl (List.forall_mem_singleton.2 rfl)
  closeHandle := obeys_closeHandle fun _ _ _ => .of_quiet rfl (List.forall_mem_singleton.2 rfl)
  buses _ := obeys_modify fun _ => .of_quiet rfl (List.forall_mem_nil _)
  delivered := queues_note rfl
  registered := queues_note rfl
  plugged := queues_note rfl
  unplugged := queues_note rfl
  notify hv := by
    refine closed_obeys.notify (queues_note rfl) (fun _ => queues_note rfl)
      (closed_obeys.pass hv (closed_obeys.disconnectOn fun h => ?_))
    exact obeys_disconnect fun w _ => .of_quiet rfl (forall_mem_givenUp rfl)

/-! ## Demands -/

theorem run_send (w : World κ τ) (command : Command) : (send d command).run w =
    if (w.detector d).running then
      { result := some (.ok ())
        world := w.modifyDetector d fun y => { y with queue := y.queue ++ [command] }
        notices := [.queued d command] }
    else { result := some (.error .stopped), world := w } := by
  simp only [send, run_bind, run_get, Effect.andThen_some, Detector.send?]
  by_cases hrunning : (w.detector d).running = true
  · simp only [if_pos hrunning]
    rfl
  · simp only [if_neg hrunning]
    rfl

theorem run_demand (w : World κ τ) : (demand d x).run w =
    if (w.detector d).running then
      { result := some (.ok ())
        world := w.modifyDetector d fun y => { y with
          queue := y.queue ++ [x.command (w.detector d).syncs]
          syncs := y.syncs + x.uses }
        notices := [.queued d (x.command (w.detector d).syncs)] }
    else
      { result := some (.error .stopped)
        world := w.modifyDetector d fun y => { y with syncs := y.syncs + x.uses } } := by
  rw [demand, run_bind, run_get, Effect.andThen_some, run_bind, modifyDetector, run_modify,
    Effect.andThen_some, run_send, World.detector_modifyDetector_self,
    World.modifyDetector_modifyDetector]
  by_cases hrunning : (w.detector d).running = true
  · simp only [if_pos hrunning]
    rfl
  · simp only [if_neg hrunning]
    rfl

/-- A demand queues its command, if the detector runs. -/
theorem queues_demand {i : DetectorId} :
    (demand i x : Act κ τ (Except DetectorError Unit)).Obeys (Queues d) := by
  intro w
  rw [run_demand]
  by_cases hi : d = i
  · subst hi
    by_cases hrunning : (w.detector d).running = true
    · simp only [if_pos hrunning]
      have hqueued : queued d [.queued d (x.command (w.detector d).syncs)] =
          [x.command (w.detector d).syncs] := by
        simp [queued]
      refine ⟨?_, ?_, fun hstopped => absurd hrunning (by simp [hstopped]), rfl, rfl⟩
      · rw [World.detector_modifyDetector_self, hqueued]
      · rw [World.detector_modifyDetector_self, hqueued]
        exact x.drawn _
    · simp only [if_neg hrunning]
      refine ⟨?_, ?_, fun _ => rfl, rfl, rfl⟩
      · rw [World.detector_modifyDetector_self]
        simp [queued]
      · rw [World.detector_modifyDetector_self]
        exact ⟨Nat.le_add_right _ _, List.forall_mem_nil _, .nil⟩
  · have hkept : ∀ f, (w.modifyDetector i f).detector d = w.detector d := fun _ =>
      World.detector_modifyDetector.trans (if_neg hi)
    have hqueued : queued d [.queued i (x.command (w.detector i).syncs)] = [] := by
      simp [queued, Ne.symm hi]
    split
    · refine ⟨?_, ?_, fun _ => hqueued, rfl, rfl⟩
      · rw [hkept, hqueued, List.append_nil]
      · rw [hkept, hqueued]
        exact .refl
    · refine ⟨?_, ?_, fun _ => rfl, rfl, rfl⟩
      · rw [hkept]
        simp [queued]
      · rw [hkept]
        exact .refl

theorem returns_demand : (demand d x : Act κ τ (Except DetectorError Unit)).Returns := by
  intro w
  rw [run_demand]
  split
  · exact ⟨_, rfl⟩
  · exact ⟨_, rfl⟩

/-- A demand does not depend on what a detector holds. -/
theorem alike_demand :
    Alike (demand d x : Act κ τ (Except DetectorError Unit)) (demand d x) := by
  intro w w' h
  rw [run_demand, run_demand, h.running d]
  split
  · refine ⟨rfl, .modifyDetector (.symm ?_) fun _ => rfl⟩
    exact .modifyDetector h.symm fun _ => rfl
  · refine ⟨rfl, .modifyDetector (.symm ?_) fun _ => rfl⟩
    exact .modifyDetector h.symm fun _ => rfl

/-- The world without what detectors hold. -/
def look : Act κ τ (World κ τ) := do
  return (← get).apart

/-- **Aloof acts** are put together from operations on contexts and buses, from demands,
and from reading and changing anything but detectors. So are the callbacks under them. -/
inductive Aloof : {α : Type} → Act κ τ α → Prop
  /-- An operation under callbacks that are aloof, in an order that detectors have no part in. -/
  | op {α : Type} {x : Act κ τ α} (host : Host κ τ) :
      (∀ inv, Aloof (host.react inv)) → host.Steady → Repertoire.Calm host α x → Aloof x
  | demand (d : DetectorId) (x : Demand) : Aloof (demand d x)
  | look : Aloof look
  | remember (f : τ → τ) : Aloof (remember f)
  | pure {α : Type} (a : α) : Aloof (pure a)
  | bind {α β : Type} {x : Act κ τ α} {f : α → Act κ τ β} :
      Aloof x → (∀ a, Aloof (f a)) → Aloof (x >>= f)

namespace Aloof

variable {x : Act κ τ α}

theorem returns (hx : Aloof x) : x.Returns := by
  induction hx with
  | op host _ _ hcalm ih => exact parts_returns.calm ih hcalm
  | demand => exact returns_demand
  | look => exact fun w => ⟨w.apart, rfl⟩
  | remember => exact returns_modify _
  | pure a => exact returns_pure a
  | bind _ _ ihx ihf => exact ihx.bind ihf

theorem queues (hx : Aloof x) : x.Obeys (Queues d) := by
  induction hx with
  | op host _ _ hcalm ih => exact queues_parts.calm ih hcalm
  | demand => exact queues_demand
  | look => exact obeys_get.bind fun _ => obeys_pure _
  | remember => exact obeys_modify fun _ => .of_quiet rfl (List.forall_mem_nil _)
  | pure a => exact obeys_pure a
  | bind _ _ ihx ihf => exact ihx.bind ihf

theorem alike (hx : Aloof x) : Alike x x := by
  induction hx with
  | op host _ hsteady hcalm ih => exact alike_calm ih hsteady hcalm
  | demand => exact alike_demand
  | look => exact .get_bind fun _ _ h => h.apart ▸ .pure _
  | remember => exact alike_remember
  | pure a => exact .pure a
  | bind _ _ ihx ihf => exact ihx.bind ihf

end Aloof
end Act

/-- **Callbacks that are aloof**, visited in an order that detectors have no part in. -/
structure Host.Aloof (host : Host κ τ) : Prop where
  react : ∀ inv, (host.react inv).Aloof
  steady : host.Steady

end DeviceWatch
