import DeviceWatch.Proofs.Attempts
import DeviceWatch.Proofs.Disconnection
/-!
# Which steps of a replay fail

A replay goes on after a step that failed, so its past is a list of attempts, with
successes and failures in any order. For every name the ledger of that past says that
the handles opened under it are those used since and then those in the queue, in this
order. Handles are told apart by their numbers, so a queue is empty if and only if
every handle opened under the name has been used.

With this, whether an attempt fails is read off the names that devices go by and the past
alone: `Tried.fails_exactly`.
-/

namespace DeviceWatch

variable {κ τ α : Type}

/-! ## Numbers of handles -/

/-- The number of the next handle does not go down. -/
def Rising : Law κ τ :=
  fun w _ w' => w.nextOpen ≤ w'.nextOpen

instance : Law.OfBuses (Rising (κ := κ) (τ := τ)) where
  refl _ := Nat.le_refl _
  trans := Nat.le_trans
  still h := Nat.le_of_eq h.nextOpen.symm

/-- **Nothing becomes of the devices of a bus**, and no number of a handle is drawn
twice. -/
structure Undisturbed (b : BusId) (w : World κ τ) (ns : List Notice) (w' : World κ τ) : Prop
    extends SameDevices b w ns w' where
  rising : Rising w ns w'

instance {b : BusId} : Law.OfBuses (Undisturbed (κ := κ) (τ := τ) b) where
  refl w := ⟨Law.Composes.refl w, Law.Composes.refl (L := Rising) w⟩
  trans h₁ h₂ :=
    ⟨Law.Composes.trans h₁.toSameDevices h₂.toSameDevices, Nat.le_trans h₁.rising h₂.rising⟩
  still h := ⟨Law.OfBuses.still h, Law.OfBuses.still (L := Rising) h⟩

namespace Act

variable {b : BusId}

theorem rising_parts : Parts fun _ (x : Act κ τ _) => x.Obeys Rising := by
  refine still_parts ?_ ?_ ?_ ?_ ?_ ?_
  · exact fun w _ => Nat.le_refl w.nextOpen
  · exact fun _ _ w => Nat.le_refl w.nextOpen
  · exact fun _ _ => obeys_detach fun w _ _ _ => Nat.le_refl w.nextOpen
  · exact fun _ _ w => Nat.le_succ w.nextOpen
  · exact fun _ _ => obeys_closeHandle fun w _ _ => Nat.le_refl w.nextOpen
  · refine fun c d => closed_obeys.disconnectOn fun h => ?_
    exact obeys_disconnect fun w _ => Nat.le_refl w.nextOpen

/-- A bus opens a handle under the next number. -/
theorem number_of_openDevice {w : World κ τ} {i : DeviceId} {h : OpenHandle}
    (hopen : ((openDevice b i).run w).result = some (.ok h)) :
    h.id.val = w.nextOpen ∧ ((openDevice b i).run w).world.nextOpen = w.nextOpen + 1 := by
  rw [run_openDevice] at hopen ⊢
  rcases hget : (w.roster (w.contextOf b)).get? i with _ | d
  · rw [hget] at hopen
    cases hopen
  · rw [hget] at hopen
    cases hopen
    exact ⟨rfl, rfl⟩

end Act

/-! ## Attempts -/

/-- A step that was tried, with the replay and the world in which it was. -/
structure Attempt (κ τ : Type) where
  step : Step
  replay : Replay
  world : World κ τ

namespace Attempt

/-- The handle that the attempt opens under a name. -/
def opened? (b : BusId) (name : String) (a : Attempt κ τ) : Option OpenHandle :=
  match a.step with
  | .openHandle other =>
    if other = name then do
      let i ← a.replay.device? other
      let answer ← ((Act.openDevice b i).run a.world).result
      answer.toOption
    else none
  | _ => none

/-- The handle of a name that the attempt uses. -/
def used? (name : String) (a : Attempt κ τ) : Option OpenHandle :=
  match a.step with
  | .closeHandle other | .transferFailed other =>
    if other = name then (a.replay.takeHandle? other).map Prod.fst else none
  | _ => none

/-- An attempt to open a handle that gets as far as the bus opens what the bus does. -/
theorem opened?_of_run {b : BusId} {w : World κ τ} {r : Replay} {name other : String}
    {i : DeviceId} {answer : Except BusError OpenHandle} (hname : r.device? other = some i)
    (hopen : ((Act.openDevice b i).run w).result = some answer) :
    opened? b name ⟨.openHandle other, r, w⟩ =
      if other = name then answer.toOption else none := by
  simp only [opened?, hname, Option.bind_eq_bind, Option.bind_some, hopen]

end Attempt

namespace Replay

variable {host : Host κ τ} {b : BusId} {start w w' : World κ τ} {r r' : Replay} {step : Step}
variable {past : List (Attempt κ τ)} {name : String} {h : OpenHandle}
variable {answer : Except StepError Unit}

/-- The replays that steps on a bus lead to, also after some of them failed, and the
worlds that they leave. In between, anything may happen that leaves the devices of the
bus alone. -/
inductive Tried (host : Host κ τ) (b : BusId) (start : World κ τ) :
    List (Attempt κ τ) → Replay → World κ τ → Prop
  | start : Tried host b start [] {} start
  | step {past : List (Attempt κ τ)} {r r' : Replay} {w : World κ τ}
      {answer : Except StepError Unit} (step : Step) : Tried host b start past r w →
      ((attempt host b r step).run w).result = some (answer, r') →
      Tried host b start (past ++ [⟨step, r, w⟩]) r' ((attempt host b r step).run w).world
  | meanwhile {past : List (Attempt κ τ)} {r : Replay} {w w' : World κ τ} {ns : List Notice} :
      Tried host b start past r w → Undisturbed b w ns w' → Tried host b start past r w'

/-- Every handle that was opened under the name has been used. -/
def Spent (b : BusId) (past : List (Attempt κ τ)) (name : String) : Prop :=
  ∀ h ∈ past.filterMap (Attempt.opened? b name), h ∈ past.filterMap (Attempt.used? name)

/-! ## One attempt -/

/-- **An attempt fails for what it lacks and does nothing, or lacks nothing and
succeeds**, where names lead to devices. -/
theorem attempt_outcome (hr : ∀ inv, (host.react inv).Obeys (SameDevices b))
    (hret : ∀ inv, (host.react inv).Returns) (hs : (w.bench b r).Leads) :
    (∃ error, r.lacks step error ∧
      (attempt host b r step).run w = { result := some (.error error, r), world := w }) ∨
    (∀ error, ¬ r.lacks step error) ∧
      ∃ r', ((apply host b r step).run w).result = some (.ok r') ∧
        ((attempt host b r step).run w).result = some (.ok (), r') := by
  by_cases hlacks : ∃ error, r.lacks step error
  · obtain ⟨error, hlack⟩ := hlacks
    refine Or.inl ⟨error, hlack, ?_⟩
    rw [run_attempt, run_apply_of_lacks hlack]
    rfl
  · have hno := not_exists.1 hlacks
    obtain ⟨r', hstep⟩ := apply_succeeds hr hret hs hno
    refine Or.inr ⟨hno, r', hstep, ?_⟩
    rw [run_attempt, hstep]
    rfl

/-- What is taken is the first handle of its own name. -/
theorem queue_eq_of_take {other : String} {rest : Replay}
    (htake : r.takeHandle? other = some (h, rest)) (name : String) :
    r.queue name = (if other = name then some h else none).toList ++ rest.queue name := by
  obtain ⟨hown, hothers⟩ := queue_of_take htake
  split
  next heq => rw [← heq, hown, Option.toList_some, List.singleton_append]
  next hne => rw [hothers name (Ne.symm hne), Option.toList_none, List.nil_append]

/-- **What an attempt does to the queue of a name**: the handle that it uses is the first
one, and the one that it opens goes last. -/
theorem queue_of_attempt
    (hok : ((attempt host b r step).run w).result = some (answer, r')) (name : String) :
    r.queue name ++ (Attempt.opened? b name ⟨step, r, w⟩).toList =
      (Attempt.used? name ⟨step, r, w⟩).toList ++ r'.queue name := by
  cases step with
  | plug other vendor product deviceClass =>
    refine (List.append_nil _).trans ?_
    simp only [attempt] at hok
    split at hok
    · cases hok
      rfl
    · obtain ⟨⟨d, tally⟩, -, hreturn, -⟩ := Act.of_run_bind hok
      cases hreturn
      rfl
  | unplug other =>
    refine (List.append_nil _).trans ?_
    simp only [attempt] at hok
    split at hok
    · cases hok
      rfl
    · obtain ⟨e | ⟨d, tally⟩, -, hreturn, -⟩ := Act.of_run_bind hok
      · cases hreturn
        rfl
      · cases hreturn
        rfl
  | openHandle other =>
    rcases hname : r.device? other with _ | i
    · simp only [attempt, hname] at hok
      cases hok
      simp [Attempt.opened?, Attempt.used?, hname]
    · simp only [attempt, hname] at hok
      obtain ⟨e | h, hopen, hreturn, -⟩ := Act.of_run_bind hok
      · cases hreturn
        simp [Attempt.opened?_of_run hname hopen, Attempt.used?, Except.toOption]
      · cases hreturn
        have hqueue : ((r.addHandle other h).count).queue name = _ := queue_addHandle
        rw [Attempt.opened?_of_run hname hopen, hqueue]
        by_cases heq : other = name
        · simp [Attempt.used?, Except.toOption, heq]
        · simp [Attempt.used?, heq]
  | closeHandle other =>
    refine (List.append_nil _).trans ?_
    rcases htake : r.takeHandle? other with _ | ⟨h, rest⟩
    · simp only [attempt, htake] at hok
      cases hok
      simp [Attempt.used?, htake]
    · simp only [attempt, htake] at hok
      obtain ⟨closed, -, hreturn, -⟩ := Act.of_run_bind hok
      cases hreturn
      simp only [Attempt.used?, htake, Option.map_some]
      exact queue_eq_of_take htake name
  | transferFailed other =>
    refine (List.append_nil _).trans ?_
    rcases htake : r.takeHandle? other with _ | ⟨h, rest⟩
    · simp only [attempt, htake] at hok
      cases hok
      simp [Attempt.used?, htake]
    · simp only [attempt, htake] at hok
      obtain ⟨tally, -, hreturn, -⟩ := Act.of_run_bind hok
      cases hreturn
      simp only [Attempt.used?, htake, Option.map_some]
      exact queue_eq_of_take htake name
  | sleep millis =>
    cases hok
    exact List.append_nil _

/-- A handle is opened on the device of its name, by the bus. -/
theorem run_of_opened? (host : Host κ τ)
    (hopen : Attempt.opened? b name ⟨step, r, w⟩ = some h) :
    step = .openHandle name ∧ ∃ i, ((Act.openDevice b i).run w).result = some (.ok h) ∧
      (attempt host b r step).run w =
        { result := some (.ok (), (r.addHandle name h).count)
          world := ((Act.openDevice b i).run w).world
          notices := ((Act.openDevice b i).run w).notices } := by
  cases step with
  | openHandle other =>
    rcases hname : r.device? other with _ | i
    · simp [Attempt.opened?, hname] at hopen
    obtain ⟨answer, hanswer⟩ : ∃ answer, ((Act.openDevice b i).run w).result = some answer :=
      Act.closed_returns.openDevice (fun _ _ => Act.returns_openHandle) w
    rw [Attempt.opened?_of_run hname hanswer] at hopen
    split at hopen
    next heq =>
      obtain rfl := heq
      rcases answer with e | k
      · cases hopen
      · cases hopen
        refine ⟨rfl, i, hanswer, ?_⟩
        simp only [attempt, hname, Act.run_bind_of_result hanswer, Act.run_pure, List.append_nil]
    next => cases hopen
  | _ => cases hopen

/-- A handle is opened under the next number. -/
theorem number_of_opened? (host : Host κ τ) (hopen : Attempt.opened? b name ⟨step, r, w⟩ = some h) :
    h.id.val = w.nextOpen ∧
      ((attempt host b r step).run w).world.nextOpen = w.nextOpen + 1 := by
  obtain ⟨-, i, hanswer, hrun⟩ := run_of_opened? host hopen
  obtain ⟨hid, hnext⟩ := Act.number_of_openDevice hanswer
  rw [hrun]
  exact ⟨hid, hnext⟩

/-- An attempt leaves a bench whose names lead to devices. -/
theorem leads_of_attempt (hr : ∀ inv, (host.react inv).Obeys (SameDevices b))
    (hret : ∀ inv, (host.react inv).Returns) (hs : (w.bench b r).Leads)
    (hok : ((attempt host b r step).run w).result = some (answer, r')) :
    (((attempt host b r step).run w).world.bench b r').Leads := by
  rcases attempt_outcome hr hret hs with ⟨error, -, hrun⟩ | ⟨-, r'', hstep, hanswer⟩
  · rw [hrun] at hok ⊢
    cases hok
    exact hs
  · obtain rfl : r' = r'' := congrArg Prod.snd (Option.some.inj (hok.symm.trans hanswer))
    have hworld : ((attempt host b r step).run w).world = ((apply host b r step).run w).world :=
      congrArg Effect.world run_attempt
    rw [hworld]
    exact hs.takes (takes_of_apply hr hstep)

/-- No number of a handle is given back in an attempt. -/
theorem rising_attempt (hr : ∀ inv, (host.react inv).Obeys Rising) :
    w.nextOpen ≤ ((attempt host b r step).run w).world.nextOpen := by
  rw [run_attempt]
  exact Act.rising_parts.toClosed.apply (Act.rising_parts.calm hr) w

/-! ## The ledger -/

/-- One more attempt adds what it does. -/
theorem filterMap_snoc {f : Attempt κ τ → Option OpenHandle} {a : Attempt κ τ} :
    (past ++ [a]).filterMap f = past.filterMap f ++ (f a).toList := by
  rw [List.filterMap_append]
  rcases h : f a with _ | k
  · simp [h]
  · simp [h]

/-- **The books on the handles of a replay**, with what its past attempts opened and
used under each name. -/
structure Ledger (b : BusId) (past : List (Attempt κ τ)) (r : Replay) (w : World κ τ) : Prop where
  /-- What was opened has been used, first come first, or is in the queue. -/
  balance (name : String) : past.filterMap (Attempt.opened? b name) =
    past.filterMap (Attempt.used? name) ++ r.queue name
  /-- No handle is opened twice. -/
  distinct (name : String) : (past.filterMap (Attempt.opened? b name)).Nodup
  /-- The number of the next handle is new. -/
  lt (name : String) : ∀ h ∈ past.filterMap (Attempt.opened? b name), h.id.val < w.nextOpen

namespace Ledger

theorem fresh : Ledger b [] {} w where
  balance _ := rfl
  distinct _ := List.nodup_nil
  lt _ := List.forall_mem_nil _

/-- Numbers may be drawn elsewhere. -/
theorem mono (hl : Ledger b past r w) (hnext : w.nextOpen ≤ w'.nextOpen) :
    Ledger b past r w' where
  balance := hl.balance
  distinct := hl.distinct
  lt name h hmem := Nat.lt_of_lt_of_le (hl.lt name h hmem) hnext

/-- **An attempt keeps the books**, where no number of a handle is given back. -/
theorem attempt (hnext : w.nextOpen ≤ ((Replay.attempt host b r step).run w).world.nextOpen)
    (hok : ((Replay.attempt host b r step).run w).result = some (answer, r'))
    (hl : Ledger b past r w) :
    Ledger b (past ++ [⟨step, r, w⟩]) r' ((Replay.attempt host b r step).run w).world := by
  generalize ha : (⟨step, r, w⟩ : Attempt κ τ) = a
  have hadded : ∀ f : Attempt κ τ → Option OpenHandle,
      (past ++ [a]).filterMap f = past.filterMap f ++ (f a).toList := fun _ => filterMap_snoc
  refine ⟨fun name => ?balance, fun name => ?distinct, fun name k hmem => ?lt⟩
  case balance =>
    have hqueue := queue_of_attempt hok name
    rw [ha] at hqueue
    rw [hadded, hadded, hl.balance, List.append_assoc, hqueue, List.append_assoc]
  case distinct =>
    rw [hadded]
    rcases hopen : a.opened? b name with _ | k
    · rw [Option.toList_none, List.append_nil]
      exact hl.distinct name
    · obtain ⟨hid, -⟩ := number_of_opened? host (ha ▸ hopen)
      refine (hl.distinct name).append (List.nodup_singleton _) (List.disjoint_singleton.2 ?_)
      exact fun hmem => Nat.lt_irrefl _ (hid ▸ hl.lt name k hmem)
  case lt =>
    rw [hadded] at hmem
    rcases List.mem_append.1 hmem with hmem | hmem
    · exact Nat.lt_of_lt_of_le (hl.lt name k hmem) hnext
    · obtain ⟨hid, hdrawn⟩ := number_of_opened? host (ha ▸ Option.mem_toList.1 hmem)
      omega

/-- **The queue of a name is empty if and only if its handles have all been used.** -/
theorem spent_iff (hl : Ledger b past r w) : Spent b past name ↔ r.queue name = [] := by
  have hbalance := hl.balance name
  have hdistinct := hl.distinct name
  rw [hbalance] at hdistinct
  rw [Spent, hbalance]
  constructor
  · intro hspent
    refine List.eq_nil_iff_forall_not_mem.2 fun h hmem => ?_
    exact List.disjoint_of_nodup_append hdistinct (hspent h (List.mem_append_right _ hmem)) hmem
  · intro hnil h hmem
    rw [hnil, List.append_nil] at hmem
    exact hmem

end Ledger

/-! ## Runs -/

/-- Names lead to devices and the books are kept, whatever was tried. -/
theorem Tried.kept (hr : ∀ inv, (host.react inv).Obeys (Undisturbed b))
    (hret : ∀ inv, (host.react inv).Returns) (hstart : (start.devices b).ids = [])
    (h : Tried host b start past r w) : (w.bench b r).Leads ∧ Ledger b past r w := by
  have hsame : ∀ inv, (host.react inv).Obeys (SameDevices b) :=
    fun inv => (hr inv).mono fun _ _ _ => Undisturbed.toSameDevices
  have hrising : ∀ inv, (host.react inv).Obeys Rising :=
    fun inv => (hr inv).mono fun _ _ _ => Undisturbed.rising
  induction h with
  | start =>
    refine ⟨⟨List.nodup_nil, List.nodup_nil, nofun, ?_, ?_, nofun, nofun⟩, .fresh⟩
    all_goals simp [World.bench, hstart]
  | step step _ hok ih =>
    exact ⟨leads_of_attempt hsame hret ih.1 hok, ih.2.attempt (rising_attempt hrising) hok⟩
  | @meanwhile past r w w' ns _ hbetween ih =>
    have hbench : w'.bench b r = w.bench b r := bench_of_same hbetween.toSameDevices
    exact ⟨hbench ▸ ih.1, ih.2.mono hbetween.rising⟩

/-- **What one more attempt comes to**, after others. -/
structure Foreseen (host : Host κ τ) (b : BusId) (past : List (Attempt κ τ)) (r : Replay)
    (w : World κ τ) (step : Step) : Prop where
  /-- It comes to an end. -/
  ends : ∃ answer r', ((attempt host b r step).run w).result = some (answer, r')
  /-- It fails for what it lacks, by the names of devices and the handles used up. -/
  fails (error : StepError) :
    (∃ r', ((attempt host b r step).run w).result = some (.error error, r')) ↔
      Lacks (r.names.map Prod.fst) (Spent b past) step error
  /-- The bus is never the reason. -/
  offBus (e : BusError) (r' : Replay) :
    ((attempt host b r step).run w).result ≠ some (.error (.bus e), r')
  /-- If it fails, it has changed nothing and nobody has heard of it. -/
  atomic (error : StepError) (r' : Replay) :
    ((attempt host b r step).run w).result = some (.error error, r') →
      r' = r ∧ ((attempt host b r step).run w).world = w ∧
        ((attempt host b r step).run w).notices = []

/-- **A step fails exactly for the names and the handles it lacks, and then does
nothing**, also after steps that failed, on names that were used again and with handles
left on devices that are gone. -/
theorem Tried.fails_exactly (hr : ∀ inv, (host.react inv).Obeys (Undisturbed b))
    (hret : ∀ inv, (host.react inv).Returns) (hstart : (start.devices b).ids = [])
    (h : Tried host b start past r w) (step : Step) : Foreseen host b past r w step := by
  obtain ⟨hleads, hledger⟩ := h.kept hr hret hstart
  have hspent : ∀ name, Spent b past name ↔ r.queue name = [] := fun _ => hledger.spent_iff
  have hlacks : ∀ error, Lacks (r.names.map Prod.fst) (Spent b past) step error ↔
      r.lacks step error :=
    fun _ => ⟨.congr hspent, .congr fun name => (hspent name).symm⟩
  have hsame : ∀ inv, (host.react inv).Obeys (SameDevices b) :=
    fun inv => (hr inv).mono fun _ _ _ => Undisturbed.toSameDevices
  have houtcome : _ ∨ (∀ error, ¬ r.lacks step error) ∧ _ := attempt_outcome hsame hret hleads
  have hfails : ∀ error,
      (∃ r', ((attempt host b r step).run w).result = some (.error error, r')) ↔
        Lacks (r.names.map Prod.fst) (Spent b past) step error := by
    intro error
    rw [hlacks]
    rcases houtcome with ⟨error', hlack, hrun⟩ | ⟨hno, r', -, hanswer⟩
    · rw [hrun]
      refine ⟨fun ⟨_, heq⟩ => ?_, fun hlack' => ?_⟩
      · cases heq
        exact hlack
      · exact ⟨r, by rw [hlack.unique hlack']⟩
    · refine iff_of_false ?_ (hno error)
      rintro ⟨k, hk⟩
      cases hanswer.symm.trans hk
  refine ⟨?ends, hfails, fun e r' hbus => ?offBus, fun error r' hfail => ?atomic⟩
  case ends =>
    rcases houtcome with ⟨error, -, hrun⟩ | ⟨-, r', -, hanswer⟩
    · exact ⟨_, _, congrArg Effect.result hrun⟩
    · exact ⟨_, _, hanswer⟩
  case offBus => cases (hfails _).1 ⟨r', hbus⟩
  case atomic =>
    rcases houtcome with ⟨error', -, hrun⟩ | ⟨-, r'', -, hanswer⟩
    · rw [hrun] at hfail ⊢
      cases hfail
      exact ⟨rfl, rfl, rfl⟩
    · cases hanswer.symm.trans hfail

/-- A name is used again while a handle on its former device is left, and a transfer
fails on that handle: no name leads to the new device any more, so it cannot be
unplugged. A transfer had failed before any handle was opened, which changed nothing. -/
theorem fails_exactly_after_reuse :
    ∃ past r w, Tried Host.idle ⟨1⟩ Act.oneBus past r w ∧
      past.map Attempt.step = [.plug "a" 1 1 0, .transferFailed "a", .openHandle "a",
        .unplug "a", .plug "a" 1 1 0, .transferFailed "a"] ∧
      Foreseen Host.idle ⟨1⟩ past r w (.unplug "a") ∧
      Lacks (r.names.map Prod.fst) (Spent ⟨1⟩ past) (.unplug "a") (.notPlugged "a") := by
  have hidle : ∀ inv, (Host.idle.react inv : Act Unit Unit Wish).Obeys (Undisturbed ⟨1⟩) :=
    fun _ => Act.obeys_pure _
  have hreturns : ∀ inv, (Host.idle.react inv : Act Unit Unit Wish).Returns :=
    fun _ => Act.returns_pure _
  have htried : Tried Host.idle ⟨1⟩ Act.oneBus _ _ _ :=
    Tried.start.step (.plug "a" 1 1 0) rfl |>.step (.transferFailed "a") rfl
      |>.step (.openHandle "a") rfl |>.step (.unplug "a") rfl |>.step (.plug "a" 1 1 0) rfl
      |>.step (.transferFailed "a") rfl
  refine ⟨_, _, _, htried, rfl, htried.fails_exactly hidle hreturns rfl _, ?_⟩
  exact .unplug List.not_mem_nil

end Replay
end DeviceWatch
