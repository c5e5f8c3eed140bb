import DeviceWatch.Proofs.Attachment
import DeviceWatch.Proofs.Disconnection
import DeviceWatch.Proofs.Driving
/-!
# A detector serves its queue in order

The account of a detector that was driven by any moves: what it applied of the commands
that were queued, what that did to contexts and buses, what it published, and whom it
answered. Nobody who waits for an answer waits for ever: steps enough for what is queued
bring the answer, or stop the detector.
-/

namespace DeviceWatch

variable {κ τ α : Type}

/-- What a caller is told who waits for the answer to a token: nothing yet as long as the
answer may come. -/
def Detector.answer? (x : Detector) (token : Nat) : Option (Except DetectorError Unit) :=
  if x.answered.contains token then some (.ok ())
  else if x.running then none else some (.error .stopped)

theorem Detector.of_answer? {x : Detector} {token : Nat} {answer : Except DetectorError Unit}
    (h : x.answer? token = some answer) :
    (if x.answered.contains token then .ok () else .error .stopped) = answer := by
  rw [answer?] at h
  split at h
  next hmem =>
    rw [if_pos hmem]
    exact Option.some.inj h
  next hmem =>
    rw [if_neg hmem]
    split at h
    · cases h
    · exact Option.some.inj h

/-- The commands that a detector applied, in order: all that it took but the one that
stopped it. -/
def applied (d : DetectorId) (ns : List Notice) : List Command :=
  (taken d ns).filter (· != .shutdown)

/-- A first part of a list ends before a place or goes beyond it. -/
theorem isPrefix_cases {l before after : List α} {a : α} (h : l <+: before ++ a :: after) :
    l <+: before ∨ before ++ [a] <+: l := by
  have hlonger : before ++ [a] <+: before ++ a :: after := ⟨after, by simp⟩
  rcases List.prefix_or_prefix_of_prefix h hlonger with hl | hl
  · rcases List.prefix_concat_iff.1 hl with rfl | hl
    · exact .inr (List.prefix_refl _)
    · exact .inl hl
  · exact .inr hl

/-- Who makes a demand learns what became of it, and nobody else does. -/
theorem Act.run_move_demand {host : Host κ τ} {d : DetectorId} {x : Demand} {v : World κ τ} :
    (move host d (.demand x)).run v = { (demand d x).run v with result := some () } := by
  obtain ⟨answer, hanswer⟩ := returns_demand (d := d) (x := x) v
  rw [move, run_bind_of_result hanswer, run_pure, List.append_nil]

namespace Act

variable {host : Host κ τ} {d : DetectorId} {v : World κ τ}

theorem steps_eq (n : Nat) : steps host d n = moves host d (List.replicate n .step) := by
  induction n with
  | zero => rfl
  | succ n ih => rw [steps, ih, List.replicate_succ, moves, move]

/-- Who waits for a detector makes a demand, and lets the detector take steps. -/
theorem sync_eq : sync host d = (do
    let token := ((← get).detector d).syncs
    match ← demand d .sync with
    | .error e => return .error e
    | .ok () =>
      moves host d (List.replicate ((← get).detector d).queue.length .step)
      if ((← get).detector d).answered.contains token then return .ok ()
      else return .error .stopped) := by
  simp only [sync, demand, bind_assoc, steps_eq]
  ext w : 1
  rfl

theorem run_sync_stopped (hstopped : (v.detector d).running = false) :
    ((sync host d).run v).result = some (.error .stopped) := by
  have hdemand := run_demand (d := d) (x := .sync) v
  rw [hstopped] at hdemand
  simp only [sync_eq, run_bind, run_get, Effect.andThen_some, hdemand, Bool.false_eq_true, if_false]
  rfl

theorem run_sync {out : Effect κ τ Unit} (hruns : (v.detector d).running = true)
    (hout : (moves host d (List.replicate
      (((demand d .sync).run v).world.detector d).queue.length .step)).run
      ((demand d .sync).run v).world = out) (hresult : out.result = some ()) :
    (sync host d).run v =
      { result := some (if (out.world.detector d).answered.contains (v.detector d).syncs
          then .ok () else .error .stopped)
        world := out.world
        notices := ((demand d .sync).run v).notices ++ out.notices } := by
  have hasked : ((demand d .sync).run v).result = some (.ok ()) := by
    rw [run_demand, if_pos hruns]
  rw [sync_eq, run_bind, run_get, Effect.andThen_some, run_bind_of_result hasked]
  simp only [run_bind, run_get, hout, Effect.andThen, hresult]
  split
  · simp
  · simp

end Act

namespace Driven

variable {host : Host κ τ} {d : DetectorId} {b : BusId} {w v v' : World κ τ}
variable {ns ms : List Notice} {t : Nat} {before after : List Command}

theorem move (hhost : host.Aloof) (m : Move) (h : Driven host d b w ns v) :
    ((Act.move host d m).run v).result = some () ∧
      Driven host d b w (ns ++ ((Act.move host d m).run v).notices)
        ((Act.move host d m).run v).world := by
  cases m with
  | demand x =>
    rw [Act.run_move_demand]
    exact ⟨rfl, h.demand x⟩
  | step => exact ⟨(h.step hhost).1, (h.step hhost).2.2⟩

/-- **A run keeps the account.** -/
theorem moves (hhost : host.Aloof) (ms : List Move) (h : Driven host d b w ns v) :
    ((Act.moves host d ms).run v).result = some () ∧
      Driven host d b w (ns ++ ((Act.moves host d ms).run v).notices)
        ((Act.moves host d ms).run v).world := by
  induction ms generalizing ns v with
  | nil =>
    rw [Act.moves, Act.run_pure, List.append_nil]
    exact ⟨rfl, h⟩
  | cons m rest ih =>
    obtain ⟨hresult, hmove⟩ := h.move hhost m
    rw [Act.moves, Act.run_bind_of_result hresult, ← List.append_assoc]
    exact ih hmove

/-! ## What was taken -/

theorem taken_isPrefix (h : Driven host d b w ns v) : taken d ns <+: queued d ns := by
  cases h.phase with
  | runs _ hqueued => exact ⟨_, hqueued.symm⟩
  | stopped _ _ _ _ _ hfirst => exact hfirst

/-- A detector runs as long as it took nothing that stops it. -/
theorem running_iff (h : Driven host d b w ns v) :
    (v.detector d).running = true ↔ .shutdown ∉ taken d ns := by
  cases h.phase with
  | runs hruns _ hnot => exact iff_of_true hruns hnot
  | stopped before hstops _ hlast =>
    refine iff_of_false (by simp [hstops]) (not_not_intro ?_)
    rw [hlast]
    exact List.mem_append_right _ (List.mem_singleton_self _)

/-- A detector that stopped does not run again. -/
theorem runs_before (h : Driven host d b w ns v) (hlast : Driven host d b w (ns ++ ms) v')
    (hruns : (v'.detector d).running = true) : (v.detector d).running = true := by
  have hnot := hlast.running_iff.1 hruns
  rw [taken_append, List.mem_append] at hnot
  exact h.running_iff.2 fun hmem => hnot (.inl hmem)

/-- What a running detector was asked for and did not take is still in its queue. -/
theorem queued_eq (h : Driven host d b w ns v) (hruns : (v.detector d).running = true) :
    queued d ns = taken d ns ++ (v.detector d).queue := by
  cases h.phase with
  | runs _ hqueued => exact hqueued
  | stopped _ hstops =>
    rw [hruns] at hstops
    cases hstops

/-- **Nothing stays in the queue**: unless it stops, a detector takes what it was asked for
in as many steps. -/
theorem progress (hhost : host.Aloof) (ms : List Move) (h : Driven host d b w ns v) {n : Nat}
    (hn : n ≤ (queued d ns).length) (hcount : n ≤ (taken d ns).length + ms.count .step)
    (hruns : (((Act.moves host d ms).run v).world.detector d).running = true) :
    n ≤ (taken d (ns ++ ((Act.moves host d ms).run v).notices)).length := by
  induction ms generalizing ns v with
  | nil =>
    rw [Act.moves, Act.run_pure, List.append_nil]
    exact hcount
  | cons m rest ih =>
    obtain ⟨hresult, hmove⟩ := h.move hhost m
    have hlast := (hmove.moves hhost rest).2
    rw [Act.moves, Act.run_bind_of_result hresult] at hruns ⊢
    rw [← List.append_assoc]
    refine ih hmove ?_ ?_ hruns
    · rw [queued_append, List.length_append]
      omega
    rw [taken_append, List.length_append]
    cases m with
    | demand x =>
      have hother : Move.demand x ≠ .step := nofun
      rw [List.count_cons_of_ne hother] at hcount
      omega
    | step =>
      rw [List.count_cons_self] at hcount
      -- A detector that runs in the end runs now, so a step takes what there is.
      have hqueued := h.queued_eq (h.runs_before hmove (hmove.runs_before hlast hruns))
      have htook : taken d ((Act.move host d .step).run v).notices = _ := (h.step hhost).2.1
      rw [htook]
      rcases hqueue : (v.detector d).queue with _ | ⟨command, left⟩
      · rw [hqueue, List.append_nil] at hqueued
        rw [hqueued] at hn
        omega
      · rw [List.take_succ_cons, List.length_cons]
        omega

/-! ## Who was answered -/

theorem answered_iff (h : Driven host d b w ns v) :
    t ∈ (v.detector d).answered ↔ .sync t ∈ taken d ns := by
  rw [h.answered, List.mem_reverse, mem_tokens]

/-- Every token is queued once. -/
theorem sync_once (h : Driven host d b w ns v) (hq : queued d ns = before ++ .sync t :: after) :
    .sync t ∉ before := by
  intro hmem
  have hsorted := h.drawn.sorted
  rw [hq, tokens_append, List.pairwise_append] at hsorted
  have htoken : t ∈ tokens (.sync t :: after) := mem_tokens.2 List.mem_cons_self
  exact Nat.lt_irrefl t (hsorted.2.2 t (mem_tokens.2 hmem) t htoken)

/-- Who is answered was waited for: all that was queued before was taken before. -/
theorem sync_taken_iff (h : Driven host d b w ns v)
    (hq : queued d ns = before ++ .sync t :: after) :
    .sync t ∈ taken d ns ↔ before ++ [.sync t] <+: taken d ns := by
  constructor
  · intro hmem
    rcases isPrefix_cases (hq ▸ h.taken_isPrefix) with hshort | hlong
    · exact absurd (hshort.subset hmem) (h.sync_once hq)
    · exact hlong
  · intro hlong
    exact hlong.subset (List.mem_append_right _ (List.mem_singleton_self _))

/-- What a running detector applied is all that it took. One that stopped took one command
more than it applied, and that is the last. -/
theorem applied_eq (h : Driven host d b w ns v) :
    applied d ns = taken d ns ∧ .shutdown ∉ taken d ns ∨
      taken d ns = applied d ns ++ [.shutdown] := by
  have hkeeps : ∀ l : List Command, .shutdown ∉ l → l.filter (· != .shutdown) = l := by
    intro l hl
    refine List.filter_eq_self.2 fun command hmem => bne_iff_ne.2 ?_
    rintro rfl
    exact hl hmem
  cases h.phase with
  | runs _ _ hnot => exact .inl ⟨hkeeps _ hnot, hnot⟩
  | stopped before _ _ hlast hnot =>
    right
    rw [applied, hlast, List.filter_append, hkeeps before hnot]
    simp

theorem not_mem_applied : .shutdown ∉ applied d ns := by
  simp [applied]

/-- **What was applied is a first part of what was queued before the detector was told to
stop.** -/
theorem applied_isPrefix (h : Driven host d b w ns v) :
    applied d ns <+: (queued d ns).takeWhile (· != .shutdown) := by
  have hfirst : applied d ns <+: queued d ns := by
    refine List.IsPrefix.trans ?_ h.taken_isPrefix
    rcases h.applied_eq with ⟨heq, -⟩ | heq
    · exact heq ▸ List.prefix_refl _
    · exact ⟨_, heq.symm⟩
  obtain ⟨more, hmore⟩ := hfirst
  rw [← hmore, List.takeWhile_append_of_pos]
  · exact List.prefix_append _ _
  · rintro command hmem
    refine bne_iff_ne.2 ?_
    rintro rfl
    exact not_mem_applied hmem

/-- The command that stops a detector does nothing to its bus. -/
theorem directAll_applied (h : Driven host d b w ns v) :
    Act.directAll host b (applied d ns) = Act.directAll host b (taken d ns) := by
  rcases h.applied_eq with ⟨heq, -⟩ | heq
  · rw [heq]
  · rw [heq, Act.directAll_concat]
    simp [Act.direct]

/-! ## Answers -/

/-- An answer comes after all that was queued before was applied. -/
theorem applied_of_answer (h : Driven host d b w ns v)
    (hq : queued d ns = before ++ .sync t :: after)
    (hok : (v.detector d).answer? t = some (.ok ())) : before ++ [.sync t] <+: applied d ns := by
  have hanswered : t ∈ (v.detector d).answered := by
    rw [Detector.answer?] at hok
    split at hok
    next hmem => simpa using hmem
    next =>
      split at hok
      · cases hok
      · cases hok
  have hlong := (h.sync_taken_iff hq).1 (h.answered_iff.1 hanswered)
  rcases h.applied_eq with ⟨heq, -⟩ | heq
  · rwa [heq]
  · rw [heq, List.prefix_concat_iff] at hlong
    rcases hlong with hsame | hlong
    · have hlast := congrArg List.getLast? hsame
      simp at hlast
    · exact hlong

/-- **Once it was taken or the detector stopped, a call is answered**: with an error if it
was queued after what stops the detector, and not otherwise. -/
theorem answer_of_taken (h : Driven host d b w ns v)
    (hq : queued d ns = before ++ .sync t :: after)
    (hend : (v.detector d).running = true → before ++ [.sync t] <+: taken d ns) :
    (v.detector d).answer? t =
      some (if .shutdown ∈ before then .error .stopped else .ok ()) := by
  have hmem : (v.detector d).answered.contains t = true ↔ before ++ [.sync t] <+: taken d ns := by
    rw [List.contains_iff_mem, h.answered_iff, h.sync_taken_iff hq]
  by_cases hlong : before ++ [.sync t] <+: taken d ns
  · have hok : (v.detector d).answer? t = some (.ok ()) := by
      rw [Detector.answer?, if_pos (hmem.2 hlong)]
    have happlied := h.applied_of_answer hq hok
    rw [hok, if_neg]
    exact fun hstop => not_mem_applied (happlied.subset (List.mem_append_left _ hstop))
  · have hstopped : ¬ (v.detector d).running = true := fun hruns => hlong (hend hruns)
    have hstop : .shutdown ∈ taken d ns := Classical.not_not.1 (mt h.running_iff.2 hstopped)
    have hshort := (isPrefix_cases (hq ▸ h.taken_isPrefix)).resolve_right hlong
    rw [Detector.answer?, if_neg (mt hmem.1 hlong), if_neg hstopped,
      if_pos (hshort.subset hstop)]

/-- **Every call is answered** after as many steps as there are commands in the queue. -/
theorem answer_after (hhost : host.Aloof) (h : Driven host d b w ns v) {ms : List Move}
    (hq : queued d ns = before ++ .sync t :: after)
    (hsteps : (v.detector d).queue.length ≤ ms.count .step) :
    (((Act.moves host d ms).run v).world.detector d).answer? t =
      some (if .shutdown ∈ before then .error .stopped else .ok ()) := by
  have hlast := (h.moves hhost ms).2
  generalize hout : (Act.moves host d ms).run v = out at hlast ⊢
  have hq' : queued d (ns ++ out.notices) =
      before ++ .sync t :: (after ++ queued d out.notices) := by
    rw [queued_append, hq, List.append_assoc, List.cons_append]
  refine hlast.answer_of_taken hq' fun hruns => (hlast.sync_taken_iff hq').1 ?_
  have hqueued := h.queued_eq (h.runs_before hlast hruns)
  have htook : (queued d ns).length ≤ (taken d (ns ++ out.notices)).length := by
    rw [← hout] at hruns ⊢
    refine h.progress hhost ms (Nat.le_refl _) ?_ hruns
    rw [hqueued, List.length_append]
    omega
  have hall : queued d ns <+: taken d (ns ++ out.notices) := by
    refine List.prefix_of_prefix_length_le ?_ hlast.taken_isPrefix htook
    rw [queued_append]
    exact List.prefix_append _ _
  exact hall.subset (hq ▸ List.mem_append_right _ List.mem_cons_self)

/-- **Who waits is told in the end**, and is told of success only after all that was queued
before was applied. -/
theorem sync (hhost : host.Aloof) (h : Driven host d b w ns v) :
    ((Act.sync host d).run v).result =
        some (if .shutdown ∈ queued d ns then .error .stopped else .ok ()) ∧
      (.shutdown ∉ queued d ns →
        queued d ns <+: applied d (ns ++ ((Act.sync host d).run v).notices)) := by
  rcases hrunning : (v.detector d).running with _ | _
  · have hstop : .shutdown ∈ queued d ns := by
      refine h.taken_isPrefix.subset (Classical.not_not.1 (mt h.running_iff.2 ?_))
      rw [hrunning]
      exact Bool.false_ne_true
    rw [Act.run_sync_stopped hrunning, if_pos hstop]
    exact ⟨rfl, fun hnot => absurd hstop hnot⟩
  have hasked := h.demand .sync
  have hq : queued d (ns ++ ((Act.demand d .sync).run v).notices) =
      queued d ns ++ .sync (v.detector d).syncs :: [] := by
    rw [queued_append, Act.run_demand, if_pos hrunning]
    simp [queued, Demand.command]
  have hsteps : ∀ n, n ≤ (List.replicate n Move.step).count .step :=
    fun _ => Nat.le_of_eq List.count_replicate_self.symm
  have hanswer := hasked.answer_after hhost hq (hsteps _)
  obtain ⟨hresult, hlast⟩ := hasked.moves hhost
    (List.replicate (((Act.demand d .sync).run v).world.detector d).queue.length .step)
  generalize hout : (Act.moves host d (List.replicate _ .step)).run _ = out
    at hanswer hresult hlast
  rw [Act.run_sync hrunning hout hresult, Detector.of_answer? hanswer]
  refine ⟨rfl, fun hnot => ?_⟩
  rw [if_neg hnot] at hanswer
  have hlater : queued d (ns ++ ((Act.demand d .sync).run v).notices ++ out.notices) =
      queued d ns ++ .sync (v.detector d).syncs :: queued d out.notices := by
    rw [queued_append, hq, List.append_assoc]
    rfl
  rw [← List.append_assoc]
  exact (List.prefix_append _ _).trans (hlast.applied_of_answer hlater hanswer)

end Driven

/-- **What there is to tell of a detector** that was driven from a world. -/
structure Served (host : Host κ τ) (d : DetectorId) (b : BusId) (w : World κ τ)
    (e : Effect κ τ Unit) : Prop where
  /-- No move gets stuck. -/
  returns : e.result = some ()
  /-- The commands are applied in order and each once, up to what stops the detector. -/
  order : applied d e.notices <+: (queued d e.notices).takeWhile (· != .shutdown)
  /-- Contexts and buses are what they are if the bus is driven directly. -/
  state : e.world.apart = ((Act.directAll host b (applied d e.notices)).run w).world.apart
  /-- What is published is what the bus then answers. -/
  reports : ((Act.directAll host b (applied d e.notices)).run w).result =
    some (published d e.notices)
  mailboxes : (e.world.detector d).mailboxes =
    Mailbox.fill (w.detector d).mailboxes (published d e.notices)
  /-- Who is answered was waited for. -/
  answers : ∀ before t after, queued d e.notices = before ++ .sync t :: after →
    (e.world.detector d).answer? t = some (.ok ()) → before ++ [.sync t] <+: applied d e.notices
  /-- As many steps as there are commands in the queue answer every call, whatever else
  is queued meanwhile. -/
  answered : ∀ before t after later, queued d e.notices = before ++ .sync t :: after →
    (e.world.detector d).queue.length ≤ later.count .step →
    (((Act.moves host d later).run e.world).world.detector d).answer? t =
      some (if .shutdown ∈ before then .error .stopped else .ok ())
  /-- So is a call that is waited for at once. -/
  sync : ((Act.sync host d).run e.world).result =
    some (if .shutdown ∈ queued d e.notices then .error .stopped else .ok ())
  synced : .shutdown ∉ queued d e.notices → queued d e.notices <+:
    applied d (e.notices ++ ((Act.sync host d).run e.world).notices)

/-- **A detector is its bus driven in order**, whatever is asked of it between its steps
and under them. -/
theorem Host.Aloof.serves {host : Host κ τ} {d : DetectorId} {b : BusId} {w : World κ τ}
    (hhost : host.Aloof) (hw : w.Started d b) (ms : List Move) :
    Served host d b w ((Act.moves host d ms).run w) ∧
      ∀ v i, i ∉ (v.devices b).ids →
        (Act.direct host b (.unplug i)).run v = { result := some none, world := v } := by
  obtain ⟨hresult, hdriven⟩ := (Driven.start hw).moves hhost ms
  rw [List.nil_append] at hdriven
  refine ⟨⟨hresult, hdriven.applied_isPrefix, ?_, ?_, hdriven.mailboxes, ?_, ?_, ?_, ?_⟩, ?_⟩
  · rw [hdriven.directAll_applied]
    exact hdriven.apart
  · rw [hdriven.directAll_applied]
    exact hdriven.published
  · exact fun _ _ _ hq hok => hdriven.applied_of_answer hq hok
  · exact fun _ _ _ _ hq hsteps => hdriven.answer_after hhost hq hsteps
  · exact (hdriven.sync hhost).1
  · exact (hdriven.sync hhost).2
  · intro v i hi
    rw [Act.direct, Act.run_bind, Act.run_unplug_of_none (Roster.detach?_eq_none_iff.2 hi)]
    rfl

/-! ## A callback that unplugs what arrives -/

namespace Act

/-- A detector that was just started runs, and nothing was asked of it. -/
theorem startDetector_started {b : BusId} {w : World κ τ} :
    ((startDetector b).run w).world.Started ⟨w.nextDetector⟩ b := by
  have hfresh : ((startDetector b).run w).world.detector ⟨w.nextDetector⟩ = { bus := b } :=
    Store.get_set_self ..
  exact ⟨by rw [hfresh], by rw [hfresh], by rw [hfresh], by rw [hfresh]⟩

/-- A callback that asks for each device that arrives to be unplugged. -/
def sendingOff (d : DetectorId) : Host Unit Unit where
  react inv := do
    if inv.event = .arrived then
      let _ ← demand d (.unplug inv.device.id)
    return .rearm
  order _ ids := ids
  order_perm _ _ := .refl _

theorem sendingOff_aloof {d : DetectorId} : (sendingOff d).Aloof where
  react inv := by
    by_cases harrived : inv.event = .arrived
    · simp only [sendingOff, if_pos harrived]
      exact .bind (.demand d _) fun _ => .pure _
    · simp only [sendingOff, if_neg harrived]
      exact .pure _
  steady _ _ _ _ := rfl

/-- A world with a detector, and with that callback. -/
def guarded : World Unit Unit :=
  ((startDetector ⟨1⟩).run ((register (sendingOff ⟨1⟩) ⟨1⟩
    ((Request.ofEvents .all).withProgram ())).run oneBus).world).world

/-- A device is plugged in, and the detector is told to stop between two calls. -/
def guardedRun : Effect Unit Unit Unit :=
  (moves (sendingOff ⟨1⟩) ⟨1⟩ [.demand (.plug { vendor := 1, product := 1 }), .demand .sync,
    .step, .step, .demand .shutdown, .demand .sync, .step]).run guarded

/-- The callback's demand is applied before that to stop. The second call and any other
end in an error. -/
theorem serves_guarded :
    guardedRun.world.apart = ((directAll (sendingOff ⟨1⟩) ⟨1⟩
        [.plug { vendor := 1, product := 1 }, .sync 0, .unplug ⟨1⟩]).run guarded).world.apart ∧
      (((moves (sendingOff ⟨1⟩) ⟨1⟩ [.step, .step]).run guardedRun.world).world.detector
        ⟨1⟩).answer? 1 = some (.error .stopped) ∧
      ((sync (sendingOff ⟨1⟩) ⟨1⟩).run guardedRun.world).result = some (.error .stopped) := by
  have hw : guarded.Started ⟨1⟩ ⟨1⟩ := startDetector_started
  obtain ⟨hserved, -⟩ := sendingOff_aloof.serves hw [.demand (.plug { vendor := 1, product := 1 }),
    .demand .sync, .step, .step, .demand .shutdown, .demand .sync, .step]
  have hqueued : queued ⟨1⟩ guardedRun.notices =
      [.plug { vendor := 1, product := 1 }, .sync 0, .unplug ⟨1⟩, .shutdown] ++ .sync 1 :: [] := by
    decide
  have hstop : .shutdown ∈ queued ⟨1⟩ guardedRun.notices := by decide
  have happlied : applied ⟨1⟩ guardedRun.notices =
      [.plug { vendor := 1, product := 1 }, .sync 0, .unplug ⟨1⟩] := by
    decide
  refine ⟨happlied ▸ hserved.state, hserved.answered _ _ _ [.step, .step] hqueued ?_, ?_⟩
  · decide
  · exact hserved.sync.trans (congrArg some (if_pos hstop))

end Act
end DeviceWatch
