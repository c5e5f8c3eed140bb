import DeviceWatch.Bus
import DeviceWatch.Proofs.Law
import DeviceWatch.Registration
/-!
# Acts by their parts

A property of acts that is closed under sequencing holds of a pass, a
registration or an act on a bus as soon as it holds of the primitive acts
these are built from. One lemma for each composite act says which parts
matter; obeying a law and returning are both closed, so neither is ever
argued along the text of a composite act again.
-/

namespace DeviceWatch

variable {κ τ α β : Type}

/-- A property of acts that doing nothing and reading the world have, and that
carries over from two acts to one after the other. -/
structure Act.Closed (P : (α : Type) → Act κ τ α → Prop) : Prop where
  pure {α : Type} (a : α) : P α (pure a)
  get : P _ get
  bind {α β : Type} {x : Act κ τ α} {f : α → Act κ τ β} :
    P α x → (∀ a, P β (f a)) → P β (x >>= f)

theorem Act.closed_obeys {L : Law κ τ} [L.Composes] :
    Act.Closed (κ := κ) (τ := τ) fun _ x => x.Obeys L where
  pure := obeys_pure
  get := obeys_get
  bind := Obeys.bind

theorem Act.closed_returns : Act.Closed (κ := κ) (τ := τ) fun _ x => x.Returns where
  pure := returns_pure
  get := returns_get
  bind := Returns.bind

namespace Act.Closed

variable {P : (α : Type) → Act κ τ α → Prop} {host : Host κ τ} {c : ContextId} {id : CallbackId}
variable {d : Device} {e : Event} {b : BusId}

theorem context (hP : Closed P) : P _ (Act.context c) :=
  hP.bind hP.get fun _ => hP.pure _

/-! ## Passes -/

theorem invoke (hP : Closed P) {program : κ} (hn : P _ (note (.delivered c id d e)))
    (hr : ∀ inv, P _ (host.react inv)) : P _ (Act.invoke host c id program d e) :=
  hP.bind hn fun _ => hr _

theorem visit (hP : Closed P) (hd : P _ (decide c id d e))
    (hi : ∀ program, P _ (Act.invoke host c id program d e))
    (hc : ∀ wish, P _ (commit c id wish)) : P _ (Act.visit host c d e id) := by
  refine hP.bind hd fun verdict => ?_
  cases verdict with
  | gone => exact hP.pure _
  | released => exact hP.pure _
  | skip => exact hP.pure _
  | invoke program => exact hP.bind (hi program) fun wish => hP.bind (hc wish) fun _ => hP.pure _

theorem visitAll (hP : Closed P) {ids : List CallbackId}
    (hv : ∀ id ∈ ids, P _ (Act.visit host c d e id)) : P _ (Act.visitAll host c d e ids) := by
  induction ids with
  | nil => exact hP.pure _
  | cons id rest ih =>
    refine hP.bind (hv id List.mem_cons_self) fun v => ?_
    exact hP.bind (ih fun i hi => hv i (List.mem_cons_of_mem _ hi)) fun _ => hP.pure _

theorem disconnectAll (hP : Closed P) {hs : List OpenHandle}
    (hd : ∀ h ∈ hs, P _ (disconnect c h)) : P _ (Act.disconnectAll c hs) := by
  induction hs with
  | nil => exact hP.pure _
  | cons h rest ih =>
    refine hP.bind (hd h List.mem_cons_self) fun _ => ?_
    exact hP.bind (ih fun i hi => hd i (List.mem_cons_of_mem _ hi)) fun _ => hP.pure _

theorem disconnectOn (hP : Closed P) (hd : ∀ h, P _ (disconnect c h)) :
    P _ (Act.disconnectOn c d) :=
  hP.bind hP.context fun _ => hP.disconnectAll fun h _ => hd h

theorem pass (hP : Closed P) (hv : ∀ id, P _ (Act.visit host c d e id))
    (hd : P _ (Act.disconnectOn c d)) : P _ (Act.pass host c d e) := by
  refine hP.bind hP.get fun w => hP.bind (hP.visitAll fun id _ => hv id) fun visits => ?_
  by_cases he : e = .left
  · rw [if_pos he]
    exact hP.bind hd fun _ => hP.pure _
  · rw [if_neg he]
    exact hP.bind (hP.pure _) fun _ => hP.pure _

theorem notify (hP : Closed P) (hb : P _ (note (.passBegan c d e)))
    (he : ∀ t, P _ (note (.passEnded c d e t))) (hp : P _ (Act.pass host c d e)) :
    P _ (Act.notify host c d e) :=
  hP.bind hb fun _ => hP.bind hp fun p => hP.bind (he p.tally) fun _ => hP.pure _

/-! ## Registrations -/

theorem enumerate (hP : Closed P) {devices : List Device}
    (hv : ∀ d ∈ devices, P _ (Act.visit host c d .arrived id)) :
    P _ (Act.enumerate host c id devices) := by
  induction devices with
  | nil => exact hP.pure _
  | cons d rest ih =>
    refine hP.bind (hv d List.mem_cons_self) fun v => ?_
    -- It goes on after a skip, or after a run that left the record where it was.
    have hrest := ih fun i hi => hv i (List.mem_cons_of_mem _ hi)
    rcases v with _ | _ | _ | (_ | _)
    · exact hP.pure _
    · exact hP.pure _
    · exact hP.bind hrest fun _ => hP.pure _
    · exact hP.bind hrest fun _ => hP.pure _
    · exact hP.pure _

theorem register (hP : Closed P) {request : Request κ}
    (hi : ∀ filter program, P _ (insert c request.events filter program))
    (hn : ∀ id filter existing,
      P _ (note (.registered c id filter request.events request.flags existing)))
    (he : ∀ id devices, P _ (Act.enumerate host c id devices)) :
    P _ (Act.register host c request) := by
  refine hP.bind hP.context fun x => ?_
  by_cases hx : (!x.hasHotplug) = true
  · rw [if_pos hx]
    exact hP.pure _
  rw [if_neg hx]
  rcases request.check with error | ⟨filter, program⟩
  · exact hP.pure _
  refine hP.bind (hi filter program) fun result => ?_
  rcases result with error | id
  · exact hP.pure _
  refine hP.bind hP.context fun y => hP.bind (hn _ _ _) fun _ => ?_
  exact hP.bind (he _ _) fun _ => hP.pure _

theorem deregister (hP : Closed P) (hm : P _ (markPending c id)) :
    P _ (Act.deregister c id) := by
  refine hP.bind hP.context fun x => ?_
  by_cases hx : x.hasHotplug = true
  · rw [if_pos hx]
    exact hP.bind hm fun _ => hP.pure _
  · rw [if_neg hx]
    exact hP.pure _

/-! ## Acts on a bus -/

theorem plug (hP : Closed P) {s : DeviceSpec}
    (hb : ∀ buses : World κ τ → Store Bus,
      P _ (modify fun w => { w with buses := buses w } : Act κ τ Unit))
    (ha : ∀ c d, P _ (attach c d)) (hn : ∀ d, P _ (note (.plugged d s.label)))
    (hp : ∀ c d, P _ (Act.notify host c d .arrived)) : P _ (Act.plug host b s) := by
  refine hP.bind hP.get fun w => hP.bind ?_ fun _ => ?_
  · exact hb fun v => v.buses.set b.val { w.bus b with nextDevice := (w.bus b).nextDevice + 1 }
  · refine hP.bind (ha _ _) fun _ => hP.bind (hn _) fun _ => ?_
    exact hP.bind (hp _ _) fun _ => hP.pure _

theorem unplug (hP : Closed P) {i : DeviceId} (hd : ∀ c, P _ (detach c i))
    (hn : ∀ d, P _ (note (.unplugged d))) (hp : ∀ c d, P _ (Act.notify host c d .left)) :
    P _ (Act.unplug host b i) := by
  refine hP.bind hP.get fun w => hP.bind (hd _) fun found => ?_
  rcases found with _ | d
  · exact hP.pure _
  · exact hP.bind (hn d) fun _ => hP.bind (hp _ d) fun _ => hP.pure _

theorem openDevice (hP : Closed P) {i : DeviceId} (ho : ∀ c d, P _ (openHandle c d)) :
    P _ (Act.openDevice b i) := by
  refine hP.bind hP.get fun w => hP.bind hP.context fun x => ?_
  rcases x.roster.get? i with _ | d
  · exact hP.pure _
  · exact hP.bind (ho _ d) fun _ => hP.pure _

theorem closeDevice (hP : Closed P) {h : OpenHandle} (hc : ∀ c, P _ (closeHandle c h)) :
    P _ (Act.closeDevice b h) :=
  hP.bind hP.get fun _ => hc _

theorem transferFailed (hP : Closed P) {h : OpenHandle} (hd : ∀ c, P _ (detach c h.device.id))
    (hp : ∀ c, P _ (Act.notify host c h.device .left)) : P _ (Act.transferFailed host b h) := by
  refine hP.bind hP.get fun w => hP.bind (hd _) fun found => ?_
  rcases found with _ | d
  · exact hP.pure _
  · exact hp _

end Act.Closed
end DeviceWatch
