import DeviceWatch.Proofs.Still
/-!
# The outlook of an observer

What one registration, the observer, is to be told of can be read off the
notices without knowing of any other registration: with its own registration
the devices that are there, if it asked for them, and after that the passes
over events that it listens for. `Outlook` is what has to be known for this on
the way, the devices that are there and what the observer listens for, and
`Outlook.tale` reads the notices one by one. That runs deliver this tale is the
law `Heeds`.
-/

namespace DeviceWatch

variable {κ τ : Type}

/-- The devices that an observer is told of when it is registered. -/
def greeting (f : Filter) (m : EventSet) (devices : List Device) : List (Device × Event) :=
  (devices.filter fun d => f.hears m d .arrived).map fun d => (d, .arrived)

/-- The passes over a context's callbacks, by their devices and events. -/
def passes (c : ContextId) (ns : List Notice) : List (Device × Event) :=
  ns.filterMap fun
    | .passBegan c' d e => if c' = c then some (d, e) else none
    | _ => none

/-- What was delivered to a registration. -/
def deliveries (c : ContextId) (o : CallbackId) (ns : List Notice) : List (Device × Event) :=
  ns.filterMap fun
    | .delivered c' id d e => if c' = c ∧ id = o then some (d, e) else none
    | _ => none

/-- Whether the notice tells of the observer's registration. -/
def Notice.registers (c : ContextId) (o : CallbackId) : Notice → Bool
  | .registered c' id .. => c' = c && id = o
  | _ => false

/-- Whether the notice tells that the observer is to go: it was deregistered, its
callback asked for it, or its context was torn down. -/
def Notice.dismisses (c : ContextId) (o : CallbackId) : Notice → Bool
  | .marked c' id => c' = c && id = o
  | .committed c' id wish _ => c' = c && id = o && wish = .deregister
  | .toreDown c' ids => c' = c && ids.contains o
  | _ => false

/-- Whether the notice has anything to do with what the observer is told. -/
def Notice.concerns (c : ContextId) (o : CallbackId) : Notice → Bool
  | .registered c' id .. => c' = c && id = o
  | .passBegan c' .. => c' = c
  | .delivered c' id .. => c' = c && id = o
  | _ => false

theorem Notice.not_registers_of_not_concerns {c : ContextId} {o : CallbackId} {n : Notice}
    (h : n.concerns c o = false) : n.registers c o = false := by
  cases n <;> first | exact h | rfl

/-- The devices of a context after a notice. -/
def Roster.follow (c : ContextId) (r : Roster) : Notice → Roster
  | .attached c' d => if c' = c then r.attach d else r
  | .detached c' d => if c' = c then ((r.detach? d.id).map Prod.snd).getD r else r
  | _ => r

/-- The devices of a context after notices. -/
def Roster.followAll (c : ContextId) (r : Roster) (ns : List Notice) : Roster :=
  ns.foldl (follow c) r

theorem Roster.followAll_of_follow {c : ContextId} {r : Roster} {ns : List Notice}
    (h : ∀ n ∈ ns, r.follow c n = r) : r.followAll c ns = r := by
  induction ns with
  | nil => rfl
  | cons n ns ih =>
    rw [followAll, List.foldl_cons, h n List.mem_cons_self]
    exact ih fun m hm => h m (List.mem_cons_of_mem n hm)

theorem Roster.followAll_of_silent {c : ContextId} {r : Roster} {ns : List Notice}
    (h : ∀ n ∈ ns, n.ofBus = false) : r.followAll c ns = r := by
  refine followAll_of_follow fun n hn => ?_
  have hbus := h n hn
  cases n <;> first | rfl | cases hbus

/-- What has to be known to tell what an observer is told. -/
@[ext] structure Outlook where
  /-- The devices that are there. -/
  roster : Roster
  /-- What the observer listens for, if it is registered. -/
  hears : Option (Filter × EventSet)

namespace Outlook

variable {c : ContextId} {o : CallbackId} {s : Outlook} {n : Notice} {ns ms : List Notice}

/-- The outlook after a notice. -/
def next (c : ContextId) (o : CallbackId) (s : Outlook) (n : Notice) : Outlook where
  roster := s.roster.follow c n
  hears :=
    match n with
    | .registered c' id f m .. => if c' = c ∧ id = o then some (f, m) else s.hears
    | _ => s.hears

/-- What the observer is told at a notice. -/
def told (c : ContextId) (o : CallbackId) (s : Outlook) : Notice → List (Device × Event)
  | .registered c' id f m _ existing => if c' = c ∧ id = o then greeting f m existing else []
  | .passBegan c' d e =>
    match s.hears with
    | none => []
    | some (f, m) => if c' = c ∧ f.hears m d e then [(d, e)] else []
  | _ => []

/-- The notice of the observer's registration names the devices that are there, if
it asked for them. -/
def Faithful (c : ContextId) (o : CallbackId) (s : Outlook) : Notice → Prop
  | .registered c' id _ _ flags existing =>
    c' = c ∧ id = o → existing = if flags.enumerate then s.roster.toList else []
  | _ => True

/-- The outlook after notices. -/
def after (c : ContextId) (o : CallbackId) (s : Outlook) (ns : List Notice) : Outlook :=
  ns.foldl (next c o) s

/-- All that the observer is told along the notices. -/
def tale (c : ContextId) (o : CallbackId) (s : Outlook) : List Notice → List (Device × Event)
  | [] => []
  | n :: ns => s.told c o n ++ (s.next c o n).tale c o ns

/-- Along the notices, every one of the observer's registration is faithful. -/
def FaithfulAlong (c : ContextId) (o : CallbackId) (s : Outlook) : List Notice → Prop
  | [] => True
  | n :: ns => s.Faithful c o n ∧ (s.next c o n).FaithfulAlong c o ns

theorem after_append : s.after c o (ns ++ ms) = (s.after c o ns).after c o ms :=
  List.foldl_append

theorem tale_append : s.tale c o (ns ++ ms) = s.tale c o ns ++ (s.after c o ns).tale c o ms := by
  induction ns generalizing s with
  | nil => rfl
  | cons n ns ih => rw [List.cons_append, tale, ih, tale, List.append_assoc]; rfl

theorem faithfulAlong_append :
    s.FaithfulAlong c o (ns ++ ms) ↔
      s.FaithfulAlong c o ns ∧ (s.after c o ns).FaithfulAlong c o ms := by
  induction ns generalizing s with
  | nil => exact (iff_of_eq (true_and _)).symm
  | cons n ns ih => rw [List.cons_append, FaithfulAlong, ih, FaithfulAlong, and_assoc]; rfl

theorem roster_after : (s.after c o ns).roster = s.roster.followAll c ns := by
  induction ns generalizing s with
  | nil => rfl
  | cons n ns ih => exact ih

theorem hears_after (h : ∀ n ∈ ns, n.registers c o = false) :
    (s.after c o ns).hears = s.hears := by
  induction ns generalizing s with
  | nil => rfl
  | cons n ns ih =>
    have hnext : (s.next c o n).hears = s.hears := by
      have hn := h n List.mem_cons_self
      cases n with
      | registered c' id f m flags existing =>
        have hne : ¬(c' = c ∧ id = o) := by simpa [Notice.registers] using hn
        simp only [next, if_neg hne]
      | _ => rfl
    rw [← hnext]
    exact ih fun m hm => h m (List.mem_cons_of_mem n hm)

end Outlook

theorem deliveries_append {c : ContextId} {o : CallbackId} {ns ms : List Notice} :
    deliveries c o (ns ++ ms) = deliveries c o ns ++ deliveries c o ms :=
  List.filterMap_append

theorem deliveries_of_not_concerns {c : ContextId} {o : CallbackId} {ns : List Notice}
    (h : ∀ n ∈ ns, n.concerns c o = false) : deliveries c o ns = [] := by
  refine List.filterMap_eq_nil_iff.2 fun n hn => ?_
  have hno := h n hn
  cases n with
  | delivered c' id d e =>
    have hne : ¬(c' = c ∧ id = o) := by simpa [Notice.concerns] using hno
    exact if_neg hne
  | _ => rfl

theorem passes_append {c : ContextId} {ns ms : List Notice} :
    passes c (ns ++ ms) = passes c ns ++ passes c ms :=
  List.filterMap_append

theorem passes_of_not_concerns {c : ContextId} {o : CallbackId} {ns : List Notice}
    (h : ∀ n ∈ ns, n.concerns c o = false) : passes c ns = [] := by
  refine List.filterMap_eq_nil_iff.2 fun n hn => ?_
  have hno := h n hn
  cases n with
  | passBegan c' d e =>
    have hne : c' ≠ c := by simpa [Notice.concerns] using hno
    exact if_neg hne
  | _ => rfl

namespace Outlook

variable {c : ContextId} {o : CallbackId} {s : Outlook} {n : Notice} {ns : List Notice}

/-- Apart from its own registration, an observer is told of a pass that it listens
for. -/
theorem told_of_not_registers (h : n.registers c o = false) :
    s.told c o n =
      match s.hears with
      | none => []
      | some (f, m) => (passes c [n]).filter fun (d, e) => f.hears m d e := by
  cases n with
  | registered c' id f m flags existing =>
    have hne : ¬(c' = c ∧ id = o) := by simpa [Notice.registers] using h
    rcases hs : s.hears with _ | ⟨f, m⟩ <;> exact if_neg hne
  | passBegan c' d e =>
    rcases hs : s.hears with _ | ⟨f, m⟩
    · simp [told, hs]
    · by_cases hc : c' = c <;> simp [told, hs, hc, passes, List.filter_cons]
  | _ => rcases hs : s.hears with _ | ⟨f, m⟩ <;> rfl

/-- While it is not registered anew, an observer is told of the passes that it
listens for. -/
theorem tale_of_unregistered (h : ns.countP (Notice.registers c o) = 0) :
    s.tale c o ns =
      match s.hears with
      | none => []
      | some (f, m) => (passes c ns).filter fun (d, e) => f.hears m d e := by
  induction ns generalizing s with
  | nil => rcases s with ⟨r, _ | ⟨f, m⟩⟩ <;> rfl
  | cons n ns ih =>
    rw [List.countP_cons, Nat.add_eq_zero_iff] at h
    have hn : n.registers c o = false := by simpa using h.2
    have hears : (s.after c o [n]).hears = s.hears :=
      hears_after (List.forall_mem_singleton.2 hn)
    have hrest : (s.next c o n).tale c o ns = _ := ih h.1
    rw [tale, told_of_not_registers hn, hrest, show (s.next c o n).hears = s.hears from hears]
    rcases s.hears with _ | ⟨f, m⟩
    · rfl
    · rw [← List.filter_append, ← passes_append]
      rfl

/-- While it is not registered and no pass begins, it is told nothing. -/
theorem tale_of_passless (hr : ns.countP (Notice.registers c o) = 0) (hp : passes c ns = []) :
    s.tale c o ns = [] := by
  rw [tale_of_unregistered hr, hp]
  split <;> rfl

theorem faithfulAlong_of_unregistered (h : ns.countP (Notice.registers c o) = 0) :
    s.FaithfulAlong c o ns := by
  induction ns generalizing s with
  | nil => trivial
  | cons n ns ih =>
    rw [List.countP_cons, Nat.add_eq_zero_iff] at h
    refine ⟨?_, ih h.1⟩
    cases n with
    | registered c' id f m flags existing =>
      intro hself
      simp [Notice.registers, hself] at h
    | _ => trivial

end Outlook

/-! ## Runs deliver the tale -/

/-- A sound world in which the observer was not deregistered. -/
structure World.Ready (w : World κ τ) (c : ContextId) (o : CallbackId) : Prop where
  sound : w.Sound
  spared : (w.registry c).status? o ≠ some .pending

/-- The outlook of an observer in a world. -/
def World.outlook (w : World κ τ) (c : ContextId) (o : CallbackId) : Outlook where
  roster := w.roster c
  hears := ((w.registry c).get? o).map fun x => (x.filter, x.events)

/-- The observer is not dismissed, and the outlook afterwards is what the notices
say. -/
structure Followed (c : ContextId) (o : CallbackId) (w : World κ τ) (ns : List Notice)
    (w' : World κ τ) : Prop where
  ready : w'.Ready c o
  drawn : w.nextCallback ≤ w'.nextCallback
  /-- The observer is registered at most once, under a number not drawn before. -/
  once : ns.countP (Notice.registers c o) ≤ 1
  unregistered : o.val < w.nextCallback → ns.countP (Notice.registers c o) = 0
  registered : 0 < ns.countP (Notice.registers c o) → o.val < w'.nextCallback
  faithful : (w.outlook c o).FaithfulAlong c o ns
  outlook : w'.outlook c o = (w.outlook c o).after c o ns

/-- **The observer is told the tale of the notices**, and nothing else. Under the
condition no pass over its context's callbacks begins. -/
structure Heeded (q : Prop) (c : ContextId) (o : CallbackId) (w : World κ τ) (ns : List Notice)
    (w' : World κ τ) : Prop extends Followed c o w ns w' where
  deliveries : deliveries c o ns = (w.outlook c o).tale c o ns
  passless : q → passes c ns = []

/-- What happens from a ready world is heeded, unless the observer is dismissed. -/
def Heeds (q : Prop) (c : ContextId) (o : CallbackId) : Law κ τ :=
  fun w ns w' => w.Ready c o → (∀ n ∈ ns, n.dismisses c o = false) → Heeded q c o w ns w'

namespace Followed

variable {c : ContextId} {o : CallbackId} {w w₁ w₂ w₃ : World κ τ} {ns ms : List Notice}

theorem refl (hw : w.Ready c o) : Followed c o w [] w where
  ready := hw
  drawn := Nat.le_refl _
  once := Nat.zero_le _
  unregistered _ := rfl
  registered h := absurd h (Nat.lt_irrefl 0)
  faithful := trivial
  outlook := rfl

theorem trans (h₁ : Followed c o w₁ ns w₂) (h₂ : Followed c o w₂ ms w₃) :
    Followed c o w₁ (ns ++ ms) w₃ where
  ready := h₂.ready
  drawn := Nat.le_trans h₁.drawn h₂.drawn
  once := by
    rw [List.countP_append]
    have hns := h₁.once
    have hms := h₂.once
    -- Registered in the first part, its number is drawn in the second.
    by_cases hpos : 0 < ns.countP (Notice.registers c o)
    · have hnone := h₂.unregistered (h₁.registered hpos)
      omega
    · omega
  unregistered ho := by
    rw [List.countP_append, h₁.unregistered ho,
      h₂.unregistered (Nat.lt_of_lt_of_le ho h₁.drawn)]
  registered h := by
    rw [List.countP_append] at h
    by_cases hpos : 0 < ns.countP (Notice.registers c o)
    · exact Nat.lt_of_lt_of_le (h₁.registered hpos) h₂.drawn
    · exact h₂.registered (by omega)
  faithful := by
    rw [Outlook.faithfulAlong_append, ← h₁.outlook]
    exact ⟨h₁.faithful, h₂.faithful⟩
  outlook := by rw [h₂.outlook, h₁.outlook, Outlook.after_append]

/-- A notice of something else than a registration or a change of the bus. -/
theorem single {n : Notice} (hw : w.Ready c o) (hr : n.registers c o = false)
    (hb : n.ofBus = false) : Followed c o w [n] w where
  ready := hw
  drawn := Nat.le_refl _
  once := by simp [hr]
  unregistered _ := by simp [hr]
  registered h := by simp [hr] at h
  faithful := Outlook.faithfulAlong_of_unregistered (by simp [hr])
  outlook := by
    have hroster : (w.outlook c o).roster.followAll c [n] = (w.outlook c o).roster :=
      Roster.followAll_of_silent (List.forall_mem_singleton.2 hb)
    ext1
    · exact (Outlook.roster_after.trans hroster).symm
    · exact (Outlook.hears_after (List.forall_mem_singleton.2 hr)).symm

/-- What an observer listens for does not change. -/
theorem hears (h : Followed c o w₁ ns w₂) (ho : o.val < w₁.nextCallback) :
    (w₂.outlook c o).hears = (w₁.outlook c o).hears := by
  rw [h.outlook, Outlook.hears_after]
  have hcount := List.countP_eq_zero.1 (h.unregistered ho)
  exact fun n hn => Bool.eq_false_iff.2 (hcount n hn)

end Followed

namespace Heeded

variable {q : Prop} {c : ContextId} {o : CallbackId} {w w₁ w₂ w₃ : World κ τ}
variable {ns ms : List Notice}

theorem refl (hw : w.Ready c o) : Heeded q c o w [] w where
  toFollowed := .refl hw
  deliveries := rfl
  passless _ := rfl

theorem trans (h₁ : Heeded q c o w₁ ns w₂) (h₂ : Heeded q c o w₂ ms w₃) :
    Heeded q c o w₁ (ns ++ ms) w₃ where
  toFollowed := h₁.toFollowed.trans h₂.toFollowed
  deliveries := by
    rw [deliveries_append, h₁.deliveries, h₂.deliveries, h₁.outlook, Outlook.tale_append]
  passless hq := by rw [passes_append, h₁.passless hq, h₂.passless hq]; rfl

theorem mono {p : Prop} (hpq : p → q) (h : Heeded q c o w ns w₁) : Heeded p c o w ns w₁ where
  toFollowed := h.toFollowed
  deliveries := h.deliveries
  passless hp := h.passless (hpq hp)

/-- What does not concern the observer is heeded if it keeps the world ready and
the outlook what the notices say. -/
theorem of_not_concerns (hns : ∀ n ∈ ns, n.concerns c o = false) (hready : w₂.Ready c o)
    (hdrawn : w₁.nextCallback ≤ w₂.nextCallback)
    (hlook : w₂.outlook c o = (w₁.outlook c o).after c o ns) : Heeded q c o w₁ ns w₂ := by
  have hcount : ns.countP (Notice.registers c o) = 0 := by
    refine List.countP_eq_zero.2 fun n hn hr => ?_
    rw [Notice.not_registers_of_not_concerns (hns n hn)] at hr
    cases hr
  have hpassless : passes c ns = [] := passes_of_not_concerns hns
  refine ⟨⟨hready, hdrawn, by omega, fun _ => hcount, by omega, ?_, hlook⟩, ?_, fun _ => hpassless⟩
  · exact Outlook.faithfulAlong_of_unregistered hcount
  · rw [deliveries_of_not_concerns hns, Outlook.tale_of_passless hcount hpassless]

end Heeded

instance {q : Prop} {c : ContextId} {o : CallbackId} :
    Law.Composes (Heeds (κ := κ) (τ := τ) q c o) where
  refl _ hw _ := .refl hw
  trans h₁ h₂ hw hno := by
    have hfirst := h₁ hw fun n hn => hno n (List.mem_append_left _ hn)
    exact hfirst.trans (h₂ hfirst.ready fun n hn => hno n (List.mem_append_right _ hn))

/-- An act under which no pass begins is heeded all the more. -/
theorem Act.Obeys.of_heeds {α : Type} {q : Prop} {c : ContextId} {o : CallbackId}
    {x : Act κ τ α} (hx : x.Obeys (Heeds True c o)) : x.Obeys (Heeds q c o) :=
  hx.mono fun _ _ _ h hw hno => (h hw hno).mono fun _ => trivial

namespace World

variable {c : ContextId} {o : CallbackId} {w w' : World κ τ} {ns : List Notice}

/-- A later world that finds the same observer, or none, is as ready. -/
theorem Ready.of_get? (hw : w.Ready c o) (hsound : w'.Sound)
    (hget : (w'.registry c).get? o = (w.registry c).get? o) : w'.Ready c o where
  sound := hsound
  spared := by
    rw [Registry.status?, hget]
    exact hw.spared

/-- A world that finds the same observer has the outlook that the notices say, if
it has the devices that they say. -/
theorem outlook_eq (hget : (w'.registry c).get? o = (w.registry c).get? o)
    (hroster : w'.roster c = (w.roster c).followAll c ns)
    (hns : ∀ n ∈ ns, n.concerns c o = false) : w'.outlook c o = (w.outlook c o).after c o ns := by
  ext1
  · rw [Outlook.roster_after]
    exact hroster
  · rw [Outlook.hears_after fun n hn => Notice.not_registers_of_not_concerns (hns n hn), outlook,
      outlook, hget]

end World
end DeviceWatch
