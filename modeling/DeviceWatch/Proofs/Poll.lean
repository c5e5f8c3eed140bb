import Mathlib.Data.List.Perm.Basic
import Mathlib.Logic.Function.Basic
import DeviceWatch.Proofs.Listening
import DeviceWatch.Proofs.Order
/-!
# Polls

Callbacks that touch no context, and of which each remembers what it likes for itself,
cannot tell in which order a pass visits them. Such a pass is a poll: it asks every
record that it reaches once, and what becomes of a record is decided by the record, the
event and the callback's own memory. `Poll.after` says what the world is once some of the
records were visited; it knows their identities, not their order.
-/

namespace DeviceWatch

/-- A place holds what was written last, and nothing is left of what was there before. -/
theorem Store.set_set {α : Type} (s : Store α) (k : Nat) (u v : α) :
    (s.set k u).set k v = s.set k v := by
  simp [set]

/-- The same of a registry in a context. -/
theorem World.setRegistry_setRegistry {κ τ : Type} (w : World κ τ) (c : ContextId)
    (r s : Registry κ) : (w.setRegistry c r).setRegistry c s = w.setRegistry c s := by
  simp only [setRegistry, modifyContext, Store.modify, Store.get_set_self, Store.set_set]

/-- The world in which callbacks remember something else. -/
def World.withMemory {κ τ : Type} (w : World κ τ) (m : τ) : World κ τ :=
  { w with memory := m }

theorem World.setRegistry_withMemory {κ τ : Type} (w : World κ τ) (c : ContextId)
    (r : Registry κ) (m : τ) :
    (w.withMemory m).setRegistry c r = (w.setRegistry c r).withMemory m :=
  rfl

variable {κ σ : Type}

/-- A callback that touches no context: it looks at what it remembers, answers, and
remembers something else. -/
def Act.answering (answer : Invocation κ → σ → Wish × σ) (inv : Invocation κ) :
    Act κ (CallbackId → σ) Wish := do
  let own := (← memory) inv.callback
  remember fun m => Function.update m inv.callback (answer inv own).2
  return (answer inv own).1

/-- An event at a device, told to callbacks of a context that touch no context. -/
structure Poll (κ σ : Type) where
  /-- What a callback answers by what it remembers, and what it remembers then. -/
  answer : Invocation κ → σ → Wish × σ
  context : ContextId
  device : Device
  event : Event

/-- The callbacks that ran, in order, with what they were told. -/
def runs (ns : List Notice) : List (ContextId × CallbackId × Device × Event) :=
  ns.filterMap fun
    | .delivered c id d e => some (c, id, d, e)
    | _ => none

theorem runs_append {ns ms : List Notice} : runs (ns ++ ms) = runs ns ++ runs ms :=
  List.filterMap_append

theorem runs_of_quiet {ns : List Notice} (h : ∀ n ∈ ns, n.counts = false) : runs ns = [] := by
  refine List.filterMap_eq_nil_iff.2 fun n hn => ?_
  have hno := h n hn
  cases n <;> first | rfl | cases hno

namespace Poll

variable (p : Poll κ σ) (m : CallbackId → σ) (x : Record κ)

/-- Whether the record's callback runs. -/
def reaches : Bool :=
  x.status = .active && x.hears p.device p.event

/-- What the record's callback answers if it runs, and what it remembers then. -/
def reply : Wish × σ :=
  p.answer ⟨p.context, x.id, x.program, p.device, p.event⟩ (m x.id)

/-- Whether the record's callback runs and asks for the record to go. -/
def dismisses : Bool :=
  p.reaches x && (p.reply m x).1 = .deregister

/-- Whether the record is there afterwards. -/
def keeps : Bool :=
  x.status = .active && !p.dismisses m x

/-- What becomes of the visit to the record. -/
def visit : Visit :=
  match x.status with
  | .pending => .released
  | .active => if x.hears p.device p.event then .invoked (p.dismisses m x) else .skipped

/-- What the visit to the record notes. -/
def told : List Notice :=
  match x.status with
  | .pending => [.decided p.context x.id .released]
  | .active =>
    if x.hears p.device p.event then
      [.decided p.context x.id .invoke, .delivered p.context x.id p.device p.event,
        .committed p.context x.id (p.reply m x).1 (p.dismisses m x)]
    else [.decided p.context x.id .skip]

/-- The registry once the records with these identities were visited. -/
def registry (w : World κ (CallbackId → σ)) (ids : List CallbackId) : Registry κ :=
  { w.registry p.context with
    records := (w.registry p.context).records.filter fun x =>
      x.id ∉ ids || p.keeps w.memory x }

/-- What callbacks remember once the records with these identities were visited. -/
def memory (w : World κ (CallbackId → σ)) (ids : List CallbackId) : CallbackId → σ := fun id =>
  match (w.registry p.context).get? id with
  | none => w.memory id
  | some x => if id ∈ ids && p.reaches x then (p.reply w.memory x).2 else w.memory id

/-- The world once the records with these identities were visited. -/
def after (w : World κ (CallbackId → σ)) (ids : List CallbackId) : World κ (CallbackId → σ) :=
  if ids = [] then w
  else (w.setRegistry p.context (p.registry w ids)).withMemory (p.memory w ids)

/-- **A pass is exact**: what it runs, what it removes and what it counts are what the
records of the world before it say, and nothing else changes. -/
structure Exact (p : Poll κ σ) (w : World κ (CallbackId → σ))
    (out : Effect κ (CallbackId → σ) Tally) : Prop where
  /-- Every callback that is reached runs once, and no other does. -/
  runs : (runs out.notices).Perm
    (((w.registry p.context).records.filter p.reaches).map fun x =>
      (p.context, x.id, p.device, p.event))
  /-- Records stay as they are and where they are, but for those that were pending and those
  whose callbacks ran and asked for it. -/
  records : (out.world.registry p.context).records =
    (w.registry p.context).records.filter fun x =>
      !(x.status = .pending || p.dismisses w.memory x)
  active : ∀ x ∈ (out.world.registry p.context).records, x.status = .active
  limit : (out.world.registry p.context).limit = (w.registry p.context).limit
  /-- The registries of all other contexts are what they were. -/
  apart : ∀ c, c ≠ p.context → out.world.registry c = w.registry c
  /-- A callback that ran remembers what it wants to, and any other what it did. -/
  memory : ∀ x ∈ (w.registry p.context).records, out.world.memory x.id =
    if p.reaches x then (p.reply w.memory x).2 else w.memory x.id
  roster : ∀ c, out.world.roster c = w.roster c
  opens : ∀ c, out.world.opens c = w.opens c
  arrival : p.event = .arrived → out.world.disconnected = w.disconnected
  tally : ∃ t, out.result = some t ∧
    t.invoked = (w.registry p.context).records.countP p.reaches ∧
    t.released = (w.registry p.context).records.countP fun x =>
      x.status = .pending || p.dismisses w.memory x

/-! ## One record -/

variable {p m x} {w : World κ (CallbackId → σ)} {ids : List CallbackId} {id : CallbackId}

theorem ran_visit : (p.visit m x).ran = p.reaches x := by
  unfold visit reaches
  cases x.status with
  | pending => rfl
  | active => cases x.hears p.device p.event <;> rfl

theorem removed_visit : (p.visit m x).removed = !p.keeps m x := by
  unfold visit keeps dismisses reaches
  cases x.status with
  | pending => rfl
  | active => cases x.hears p.device p.event <;> simp [Visit.removed]

theorem not_keeps : (!p.keeps m x) = (x.status = .pending || p.dismisses m x : Bool) := by
  unfold keeps
  cases x.status <;> simp

theorem runs_told : runs (p.told m x) =
    if p.reaches x then [(p.context, x.id, p.device, p.event)] else [] := by
  unfold told reaches
  cases x.status with
  | pending => rfl
  | active => cases x.hears p.device p.event <;> rfl

/-! ## Some of the records -/

theorem registry_nil : p.registry w [] = w.registry p.context := by
  simp [registry]

theorem memory_nil : p.memory w [] = w.memory := by
  funext id
  unfold memory
  split <;> simp

theorem registry_after : (p.after w ids).registry p.context = p.registry w ids := by
  unfold after
  split
  next h => rw [h, registry_nil]
  next => exact World.registry_setRegistry.trans (if_pos rfl)

theorem memory_after : (p.after w ids).memory = p.memory w ids := by
  unfold after
  split
  next h => rw [h, memory_nil]
  next => rfl

/-- Registry and memory are all that the visits change. -/
theorem patch_after (r : Registry κ) :
    ((p.after w ids).setRegistry p.context r).withMemory m =
      (w.setRegistry p.context r).withMemory m := by
  unfold after
  split
  next => rfl
  next =>
    rw [World.setRegistry_withMemory, World.setRegistry_setRegistry]
    rfl

/-- In which order the records were visited makes no difference. -/
theorem after_perm {ids' : List CallbackId} (h : ids.Perm ids') :
    p.after w ids = p.after w ids' := by
  have hregistry : p.registry w ids = p.registry w ids' := by
    simp only [registry, h.mem_iff]
  have hmemory : p.memory w ids = p.memory w ids' := by
    unfold memory
    simp only [h.mem_iff]
  have hnil : ids = [] ↔ ids' = [] := by
    constructor
    · rintro rfl
      exact h.nil_eq.symm
    · rintro rfl
      exact h.eq_nil
  simp only [after, hregistry, hmemory, hnil]

section Step

variable (hn : (w.registry p.context).ids.Nodup) (hx : x ∈ (w.registry p.context).records)
include hn hx

/-- A record that was not visited is still there. -/
theorem get?_registry (hid : x.id ∉ ids) : (p.registry w ids).get? x.id = some x := by
  have hids : (p.registry w ids).ids.Nodup := by
    refine List.Nodup.sublist ?_ hn
    exact List.Sublist.map _ List.filter_sublist
  refine Registry.get?_of_mem hids ?_
  refine List.mem_filter.2 ⟨hx, ?_⟩
  simp [hid]

/-- The visit to one more record takes it out unless it is to stay. -/
theorem registry_snoc : p.registry w (ids ++ [x.id]) =
    if p.keeps w.memory x then p.registry w ids else (p.registry w ids).erase x.id := by
  -- No other record has its identity.
  have hsole : ∀ y ∈ (w.registry p.context).records, y.id = x.id → y = x := by
    intro y hy hyx
    exact List.inj_on_of_nodup_map hn hy hx hyx
  have hwith : ∀ l l' : List (Record κ), l = l' →
      ({ w.registry p.context with records := l } : Registry κ) =
        { w.registry p.context with records := l' } := by
    rintro l _ rfl
    rfl
  split
  next hk =>
    refine hwith _ _ (List.filter_congr fun y hy => ?_)
    by_cases hyx : y.id = x.id
    · rw [hsole y hy hyx, hk]
      simp
    · simp [hyx]
  next hk =>
    refine hwith _ _ ?_
    show _ = ((w.registry p.context).records.filter _).filter _
    rw [List.filter_filter]
    refine List.filter_congr fun y hy => ?_
    by_cases hyx : y.id = x.id
    · rw [hsole y hy hyx, Bool.eq_false_iff.2 hk]
      simp
    · simp [hyx]

/-- It makes the callback remember something if the callback runs. -/
theorem memory_snoc : p.memory w (ids ++ [x.id]) =
    if p.reaches x then Function.update (p.memory w ids) x.id (p.reply w.memory x).2
    else p.memory w ids := by
  have hget := Registry.get?_of_mem hn hx
  funext id
  by_cases hid : id = x.id
  · subst hid
    split
    next hr => simp [memory, hget, hr]
    next hr => simp [memory, hget, hr]
  · have hsame : p.memory w (ids ++ [x.id]) id = p.memory w ids id := by
      simp [memory, hid]
    split
    next => rw [hsame, Function.update_of_ne hid]
    next => exact hsame

theorem memory_of_not_mem (hid : x.id ∉ ids) : p.memory w ids x.id = w.memory x.id := by
  have hget := Registry.get?_of_mem hn hx
  simp [memory, hget, hid]

end Step

/-! ## Visits -/

/-- What a callback that touches no context leaves. -/
theorem run_answering (answer : Invocation κ → σ → Wish × σ) (inv : Invocation κ) :
    (Act.answering answer inv).run w =
      { result := some (answer inv (w.memory inv.callback)).1
        world := w.withMemory
          (Function.update w.memory inv.callback (answer inv (w.memory inv.callback)).2) } :=
  rfl

section Visits

variable {host : Host κ (CallbackId → σ)} {v : World κ (CallbackId → σ)} {xs : List (Record κ)}
variable (hhost : ∀ inv, host.react inv = Act.answering p.answer inv)
include hhost

/-- The visit to a record that is there. -/
theorem run_visit (hget : (v.registry p.context).get? x.id = some x)
    (hown : v.memory x.id = m x.id) :
    (Act.visit host p.context p.device p.event x.id).run v =
      { result := some (p.visit m x)
        world := (v.setRegistry p.context (if p.keeps m x then v.registry p.context
          else (v.registry p.context).erase x.id)).withMemory
            (if p.reaches x then Function.update v.memory x.id (p.reply m x).2 else v.memory)
        notices := p.told m x } := by
  cases hs : x.status with
  | pending =>
    have hreaches : p.reaches x = false := by simp [reaches, hs]
    have hkeeps : p.keeps m x = false := by simp [keeps, hs]
    rw [Act.visit, Act.run_bind, Act.run_decide, Effect.andThen_some,
      Registry.decide_of_pending hget hs, hreaches, hkeeps]
    simp only [visit, told, hs]
    rfl
  | active =>
    have hdecide := Registry.decide_of_active (d := p.device) (e := p.event) hget hs
    cases hh : x.hears p.device p.event with
    | false =>
      have hreaches : p.reaches x = false := by simp [reaches, hh]
      have hkeeps : p.keeps m x = true := by simp [keeps, hs, dismisses, hreaches]
      rw [Act.visit, Act.run_bind, Act.run_decide, Effect.andThen_some, hdecide, hh, hreaches,
        hkeeps]
      simp only [visit, told, hs, hh]
      rfl
    | true =>
      rw [hh, if_pos rfl] at hdecide
      have hreaches : p.reaches x = true := by simp [reaches, hs, hh]
      have hkeeps : p.keeps m x = !p.dismisses m x := by simp [keeps, hs]
      have hdismisses : p.dismisses m x = ((p.reply m x).1 = .deregister : Bool) := by
        rw [dismisses, hreaches, Bool.true_and]
      have hreply : p.answer ⟨p.context, x.id, x.program, p.device, p.event⟩ (v.memory x.id) =
          p.reply m x := by rw [reply, hown]
      -- The callback leaves the registry as the decision left it, which is as it was.
      have hcall : Act.call host p.context p.device p.event v x.id =
          some { result := some (p.reply m x).1
                 world := (v.setRegistry p.context (v.registry p.context)).withMemory
                   (Function.update v.memory x.id (p.reply m x).2) } := by
        rw [Act.call_of_invoke (congrArg Prod.fst hdecide), hhost, run_answering, hdecide, ← hreply]
        rfl
      have hsame : ((v.setRegistry p.context (v.registry p.context)).withMemory
          (Function.update v.memory x.id (p.reply m x).2)).registry p.context =
            v.registry p.context := World.registry_setRegistry_self p.context
      have hreleases : (v.registry p.context).releases x.id (p.reply m x).1 =
          p.dismisses m x := by
        rw [hdismisses]
        simp [Registry.releases, hget, hs]
      have hcommit : (v.registry p.context).commit x.id (p.reply m x).1 =
          if p.keeps m x then v.registry p.context else (v.registry p.context).erase x.id := by
        rw [Registry.commit, hreleases, hkeeps]
        cases p.dismisses m x <;> rfl
      rw [Act.run_visit_of_call hcall rfl, hsame, hreleases, hcommit, hreaches,
        World.setRegistry_withMemory, World.setRegistry_setRegistry]
      simp only [visit, told, hs, hh, if_true, List.nil_append]

variable (hn : (w.registry p.context).ids.Nodup)
include hn

/-- The visit to one more record. -/
theorem run_visit_after (hx : x ∈ (w.registry p.context).records) (hid : x.id ∉ ids) :
    (Act.visit host p.context p.device p.event x.id).run (p.after w ids) =
      { result := some (p.visit w.memory x)
        world := p.after w (ids ++ [x.id])
        notices := p.told w.memory x } := by
  have hget : ((p.after w ids).registry p.context).get? x.id = some x := by
    rw [registry_after]
    exact get?_registry hn hx hid
  have hown : (p.after w ids).memory x.id = w.memory x.id := by
    rw [memory_after]
    exact memory_of_not_mem hn hx hid
  have hafter : p.after w (ids ++ [x.id]) =
      (w.setRegistry p.context (p.registry w (ids ++ [x.id]))).withMemory
        (p.memory w (ids ++ [x.id])) := if_neg (by simp)
  rw [run_visit hhost hget hown, registry_after, memory_after, patch_after, hafter,
    registry_snoc hn hx, memory_snoc hn hx]

/-- The visits to records that were not visited before. -/
theorem run_visitAll (hxs : ∀ x ∈ xs, x ∈ (w.registry p.context).records)
    (honce : (ids ++ xs.map Record.id).Nodup) :
    (Act.visitAll host p.context p.device p.event (xs.map Record.id)).run (p.after w ids) =
      { result := some (xs.map fun x => (x.id, p.visit w.memory x))
        world := p.after w (ids ++ xs.map Record.id)
        notices := xs.flatMap (p.told w.memory) } := by
  -- By induction on the records that are left, whatever was visited before.
  induction xs generalizing ids with
  | nil =>
    rw [List.map_nil, List.append_nil]
    rfl
  | cons x rest ih =>
    have hid : x.id ∉ ids := by
      intro hmem
      exact List.disjoint_of_nodup_append honce hmem List.mem_cons_self
    have hsplit : ids ++ (x :: rest).map Record.id = ids ++ [x.id] ++ rest.map Record.id := by
      rw [List.map_cons, List.append_assoc, List.singleton_append]
    have hfirst := run_visit_after hhost hn (hxs x List.mem_cons_self) hid
    have honce' : (ids ++ [x.id] ++ rest.map Record.id).Nodup := hsplit ▸ honce
    have hrest := ih (fun y hy => hxs y (List.mem_cons_of_mem x hy)) honce'
    rw [hsplit, List.map_cons, Act.visitAll, Act.run_bind, hfirst, Effect.andThen_some,
      Act.run_bind, hrest, Effect.andThen_some, Act.run_pure, List.append_nil]
    rfl

end Visits

/-! ## What follows the visits -/

/-- Nothing changes but the marks on handles and the records of platforms. -/
structure Frame {τ : Type} (w : World κ τ) (ns : List Notice) (w' : World κ τ) : Prop where
  registry (c : ContextId) : w'.registry c = w.registry c
  roster (c : ContextId) : w'.roster c = w.roster c
  opens (c : ContextId) : w'.opens c = w.opens c
  memory : w'.memory = w.memory

instance {τ : Type} : Law.Composes (Frame (κ := κ) (τ := τ)) where
  refl _ := ⟨fun _ => rfl, fun _ => rfl, fun _ => rfl, rfl⟩
  trans h₁ h₂ :=
    ⟨fun c => (h₂.registry c).trans (h₁.registry c), fun c => (h₂.roster c).trans (h₁.roster c),
      fun c => (h₂.opens c).trans (h₁.opens c), h₂.memory.trans h₁.memory⟩

theorem frame_followUp {τ : Type} {c : ContextId} {d : Device} {e : Event} :
    (Act.followUp c d e : Act κ τ _).Obeys Frame := by
  have hdisconnect : ∀ h, (Act.disconnect c h : Act κ τ Bool).Obeys Frame := by
    intro h w
    rw [Act.run_disconnect]
    split
    · exact Law.Composes.refl w
    · exact ⟨fun _ => World.registry_setPlatform, fun _ => World.roster_setPlatform,
        fun _ => World.opens_setPlatform, rfl⟩
  rw [Act.followUp]
  split
  · exact Act.closed_obeys.disconnectOn hdisconnect
  · exact Act.obeys_pure _

/-! ## The world that a pass leaves -/

variable (p w) in
/-- The world once all records were visited and the pass was followed up. -/
def left : World κ (CallbackId → σ) :=
  ((Act.followUp p.context p.device p.event).run (p.after w (w.registry p.context).ids)).world

theorem registry_all : p.registry w (w.registry p.context).ids =
    { w.registry p.context with
      records := (w.registry p.context).records.filter fun x =>
        !(x.status = .pending || p.dismisses w.memory x) } := by
  unfold registry
  have hfilter : (w.registry p.context).records.filter
      (fun x => x.id ∉ (w.registry p.context).ids || p.keeps w.memory x) =
        (w.registry p.context).records.filter fun x =>
          !(x.status = .pending || p.dismisses w.memory x) := by
    refine List.filter_congr fun x hx => ?_
    have hid : x.id ∈ (w.registry p.context).ids := List.mem_map_of_mem hx
    have hkeeps := not_keeps (p := p) (m := w.memory) (x := x)
    rw [← hkeeps]
    simp [hid]
  rw [hfilter]

theorem frame_left : Frame (p.after w (w.registry p.context).ids)
    ((Act.followUp p.context p.device p.event).run
      (p.after w (w.registry p.context).ids)).notices (p.left w) :=
  frame_followUp _

theorem registry_left : (p.left w).registry p.context =
    { w.registry p.context with
      records := (w.registry p.context).records.filter fun x =>
        !(x.status = .pending || p.dismisses w.memory x) } := by
  rw [frame_left.registry, registry_after, registry_all]

theorem active_of_mem_left (hx : x ∈ ((p.left w).registry p.context).records) :
    x.status = .active := by
  rw [registry_left] at hx
  obtain ⟨-, hkept⟩ := List.mem_filter.1 hx
  cases hs : x.status with
  | active => rfl
  | pending => simp [hs] at hkept

theorem memory_left (hn : (w.registry p.context).ids.Nodup)
    (hx : x ∈ (w.registry p.context).records) :
    (p.left w).memory x.id = if p.reaches x then (p.reply w.memory x).2 else w.memory x.id := by
  have hget := Registry.get?_of_mem hn hx
  have hid : x.id ∈ (w.registry p.context).ids := List.mem_map_of_mem hx
  rw [frame_left.memory, memory_after, memory, hget]
  simp [hid]

theorem registry_left_of_ne {c : ContextId} (hc : c ≠ p.context) :
    (p.left w).registry c = w.registry c := by
  rw [frame_left.registry, after]
  split
  next => rfl
  next => exact World.registry_setRegistry.trans (if_neg hc)

theorem roster_left (c : ContextId) : (p.left w).roster c = w.roster c := by
  rw [frame_left.roster, after]
  split
  next => rfl
  next => exact World.roster_setRegistry

theorem opens_left (c : ContextId) : (p.left w).opens c = w.opens c := by
  rw [frame_left.opens, after]
  split
  next => rfl
  next => exact World.opens_setRegistry

/-- An arrival is not followed up. -/
theorem disconnected_left (he : p.event = .arrived) : (p.left w).disconnected = w.disconnected := by
  have hnone : Act.followUp p.context p.device p.event = (pure [] : Act κ (CallbackId → σ) _) := by
    rw [Act.followUp, he]
    rfl
  rw [left, hnone, Act.run_pure, after]
  split
  next => rfl
  next => rfl

/-! ## The pass -/

theorem runs_flatMap_told {xs : List (Record κ)} : runs (xs.flatMap (p.told m)) =
    (xs.filter p.reaches).map fun x => (p.context, x.id, p.device, p.event) := by
  induction xs with
  | nil => rfl
  | cons x rest ih =>
    rw [List.flatMap_cons, runs_append, runs_told, ih, List.filter_cons]
    split <;> rfl

/-- What a pass runs it runs in its visits. -/
theorem runs_notify {xs : List (Record κ)} {t : Tally} :
    runs (.passBegan p.context p.device p.event :: (xs.flatMap (p.told m) ++
      ((Act.followUp p.context p.device p.event).run w).notices ++
        [.passEnded p.context p.device p.event t])) =
      (xs.filter p.reaches).map fun x => (p.context, x.id, p.device, p.event) := by
  have hquiet : ∀ n ∈ ((Act.followUp p.context p.device p.event).run w).notices,
      n.counts = false := Act.notes_followUp (fun _ => rfl) w
  have hends : runs [.passEnded p.context p.device p.event t] = [] := rfl
  rw [← List.singleton_append, runs_append, runs_append, runs_append, runs_flatMap_told,
    runs_of_quiet hquiet, hends, List.append_nil, List.append_nil]
  rfl

section Pass

variable {host : Host κ (CallbackId → σ)}
variable (hhost : ∀ inv, host.react inv = Act.answering p.answer inv)
variable (hn : (w.registry p.context).ids.Nodup)
include hhost hn

/-- A pass visits the records in some order, and then follows up in a world that does not
depend on it. -/
theorem run_notify : ∃ (xs : List (Record κ)) (hs : List OpenHandle),
    xs.Perm (w.registry p.context).records ∧
    ((Act.followUp p.context p.device p.event).run
      (p.after w (w.registry p.context).ids)).result = some hs ∧
    (Act.notify host p.context p.device p.event).run w =
      { result := some (Pass.tally ⟨xs.map fun x => (x.id, p.visit w.memory x), hs⟩)
        world := p.left w
        notices := .passBegan p.context p.device p.event ::
          (xs.flatMap (p.told w.memory) ++
            ((Act.followUp p.context p.device p.event).run
              (p.after w (w.registry p.context).ids)).notices ++
            [.passEnded p.context p.device p.event
              (Pass.tally ⟨xs.map fun x => (x.id, p.visit w.memory x), hs⟩)]) } := by
  have horder := host.order_perm w (w.registry p.context).ids
  obtain ⟨xs, hids, hperm⟩ : ∃ xs : List (Record κ),
      host.order w (w.registry p.context).ids = xs.map Record.id ∧
        xs.Perm (w.registry p.context).records := by
    have hcomp := congrFun (congrFun (List.eq_map_comp_perm (Record.id (κ := κ)))
      (host.order w (w.registry p.context).ids)) (w.registry p.context).records
    exact cast hcomp.symm horder
  have hmem : ∀ x ∈ xs, x ∈ (w.registry p.context).records := fun x hx => hperm.mem_iff.1 hx
  have honce : ([] ++ xs.map Record.id).Nodup := by
    rw [List.nil_append, ← hids]
    exact horder.nodup_iff.2 hn
  have hvisits := run_visitAll hhost hn hmem honce
  have hafter : p.after w (xs.map Record.id) = p.after w (w.registry p.context).ids := by
    rw [← hids]
    exact after_perm horder
  rw [List.nil_append, hafter, show p.after w [] = w from if_pos rfl, ← hids] at hvisits
  obtain ⟨hs, hhs⟩ := Act.returns_followUp (c := p.context) (d := p.device) (e := p.event)
    (p.after w (w.registry p.context).ids)
  refine ⟨xs, hs, hperm, hhs, ?_⟩
  have hrun := Act.run_notify_of (congrArg Effect.result hvisits) (by rw [hvisits]; exact hhs)
  rw [hrun, hvisits, left]

end Pass

/-- The numbers of a pass do not depend on the order of its visits. -/
theorem tally_perm {xs ys : List (Record κ)} {hs : List OpenHandle} (h : xs.Perm ys) :
    Pass.tally ⟨xs.map fun x => (x.id, p.visit m x), hs⟩ =
      ⟨ys.countP p.reaches, ys.countP fun x => x.status = .pending || p.dismisses m x,
        hs.length⟩ := by
  have hinvoked : (xs.map fun x => (x.id, p.visit m x)).countP (fun v => v.2.ran) =
      ys.countP p.reaches := by
    rw [List.countP_map, ← h.countP_eq]
    exact List.countP_congr fun x _ => by rw [Function.comp, ran_visit]
  have hreleased : (xs.map fun x => (x.id, p.visit m x)).countP (fun v => v.2.removed) =
      ys.countP fun x => x.status = .pending || p.dismisses m x := by
    rw [List.countP_map, ← h.countP_eq]
    exact List.countP_congr fun x _ => by rw [Function.comp, removed_visit, not_keeps]
  unfold Pass.tally
  exact congrArg₂ (Tally.mk · · hs.length) hinvoked hreleased

/-- **A pass over callbacks that touch no context is exact**, and so is every other pass
over them, in whatever order they visit the records: they end in the same world with the
same tally. -/
theorem notify_exact {host : Host κ (CallbackId → σ)}
    (hhost : ∀ inv, host.react inv = Act.answering p.answer inv)
    (hn : (w.registry p.context).ids.Nodup) :
    p.Exact w ((Act.notify host p.context p.device p.event).run w) ∧
      ∀ other : Host κ (CallbackId → σ), (∀ inv, other.react inv = host.react inv) →
        ((Act.notify other p.context p.device p.event).run w).result =
            ((Act.notify host p.context p.device p.event).run w).result ∧
          ((Act.notify other p.context p.device p.event).run w).world =
            ((Act.notify host p.context p.device p.event).run w).world := by
  obtain ⟨xs, hs, hperm, hhs, hrun⟩ := run_notify hhost hn
  refine ⟨?exact, fun other hother => ?other⟩
  case other =>
    obtain ⟨ys, hs', hperm', hhs', hrun'⟩ :=
      run_notify (fun inv => (hother inv).trans (hhost inv)) hn
    obtain rfl : hs = hs' := Option.some.inj (hhs.symm.trans hhs')
    rw [hrun, hrun', tally_perm hperm, tally_perm hperm']
    exact ⟨rfl, rfl⟩
  case exact =>
    rw [hrun]
    refine ⟨?runs, ?records, fun _ => active_of_mem_left, ?limit, fun _ => registry_left_of_ne,
      fun _ => memory_left hn, roster_left, opens_left, disconnected_left, ?tally⟩
    case runs =>
      rw [runs_notify]
      exact (hperm.filter _).map _
    case records => rw [registry_left]
    case limit => rw [registry_left]
    case tally => exact ⟨_, rfl, by rw [tally_perm hperm], by rw [tally_perm hperm]⟩

/-- Callbacks that wait for more at first and go the next time. -/
def twice (_ : Invocation Unit) (n : Nat) : Wish × Nat :=
  (if n = 0 then .rearm else .deregister, n + 1)

/-- They are visited oldest first. -/
def oldestFirst : Host Unit (CallbackId → Nat) where
  react := Act.answering twice
  order _ ids := ids
  order_perm _ _ := .refl _

/-- They are visited newest first. -/
def newestFirst : Host Unit (CallbackId → Nat) where
  react := Act.answering twice
  order _ ids := ids.reverse
  order_perm _ ids := ids.reverse_perm

/-- The first of four records never ran, the second is pending, the third waits for
departures, and the last has run before. -/
def fourRecords : World Unit (CallbackId → Nat) :=
  World.setRegistry { memory := fun id => id.val - 1 } ⟨1⟩
    { records := [⟨⟨1⟩, ⟨1⟩, .all, .any, (), .active⟩, ⟨⟨2⟩, ⟨1⟩, .all, .any, (), .pending⟩,
        ⟨⟨3⟩, ⟨1⟩, .single .left, .any, (), .active⟩, ⟨⟨4⟩, ⟨1⟩, .all, .any, (), .active⟩] }

/-- Visited in either order, two of the four records have their callbacks run, and the same
two are left. -/
theorem notify_exact_of_four :
    (⟨twice, ⟨1⟩, default, .arrived⟩ : Poll Unit Nat).Exact fourRecords
        ((Act.notify oldestFirst ⟨1⟩ default .arrived).run fourRecords) ∧
      runs ((Act.notify oldestFirst ⟨1⟩ default .arrived).run fourRecords).notices =
        [(⟨1⟩, ⟨1⟩, default, .arrived), (⟨1⟩, ⟨4⟩, default, .arrived)] ∧
      runs ((Act.notify newestFirst ⟨1⟩ default .arrived).run fourRecords).notices =
        [(⟨1⟩, ⟨4⟩, default, .arrived), (⟨1⟩, ⟨1⟩, default, .arrived)] ∧
      ((Act.notify newestFirst ⟨1⟩ default .arrived).run fourRecords).result =
        some { invoked := 2, released := 2 } ∧
      (((Act.notify newestFirst ⟨1⟩ default .arrived).run fourRecords).world.registry
        ⟨1⟩).ids = [⟨1⟩, ⟨3⟩] := by
  have hhost : ∀ inv, oldestFirst.react inv = Act.answering twice inv := fun _ => rfl
  obtain ⟨hexact, hother⟩ :=
    notify_exact (p := ⟨twice, ⟨1⟩, default, .arrived⟩) (w := fourRecords) hhost (by decide)
  obtain ⟨hresult, hworld⟩ := hother newestFirst fun _ => rfl
  refine ⟨hexact, rfl, rfl, ?_, ?_⟩
  · rw [hresult]
    rfl
  · rw [hworld]
    rfl

end Poll
end DeviceWatch
