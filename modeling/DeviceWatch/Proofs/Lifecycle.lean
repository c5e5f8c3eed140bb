import DeviceWatch.Proofs.Repertoire
import DeviceWatch.Proofs.Registry
/-!
# The lives of records

A run, whatever its callbacks do, comes down to a path of steps on
registries: a record is inserted, marked, decided about or committed, a
registry is cleared, or something else happens. `LifeStep` says once what a
step does to the registries and what it notes; `Life` is a path of such steps,
and every run leaves one (`Within.life`). What holds of runs is read off the
steps.

A sound world gives each record an identity of its own, below the counter.
Steps keep worlds sound, and they only age the records that are there: no
record comes back once it went, and none becomes active once it is pending.
-/

namespace DeviceWatch

variable {κ τ α : Type}

/-- Whether the notice tells of the life of a record. -/
def Notice.ofRecord : Notice → Bool
  | .inserted .. | .marked .. | .decided .. | .committed .. | .toreDown .. => true
  | _ => false

/-- **One step in the lives of records.** -/
inductive LifeStep : World κ τ → List Notice → World κ τ → Prop
  /-- Something that concerns no record. -/
  | quiet {w w' : World κ τ} {ns : List Notice} (hr : ∀ c, w'.registry c = w.registry c)
      (hn : w'.nextCallback = w.nextCallback) (hq : ∀ n ∈ ns, n.ofRecord = false) :
      LifeStep w ns w'
  /-- A record is inserted, under a number not used before. -/
  | insert (w : World κ τ) (c : ContextId) (x : Record κ) (hid : x.id = ⟨w.nextCallback⟩)
      (howner : x.owner = c) (hs : x.status = .active) :
      LifeStep w [.inserted c x.id]
        (World.setRegistry { w with nextCallback := w.nextCallback + 1 } c
          ((w.registry c).insert x))
  /-- It is decided about a record. -/
  | decide (w : World κ τ) (c : ContextId) (id : CallbackId) (d : Device) (e : Event) :
      LifeStep w [.decided c id ((w.registry c).decide id d e).1.decision]
        (w.setRegistry c ((w.registry c).decide id d e).2)
  /-- A wish is committed. -/
  | commit (w : World κ τ) (c : ContextId) (id : CallbackId) (wish : Wish) :
      LifeStep w [.committed c id wish ((w.registry c).releases id wish)]
        (w.setRegistry c ((w.registry c).commit id wish))
  /-- A record is deregistered. -/
  | mark (w : World κ τ) (c : ContextId) (id : CallbackId) :
      LifeStep w (if (w.registry c).contains id then [.marked c id] else [])
        (w.setRegistry c ((w.registry c).markPending id))
  /-- A registry is cleared. -/
  | clear (w : World κ τ) (c : ContextId) :
      LifeStep w (if 0 < (w.registry c).size then [.toreDown c (w.registry c).ids] else [])
        (w.setRegistry c (w.registry c).clear)

/-- **A path of steps**, with all that was noted along it. -/
inductive Life : World κ τ → List Notice → World κ τ → Prop
  /-- No step. -/
  | refl (w : World κ τ) : Life w [] w
  /-- A step, and the rest of the path. -/
  | step {w₁ w₂ w₃ : World κ τ} {ns ms : List Notice} :
      LifeStep w₁ ns w₂ → Life w₂ ms w₃ → Life w₁ (ns ++ ms) w₃

namespace Life

variable {w w₁ w₂ w₃ : World κ τ} {ns ms : List Notice}

theorem single (h : LifeStep w₁ ns w₂) : Life w₁ ns w₂ := by
  have := Life.step h (.refl w₂)
  rwa [List.append_nil] at this

theorem trans (h₁ : Life w₁ ns w₂) (h₂ : Life w₂ ms w₃) : Life w₁ (ns ++ ms) w₃ := by
  induction h₁ with
  | refl => exact h₂
  | step hs _ ih =>
    rw [List.append_assoc]
    exact .step hs (ih h₂)

instance : Law.Composes (Life (κ := κ) (τ := τ)) where
  refl := .refl
  trans := .trans

/-- What every step keeps, a path keeps. -/
theorem invariant {P : World κ τ → Prop} (hP : ∀ {w ns w'}, LifeStep w ns w' → P w → P w')
    (h : Life w₁ ns w₂) (hw : P w₁) : P w₂ := by
  induction h with
  | refl => exact hw
  | step hs _ ih => exact ih (hP hs hw)

/-- What is true of the notices of every step from a world of some kind is true
of the notices of a path from there, if steps keep to worlds of this kind. -/
theorem along {P : World κ τ → Prop} {Q : Notice → Prop}
    (hP : ∀ {w ns w'}, LifeStep w ns w' → P w → P w')
    (hQ : ∀ {w ns w'}, LifeStep w ns w' → P w → ∀ n ∈ ns, Q n) (h : Life w₁ ns w₂) (hw : P w₁) :
    ∀ n ∈ ns, Q n := by
  induction h with
  | refl => exact List.forall_mem_nil _
  | step hs _ ih => exact List.forall_mem_append.2 ⟨hQ hs hw, ih (hP hs hw)⟩

/-- What concerns no record is a path of one step. -/
theorem quiet (hr : ∀ c, w₂.registry c = w₁.registry c)
    (hn : w₂.nextCallback = w₁.nextCallback) (hq : ∀ n ∈ ns, n.ofRecord = false) :
    Life w₁ ns w₂ :=
  single (.quiet hr hn hq)

end Life

/-! ## Every run is a path of steps -/

namespace Act

variable {host : Host κ τ} {c : ContextId} {id : CallbackId} {d : Device} {e : Event} {b : BusId}

theorem life_note {n : Notice} (h : n.ofRecord = false) : (note n : Act κ τ Unit).Obeys Life := by
  refine obeys_note fun w => Life.quiet (fun _ => rfl) rfl fun m hm => ?_
  rwa [List.mem_singleton.1 hm]

theorem life_decide : (decide c id d e : Act κ τ (Verdict κ)).Obeys Life :=
  fun w => .single (.decide w c id d e)

theorem life_commit {wish : Wish} : (commit c id wish : Act κ τ Bool).Obeys Life :=
  fun w => .single (.commit w c id wish)

theorem life_markPending : (markPending c id : Act κ τ Bool).Obeys Life := by
  intro w
  rw [run_markPending]
  exact .single (.mark w c id)

theorem life_insert {events : EventSet} {filter : Filter} {program : κ} :
    (insert c events filter program : Act κ τ _).Obeys Life := by
  refine obeys_insert fun w _ => ?_
  exact .single (.insert w c ⟨⟨w.nextCallback⟩, c, events, filter, program, .active⟩ rfl rfl rfl)

theorem life_teardown : (teardown c : Act κ τ Nat).Obeys Life := by
  intro w
  rw [run_teardown]
  exact .single (.clear w c)

theorem life_attach : (attach c d : Act κ τ Unit).Obeys Life := by
  intro w
  rw [run_attach]
  exact .quiet (fun _ => World.registry_setRoster) rfl (by simp [Notice.ofRecord])

theorem life_detach {i : DeviceId} : (detach c i : Act κ τ _).Obeys Life := by
  refine obeys_detach fun w d rest _ => ?_
  exact .quiet (fun _ => World.registry_setRoster) rfl (List.forall_mem_singleton.2 rfl)

theorem life_openHandle : (openHandle c d : Act κ τ OpenHandle).Obeys Life := by
  intro w
  rw [run_openHandle]
  exact .quiet (fun _ => World.registry_setOpens) rfl (by simp [Notice.ofRecord])

theorem life_closeHandle {h : OpenHandle} : (closeHandle c h : Act κ τ Bool).Obeys Life := by
  refine obeys_closeHandle fun w rest _ => ?_
  exact .quiet (fun _ => World.registry_setOpens) rfl (List.forall_mem_singleton.2 rfl)

theorem life_disconnect {h : OpenHandle} : (disconnect c h : Act κ τ Bool).Obeys Life := by
  refine obeys_disconnect fun w _ => ?_
  exact .quiet (fun _ => World.registry_setPlatform) rfl (forall_mem_givenUp rfl)

theorem life_disconnectOn : (disconnectOn c d : Act κ τ (List OpenHandle)).Obeys Life :=
  closed_obeys.disconnectOn fun _ => life_disconnect

theorem parts_life : Parts (κ := κ) (τ := τ) fun _ x => x.Obeys Life where
  toClosed := closed_obeys
  decide := life_decide
  commit := life_commit
  markPending := life_markPending
  insert := life_insert
  teardown := life_teardown
  attach := life_attach
  detach := life_detach
  openHandle := life_openHandle
  closeHandle := life_closeHandle
  buses _ := obeys_modify fun _ => .quiet (fun _ => rfl) rfl nofun
  delivered := life_note rfl
  registered := life_note rfl
  plugged := life_note rfl
  unplugged := life_note rfl
  notify hv :=
    closed_obeys.notify (life_note rfl) (fun _ => life_note rfl)
      (closed_obeys.pass hv life_disconnectOn)

theorem life_visit (hr : ∀ inv, (host.react inv).Obeys Life) :
    (visit host c d e id).Obeys Life :=
  parts_life.visit hr

theorem life_notify (hr : ∀ inv, (host.react inv).Obeys Life) : (notify host c d e).Obeys Life :=
  parts_life.calm hr (.notify c d e)

/-- **Every run is a path of steps in the lives of records**, whatever its
callbacks do and whether or not they panic. -/
theorem Within.life {x : Act κ τ α} (hx : x.Within Repertoire.Any) : x.Obeys Life :=
  hx.obeys_of_parts parts_life fun _ _ => .quiet (fun _ => rfl) rfl nofun

end Act

/-! ## Steps age records -/

namespace LifeStep

variable {w w' : World κ τ} {ns : List Notice} {c : ContextId} {id : CallbackId}

theorem ages_set {r : Registry κ} (h : (w.registry c).Ages r) (c' : ContextId) :
    (w.registry c').Ages ((w.setRegistry c r).registry c') := by
  rw [World.registry_setRegistry]
  split
  next heq => exact heq ▸ h
  next => exact .refl _

/-- **What a step can do to registries.** It inserts a record under the next
number, or it only ages the records that are there. -/
theorem insert_or_ages (h : LifeStep w ns w') :
    (∃ c x, x.id = ⟨w.nextCallback⟩ ∧ x.owner = c ∧ x.status = .active ∧
      (∀ c', w'.registry c' =
        if c' = c then (w.registry c).insert x else w.registry c') ∧
      w'.nextCallback = w.nextCallback + 1 ∧ ns = [.inserted c x.id]) ∨
    ((∀ c, (w.registry c).Ages (w'.registry c)) ∧ w'.nextCallback = w.nextCallback ∧
      ∀ c id, Notice.inserted c id ∉ ns) := by
  cases h with
  | quiet hr hn hq =>
    refine Or.inr ⟨fun c => hr c ▸ .refl _, hn, fun c id hmem => ?_⟩
    exact absurd (hq _ hmem) nofun
  | insert c x hid howner hs =>
    exact Or.inl ⟨c, x, hid, howner, hs, fun c' => World.registry_setRegistry, rfl, rfl⟩
  | decide c id d e => exact Or.inr ⟨ages_set Registry.ages_decide, rfl, by simp⟩
  | commit c id wish => exact Or.inr ⟨ages_set Registry.ages_commit, rfl, by simp⟩
  | mark c id =>
    refine Or.inr ⟨ages_set Registry.ages_markPending, rfl, fun c id hmem => ?_⟩
    split at hmem <;> simp at hmem
  | clear c =>
    refine Or.inr ⟨ages_set Registry.ages_clear, rfl, fun c id hmem => ?_⟩
    split at hmem <;> simp at hmem

end LifeStep
end DeviceWatch
