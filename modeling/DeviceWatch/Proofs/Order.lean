import Mathlib.Data.List.Perm.Subperm
import DeviceWatch.Proofs.Balance
import DeviceWatch.Proofs.Moments
import DeviceWatch.Proofs.Registration
/-!
# Registries in order

Contexts share one counter and nothing else. `World.InOrder` says what this comes
to: a registry holds the records of its own context and no more than its settings
allow, each under its own identity, and no identity is in two registries. Every
single step keeps a world in order, so a world is in order at every moment of a
run, whatever is under way. An identity that was issued by one context is foreign
to all others ever after, also once its record is gone.
-/

namespace DeviceWatch

variable {κ τ α : Type}

/-- A set of events has no bits but those of the two events. -/
theorem EventSet.bits_and_all (s : EventSet) : s.bits &&& EventSet.all.bits = s.bits := by
  rcases s with ⟨_ | _, _ | _⟩ <;> decide

namespace Registry

variable {r s : Registry κ} {x : Record κ} {id : CallbackId}

theorem mem_of_get? (h : r.get? id = some x) : x ∈ r.records ∧ x.id = id :=
  ⟨List.mem_of_find?_eq_some h, by simpa using List.find?_some h⟩

/-- Where no identity is there twice, a record is found under its own. -/
theorem get?_of_mem (hn : r.ids.Nodup) (hx : x ∈ r.records) : r.get? x.id = some x := by
  obtain ⟨y, hy⟩ := mem_ids_iff.1 (List.mem_map_of_mem (f := Record.id) hx)
  obtain ⟨hmem, hid⟩ := mem_of_get? hy
  rw [hy, List.inj_on_of_nodup_map hn hmem hx hid]

/-- No record is there that was not there before, under the same owner. -/
theorem Ages.exists_origin (h : r.Ages s) (hn : r.ids.Nodup) (hx : x ∈ s.records) :
    ∃ y ∈ r.records, y.owner = x.owner := by
  have hget := get?_of_mem (h.nodup hn) hx
  obtain ⟨y, hy, -, howner, -⟩ := (h.aged x.id).of_some hget
  exact ⟨y, (mem_of_get? hy).1, howner⟩

theorem markPending_of_not_mem (h : id ∉ r.ids) : r.markPending id = r := by
  have hsame : r.records.map (fun x => if x.id == id then { x with status := .pending } else x) =
      r.records.map fun x => x := by
    refine List.map_congr_left fun x hx => ?_
    have hne : x.id ≠ id := by
      rintro rfl
      exact h (List.mem_map_of_mem hx)
    simp [hne]
  rw [markPending, hsame, List.map_id']

/-- Ageing makes no more records. -/
theorem Ages.size_le (h : r.Ages s) (hn : r.ids.Nodup) : s.size ≤ r.size := by
  have hsub : s.ids.Subperm r.ids := (h.nodup hn).subperm fun _ => h.mem_ids
  rw [size_eq, size_eq]
  exact hsub.length_le

theorem limit_decide {d : Device} {e : Event} : (r.decide id d e).2.limit = r.limit := by
  obtain h | ⟨h, -, -⟩ : (r.decide id d e).2 = r ∨ _ := decide_snd d e
  · rw [h]
  · rw [h]
    rfl

theorem limit_commit {wish : Wish} : (r.commit id wish).limit = r.limit := by
  unfold commit
  split <;> rfl

/-- Where a registry is not full there is room for one more record. -/
theorem size_lt_of_not_isFull {m : Nat} (h : r.isFull = false) (hm : r.limit = some m) :
    r.size < m := by
  unfold isFull at h
  rw [hm] at h
  simpa using h

end Registry

/-- To deregister is to mark, where registrations are offered at all. -/
theorem Act.run_deregister (w : World κ τ) (c : ContextId) (id : CallbackId) :
    (deregister c id).run w =
      if (w.context c).hasHotplug then
        { result := some ()
          world := ((markPending c id).run w).world
          notices := ((markPending c id).run w).notices }
      else { result := some (), world := w } := by
  unfold deregister
  rw [run_bind, run_context, Effect.andThen_some]
  by_cases h : (w.context c).hasHotplug = true
  · rw [if_pos h, if_pos h, run_bind, run_markPending]
    simp only [Effect.andThen_some, run_pure, List.append_nil, List.nil_append]
  · rw [if_neg h, if_neg h]
    rfl

/-! ## Worlds in order -/

/-- **The records of a world are in order.** -/
structure World.InOrder (w : World κ τ) : Prop extends World.Sound w where
  /-- A record is found under its own identity. -/
  found {c : ContextId} {x : Record κ} :
    x ∈ (w.registry c).records → (w.registry c).get? x.id = some x
  /-- It is in the registry of its own context. -/
  owner {c : ContextId} {x : Record κ} : x ∈ (w.registry c).records → x.owner = c
  /-- It listens for no other events than there are. -/
  known {c : ContextId} {x : Record κ} :
    x ∈ (w.registry c).records → x.events.bits &&& EventSet.all.bits = x.events.bits
  /-- A registry takes its limit from the settings of its context. -/
  limit (c : ContextId) :
    (w.registry c).limit = (w.context c).settings.maxCallbacks.map UInt64.toNat
  /-- It never holds more records than that, the pending ones included. -/
  room (c : ContextId) {m : UInt64} :
    (w.context c).settings.maxCallbacks = some m → (w.registry c).size ≤ m.toNat

/-- In a sound world only owners and limits are left to look after. -/
theorem World.Sound.inOrder {w : World κ τ} (hw : w.Sound)
    (howner : ∀ c, ∀ x ∈ (w.registry c).records, x.owner = c)
    (hlimit : ∀ c, (w.registry c).limit = (w.context c).settings.maxCallbacks.map UInt64.toNat)
    (hroom : ∀ c m, (w.context c).settings.maxCallbacks = some m →
      (w.registry c).size ≤ m.toNat) : w.InOrder where
  toSound := hw
  found hx := Registry.get?_of_mem (hw.nodup _) hx
  owner hx := howner _ _ hx
  known _ := EventSet.bits_and_all _
  limit := hlimit
  room c _ hm := hroom c _ hm

/-- Nothing that is done under an identity in a context changes any registry. -/
structure World.Foreign (w : World κ τ) (c : ContextId) (id : CallbackId) : Prop where
  /-- A decision finds no record. -/
  decide (d : Device) (e : Event) :
    ((Act.decide c id d e).run w).result = some .gone ∧
      ∀ c', ((Act.decide c id d e).run w).world.registry c' = w.registry c'
  /-- A commit releases none. -/
  commit (wish : Wish) :
    ((Act.commit c id wish).run w).result = some false ∧
      ∀ c', ((Act.commit c id wish).run w).world.registry c' = w.registry c'
  /-- No record is made pending. -/
  markPending :
    ((Act.markPending c id).run w).result = some false ∧
      ∀ c', ((Act.markPending c id).run w).world.registry c' = w.registry c'
  deregister :
    ((Act.deregister c id).run w).result = some () ∧
      ∀ c', ((Act.deregister c id).run w).world.registry c' = w.registry c'

namespace World

variable {w : World κ τ} {c : ContextId} {id : CallbackId}

/-- A world without contexts is in order. -/
theorem inOrder_bare (m : τ) : ({ memory := m } : World κ τ).InOrder := by
  have hsound : ({ memory := m } : World κ τ).Sound := sound_of_empty fun _ => rfl
  refine hsound.inOrder (fun _ _ hx => absurd hx List.not_mem_nil) (fun _ => rfl) ?_
  intro c most hmost
  cases hmost

/-- To put a registry back changes none. -/
theorem registry_setRegistry_self (c' : ContextId) :
    (w.setRegistry c (w.registry c)).registry c' = w.registry c' := by
  rw [registry_setRegistry]
  split
  next h => rw [h]
  next => rfl

/-- An identity without a record in a context is foreign to it. -/
theorem foreign_of_absent (h : id ∉ (w.registry c).ids) : w.Foreign c id := by
  have hnone : (w.registry c).get? id = none := Registry.get?_eq_none_iff.2 h
  have hmark : ∀ c', ((Act.markPending c id).run w).world.registry c' = w.registry c' := by
    intro c'
    rw [Act.run_markPending, Registry.markPending_of_not_mem h]
    exact registry_setRegistry_self c'
  refine ⟨fun d e => ?_, fun wish => ?_, ⟨?_, hmark⟩, ?_, fun c' => ?_⟩
  · rw [Act.run_decide, Registry.decide_of_none hnone]
    exact ⟨rfl, registry_setRegistry_self⟩
  · have hkeeps : (w.registry c).releases id wish = false := by
      unfold Registry.releases
      rw [hnone]
    rw [Act.run_commit, hkeeps, Registry.commit_of_not_releases hkeeps]
    exact ⟨rfl, registry_setRegistry_self⟩
  · rw [Act.run_markPending, Registry.contains, hnone]
    rfl
  · rw [Act.run_deregister]
    split <;> rfl
  · rw [Act.run_deregister]
    split
    · exact hmark c'
    · rfl

end World

/-! ## One step -/

/-- A world is in order after what happened, and what was issued stays where it
was issued. -/
structure Ordered (w : World κ τ) (ns : List Notice) (w' : World κ τ) : Prop where
  order : w'.InOrder
  drawn : w.nextCallback ≤ w'.nextCallback
  /-- No record comes to be under an identity drawn before. -/
  absent {c : ContextId} {id : CallbackId} :
    id.val < w.nextCallback → id ∉ (w.registry c).ids → id ∉ (w'.registry c).ids
  /-- What was issued on the way was drawn, and is in no other registry. -/
  issued {c : ContextId} {id : CallbackId} : .inserted c id ∈ ns →
    id.val < w'.nextCallback ∧ ∀ c', id ∈ (w'.registry c').ids → c' = c

/-- Worlds stay in order. -/
def Orderly : Law κ τ :=
  fun w ns w' => w.InOrder → Ordered w ns w'

namespace Ordered

variable {w w₁ w₂ w₃ w' : World κ τ} {ns ms : List Notice}

theorem refl (hw : w.InOrder) : Ordered w [] w :=
  ⟨hw, Nat.le_refl _, fun _ h => h, fun h => absurd h List.not_mem_nil⟩

theorem trans (h₁ : Ordered w₁ ns w₂) (h₂ : Ordered w₂ ms w₃) : Ordered w₁ (ns ++ ms) w₃ where
  order := h₂.order
  drawn := Nat.le_trans h₁.drawn h₂.drawn
  absent hid hnot := h₂.absent (Nat.lt_of_lt_of_le hid h₁.drawn) (h₁.absent hid hnot)
  issued := by
    intro c id hmem
    rcases List.mem_append.1 hmem with hmem | hmem
    · obtain ⟨hid, honly⟩ := h₁.issued hmem
      refine ⟨Nat.lt_of_lt_of_le hid h₂.drawn, fun c' hlive => ?_⟩
      -- It was in no other registry when it was issued, so it is in none later on.
      by_contra hc
      exact h₂.absent hid (fun hbefore => hc (honly c' hbefore)) hlive
    · exact h₂.issued hmem

instance : Law.Composes (Orderly (κ := κ) (τ := τ)) where
  refl _ := refl
  trans h₁ h₂ hw := (h₁ hw).trans (h₂ (h₁ hw).order)

/-- What only ages records keeps a world in order. A registry keeps its limit, unless it
is a fresh one. -/
theorem of_ages (hw : w.InOrder) (hages : ∀ c, (w.registry c).Ages (w'.registry c))
    (hlimit : ∀ c, (w'.registry c).limit = (w'.context c).settings.maxCallbacks.map UInt64.toNat)
    (hkept : ∀ c, (w'.context c).settings = (w.context c).settings ∨ (w'.registry c).records = [])
    (hnext : w'.nextCallback = w.nextCallback) (hns : ∀ c id, Notice.inserted c id ∉ ns) :
    Ordered w ns w' where
  order := by
    have hsound : w'.Sound := hw.of_ages hages hnext
    refine hsound.inOrder (fun c x hx => ?_) hlimit fun c m hm => ?_
    · obtain ⟨y, hy, howner⟩ := (hages c).exists_origin (hw.nodup c) hx
      rw [← howner]
      exact hw.owner hy
    · rcases hkept c with hsame | hnone
      · rw [hsame] at hm
        exact Nat.le_trans ((hages c).size_le (hw.nodup c)) (hw.room c hm)
      · unfold Registry.size
        rw [hnone]
        exact Nat.zero_le _
  drawn := Nat.le_of_eq hnext.symm
  absent _ hnot hlive := hnot ((hages _).mem_ids hlive)
  issued hmem := absurd hmem (hns _ _)

/-- To change one registry by ageing its records keeps a world in order. -/
theorem setRegistry {c : ContextId} {r : Registry κ} (hw : w.InOrder)
    (hages : (w.registry c).Ages r) (hlimit : r.limit = (w.registry c).limit)
    (hns : ∀ c id, Notice.inserted c id ∉ ns) : Ordered w ns (w.setRegistry c r) := by
  have hset : ∀ c', ((w.setRegistry c r).context c').settings = (w.context c').settings :=
    fun _ => World.part_modifyContext Context.settings fun _ => rfl
  refine of_ages hw (LifeStep.ages_set hages) (fun c' => ?_) (fun c' => .inl (hset c')) rfl hns
  rw [hset, ← hw.limit c', World.registry_setRegistry]
  split
  next h => rw [hlimit, h]
  next => rfl

/-- So does what touches no registry. -/
theorem neutral (hw : w.InOrder) (h : Neutral w ns w') : Ordered w ns w' := by
  refine of_ages hw (fun c => ?_) (fun c => ?_) (fun c => .inl (h.settings c)) h.nextCallback ?_
  · rw [h.registry]
    exact .refl _
  · rw [h.registry, h.settings]
    exact hw.limit c
  · intro c id hmem
    exact absurd (h.silent _ hmem) nofun

/-- A fresh context takes its limit from its settings. -/
theorem addContext (hw : w.InOrder) (platform : Platform) (settings : ContextSettings) :
    Ordered w [] (w.addContext platform settings).1 := by
  have hcontext : ∀ c, (w.addContext platform settings).1.context c =
      if c.val = w.nextContext then .create platform settings else w.context c :=
    fun c => Store.get_set _ _ _ _
  refine of_ages hw (fun c => ?_) (fun c => ?_) (fun c => ?_) rfl (by simp)
  all_goals simp only [World.registry, hcontext]
  all_goals split
  · exact ⟨fun _ => List.nodup_nil, fun _ => Or.inr (Or.inr rfl)⟩
  · exact .refl _
  · rfl
  · exact hw.limit c
  · exact .inr rfl
  · exact .inl rfl

/-- A new record takes the next identity, where there is room. -/
theorem enrol {c : ContextId} {f : Filter} {m : EventSet} {program : κ} (hw : w.InOrder)
    (hroom : (w.registry c).isFull = false) :
    Ordered w [.inserted c ⟨w.nextCallback⟩] (w.enrol c f m program) := by
  have hsound : (w.enrol c f m program).Sound := (Act.life_enrol hroom).sound hw.toSound
  have hreg : ∀ c', (w.enrol c f m program).registry c' =
      if c' = c then (w.registry c).insert ⟨⟨w.nextCallback⟩, c, m, f, program, .active⟩
      else w.registry c' := fun _ => World.registry_setRegistry
  have hset : ∀ c', ((w.enrol c f m program).context c').settings = (w.context c').settings :=
    fun _ => World.part_modifyContext Context.settings fun _ => rfl
  have hnew : ⟨w.nextCallback⟩ ∈ ((w.enrol c f m program).registry c).ids := by
    rw [hreg, if_pos rfl, Registry.ids_insert]
    exact List.mem_append_right _ (List.mem_singleton_self _)
  refine ⟨hsound.inOrder ?owner ?limit ?room, Nat.le_succ _, ?absent, ?issued⟩
  case owner =>
    intro c' x hx
    rw [hreg] at hx
    split at hx
    next hc =>
      rcases List.mem_append.1 hx with hx | hx
      · rw [hc]
        exact hw.owner hx
      · rw [List.mem_singleton.1 hx, hc]
    next => exact hw.owner hx
  case limit =>
    intro c'
    rw [hset, ← hw.limit c', hreg]
    split
    next hc =>
      rw [hc]
      rfl
    next => rfl
  case room =>
    intro c' most hmost
    rw [hset] at hmost
    rw [hreg]
    split
    next hc =>
      subst hc
      have hlimit : (w.registry c').limit = some most.toNat := by rw [hw.limit, hmost]; rfl
      rw [Registry.size_insert]
      exact Registry.size_lt_of_not_isFull hroom hlimit
    next => exact hw.room c' hmost
  case absent =>
    intro c' id hid hnot hlive
    rw [hreg] at hlive
    split at hlive
    next hc =>
      rw [Registry.ids_insert, List.mem_append, List.mem_singleton] at hlive
      rcases hlive with hlive | rfl
      · exact hnot (hc ▸ hlive)
      · exact Nat.lt_irrefl _ hid
    next => exact hnot hlive
  case issued =>
    intro c' id hmem
    obtain ⟨rfl, rfl⟩ : c' = c ∧ id = ⟨w.nextCallback⟩ := by simpa using hmem
    exact ⟨Nat.lt_succ_self _, fun c'' hlive => hsound.apart hlive hnew⟩

end Ordered

/-! ## Runs -/

namespace Act

variable {x : Act κ τ α} {w v : World κ τ} {ns : List Notice}

theorem orderly_single {host : Host κ τ} (h : Repertoire.Single host α x) : x.Obeys Orderly := by
  intro w hw
  cases h with
  | insert c events filter program =>
    exact obeys_insert (L := Orderly) (fun _ hroom hw => .enrol hw hroom) w hw
  | decide c id d e =>
    rw [run_decide]
    exact .setRegistry hw Registry.ages_decide Registry.limit_decide (by simp)
  | commit c id wish =>
    rw [run_commit]
    exact .setRegistry hw Registry.ages_commit Registry.limit_commit (by simp)
  | markPending c id =>
    rw [run_markPending]
    refine .setRegistry hw Registry.ages_markPending rfl fun c id hmem => ?_
    split at hmem <;> simp at hmem
  | teardown c =>
    rw [run_teardown]
    refine .setRegistry hw Registry.ages_clear rfl fun c id hmem => ?_
    split at hmem <;> simp at hmem
  | create platform settings => exact .addContext hw platform settings
  | neutral h => exact .neutral hw (h w)
  | panic => exact .refl hw

/-- **Registries are in order at every moment of a run**, over any number of contexts,
whatever callbacks do and whether or not they panic. What one context issued is foreign to
all others. -/
theorem Within.in_order (hx : x.Within Repertoire.Open) (hw : w.InOrder)
    (hv : x.Comes Repertoire.Single w ns v) :
    v.InOrder ∧ ∀ c c' id, .inserted c id ∈ ns → c' ≠ c → v.Foreign c' id := by
  have hlaw : ∀ {β : Type} {y : Act κ τ β}, y.Within Repertoire.Single → y.Obeys Orderly := by
    intro β y hy
    refine hy.obeys (fun w f hw => ?_) fun _ _ hsingle => orderly_single hsingle
    exact .neutral hw ⟨fun _ => rfl, fun _ => rfl, rfl, List.forall_mem_nil _⟩
  have hordered := hv.obeys hlaw hx.single hw
  refine ⟨hordered.order, fun c c' id hmem hne => ?_⟩
  obtain ⟨-, honly⟩ := hordered.issued hmem
  exact World.foreign_of_absent fun hlive => hne (honly c' hlive)

/-- Callbacks that register another one with the second context, take themselves off the
wrong context, and panic. -/
def crossing : Host Unit Unit where
  react inv := do
    let _ ← register Host.idle ⟨2⟩ { events := .all, program := some () }
    deregister ⟨2⟩ inv.callback
    panic
  order _ ids := ids
  order_perm _ _ := .refl _

/-- Two contexts are made, the first with room for one callback, which then hears of a
departure. -/
def crossContexts : Act Unit Unit Tally := do
  let _ ← create (.simulated true []) { maxCallbacks := some 1 }
  let _ ← create (.simulated true []) {}
  let _ ← register crossing ⟨1⟩ { events := .all, program := some () }
  notify crossing ⟨1⟩ default .left

theorem crossing_within : crossing.Within Repertoire.Open := by
  intro inv
  refine .bind (.op .idle Host.idle_within (.any (.calm (.register _ _)))) fun _ => ?_
  refine .bind (.op .idle Host.idle_within (.any (.calm (.deregister _ _)))) fun _ => ?_
  exact .op .idle Host.idle_within (.any .panic)

theorem crossContexts_within : crossContexts.Within Repertoire.Open := by
  refine .bind (.op .idle Host.idle_within (.create _ _)) fun _ => ?_
  refine .bind (.op .idle Host.idle_within (.create _ _)) fun _ => ?_
  refine .bind (.op _ crossing_within (.any (.calm (.register _ _)))) fun _ => ?_
  exact .op _ crossing_within (.any (.calm (.notify _ _ _)))

/-- While the callback of a pass is about to panic, each of two contexts has a record of
its own and cannot reach that of the other. -/
theorem in_order_while_crossing :
    ∃ v, crossContexts.Comes Repertoire.Single { memory := () }
        [.inserted ⟨1⟩ ⟨1⟩, .registered ⟨1⟩ ⟨1⟩ .any .all .none [],
          .passBegan ⟨1⟩ default .left, .decided ⟨1⟩ ⟨1⟩ .invoke,
          .delivered ⟨1⟩ ⟨1⟩ default .left, .inserted ⟨2⟩ ⟨2⟩,
          .registered ⟨2⟩ ⟨2⟩ .any .all .none []] v ∧
      (v.registry ⟨1⟩).ids = [⟨1⟩] ∧ (v.registry ⟨2⟩).ids = [⟨2⟩] ∧
      v.InOrder ∧ v.Foreign ⟨2⟩ ⟨1⟩ ∧ v.Foreign ⟨1⟩ ⟨2⟩ := by
  have hcrossing : crossing.Within Repertoire.Single := fun inv => (crossing_within inv).single
  have hregister : ∀ c, (register Host.idle c { events := .all, program := some () } :
      Act Unit Unit _).Within Repertoire.Single :=
    fun c => parts_single.calm (fun _ => .pure _) (.register c _)
  have hcreate : ∀ platform settings,
      (create platform settings : Act Unit Unit _).Within Repertoire.Single :=
    fun platform settings => .op .idle Host.idle_within (.create platform settings)
  have hbegin : (register crossing ⟨1⟩ { events := .all, program := some () }).Within
      Repertoire.Single := parts_single.calm hcrossing (.register _ _)
  have hpass : (notify crossing ⟨1⟩ default .left).Within Repertoire.Single :=
    parts_single.calm hcrossing (.notify _ _ _)
  -- The moment is reached within the first of the three acts of the callback.
  have hcall : ∀ w : World Unit Unit,
      (crossing.react ⟨⟨1⟩, ⟨1⟩, (), default, .left⟩).Comes Repertoire.Single w _ _ :=
    fun w => .first (hregister ⟨2⟩) (.finish _ w)
  have hcomes : crossContexts.Comes Repertoire.Single { memory := () }
      [.inserted ⟨1⟩ ⟨1⟩, .registered ⟨1⟩ ⟨1⟩ .any .all .none [],
        .passBegan ⟨1⟩ default .left, .decided ⟨1⟩ ⟨1⟩ .invoke,
        .delivered ⟨1⟩ ⟨1⟩ default .left, .inserted ⟨2⟩ ⟨2⟩,
        .registered ⟨2⟩ ⟨2⟩ .any .all .none []] _ :=
    .next (hcreate _ _) (.bind (hcreate _ _) fun _ => .bind hbegin fun _ => hpass) rfl
      (.next (hcreate _ _) (.bind hbegin fun _ => hpass) rfl
        (.next hbegin hpass rfl
          (.notify hcrossing (.visitAll_cons hcrossing (.visit hcrossing rfl (hcall _))))))
  refine ⟨_, hcomes, rfl, rfl, ?_⟩
  obtain ⟨horder, hforeign⟩ := crossContexts_within.in_order (World.inOrder_bare ()) hcomes
  refine ⟨horder, hforeign ⟨1⟩ ⟨2⟩ ⟨1⟩ ?_ (by decide), hforeign ⟨2⟩ ⟨1⟩ ⟨2⟩ ?_ (by decide)⟩
  · simp
  · simp

end Act
end DeviceWatch
