import DeviceWatch.Proofs.Lifecycle
/-!
# Identities

In a sound world no two live records share an identity, and every identity was
drawn from the counter. Steps keep worlds sound, since they insert under the
next number only. So an identity has one life: it is inserted once, it may
become pending, it goes once, and nothing brings it back. What is left of an
identity is said by `Retired` and `Gone`, and both last.
-/

namespace DeviceWatch

variable {κ τ : Type}

namespace World

/-- **The records of a sound world.** Every world without records is sound, and
runs keep worlds sound. -/
structure Sound (w : World κ τ) : Prop where
  /-- A registry has no identity twice. -/
  nodup (c : ContextId) : (w.registry c).ids.Nodup
  /-- Every identity was drawn from the counter. -/
  below {c : ContextId} {id : CallbackId} : id ∈ (w.registry c).ids → id.val < w.nextCallback
  /-- No two registries share an identity. -/
  apart {c c' : ContextId} {id : CallbackId} :
    id ∈ (w.registry c).ids → id ∈ (w.registry c').ids → c = c'

theorem sound_of_empty {w : World κ τ} (h : ∀ c, (w.registry c).records = []) : w.Sound where
  nodup c := by simp [Registry.ids, h c]
  below {c id} hid := by simp [Registry.ids, h c] at hid
  apart {c c' id} hid := by simp [Registry.ids, h c] at hid

/-- A fresh context has no records. -/
theorem empty_addContext {w : World κ τ} (h : ∀ c, (w.registry c).records = [])
    (platform : Platform) (settings : ContextSettings) (c : ContextId) :
    ((w.addContext platform settings).1.registry c).records = [] := by
  simp only [registry, context, addContext, Store.get_set]
  split
  · rfl
  · exact h c

/-- The identity was drawn, and no context has an active record with it. -/
structure Retired (w : World κ τ) (id : CallbackId) : Prop where
  drawn : id.val < w.nextCallback
  inactive (c : ContextId) : (w.registry c).status? id ≠ some .active

/-- The identity was drawn, and no context has a live record with it. -/
structure Gone (w : World κ τ) (id : CallbackId) : Prop where
  drawn : id.val < w.nextCallback
  absent (c : ContextId) : id ∉ (w.registry c).ids

theorem Gone.retired {w : World κ τ} {id : CallbackId} (h : w.Gone id) : w.Retired id where
  drawn := h.drawn
  inactive c := by simp [Registry.status?, Registry.get?_eq_none_iff.2 (h.absent c)]

/-- What was live in a context of a sound world, and is not any more after
records have only aged, is gone everywhere. -/
theorem Sound.gone_of_absent {w w' : World κ τ} {c : ContextId} {id : CallbackId} (hw : w.Sound)
    (hle : w.nextCallback ≤ w'.nextCallback)
    (haged : ∀ c, Record.Aged ((w.registry c).get? id) ((w'.registry c).get? id))
    (hlive : id ∈ (w.registry c).ids) (habsent : id ∉ (w'.registry c).ids) : w'.Gone id where
  drawn := Nat.lt_of_lt_of_le (hw.below hlive) hle
  absent c' hid := by
    by_cases hc : c' = c
    · exact habsent (hc ▸ hid)
    · have hnone : (w.registry c').get? id = none :=
        Registry.get?_eq_none_iff.2 fun hlive' => hc (hw.apart hlive' hlive)
      exact Registry.get?_eq_none_iff.1 ((haged c').eq_none hnone) hid

end World

theorem Registry.Ages.mem_ids {r s : Registry κ} {id : CallbackId} (h : r.Ages s)
    (hid : id ∈ s.ids) : id ∈ r.ids := by
  obtain ⟨u, hu⟩ := Registry.mem_ids_iff.1 hid
  obtain ⟨v, hv, -⟩ := (h.aged id).of_some hu
  exact Registry.mem_ids_iff.2 ⟨v, hv⟩

/-- A world stays sound while its records only age. -/
theorem World.Sound.of_ages {w w' : World κ τ} (hw : w.Sound)
    (hages : ∀ c, (w.registry c).Ages (w'.registry c)) (hnext : w'.nextCallback = w.nextCallback) :
    w'.Sound where
  nodup c := (hages c).nodup (hw.nodup c)
  below hid := by
    rw [hnext]
    exact hw.below ((hages _).mem_ids hid)
  apart hid hid' := hw.apart ((hages _).mem_ids hid) ((hages _).mem_ids hid')

/-! ## One step -/

namespace LifeStep

variable {w w' : World κ τ} {ns : List Notice} {c : ContextId} {id : CallbackId}

theorem drawn_le (h : LifeStep w ns w') : w.nextCallback ≤ w'.nextCallback := by
  obtain ⟨c, x, -, -, -, -, hnext, -⟩ | ⟨-, hnext, -⟩ := h.insert_or_ages
  · omega
  · omega

/-- A record with a number already drawn only ages, in every context. -/
theorem aged (h : LifeStep w ns w') (hid : id.val < w.nextCallback) (c : ContextId) :
    Record.Aged ((w.registry c).get? id) ((w'.registry c).get? id) := by
  obtain ⟨c', x, hx, -, -, hreg, -, -⟩ | ⟨hages, -, -⟩ := h.insert_or_ages
  · have hne : x.id ≠ id := by
      rintro rfl
      rw [hx] at hid
      exact Nat.lt_irrefl _ hid
    rw [hreg c]
    split
    next heq => rw [Registry.get?_insert, if_neg hne, Option.or_none, heq]; exact .refl _
    next => exact .refl _
  · exact (hages c).aged id

/-- **A step keeps the world sound.** -/
theorem sound (h : LifeStep w ns w') (hw : w.Sound) : w'.Sound := by
  obtain ⟨c, x, hx, -, -, hreg, hnext, -⟩ | ⟨hages, hnext, -⟩ := h.insert_or_ages
  · -- the new identity is in no registry yet
    have hnew : ∀ c', x.id ∉ (w.registry c').ids := by
      intro c' hmem
      have := hw.below hmem
      rw [hx] at this
      exact Nat.lt_irrefl _ this
    have hmem : ∀ {c' id}, id ∈ (w'.registry c').ids →
        id ∈ (w.registry c').ids ∨ (id = x.id ∧ c' = c) := by
      intro c' id hid
      rw [hreg c'] at hid
      split at hid
      next heq =>
        rw [Registry.ids_insert, List.mem_append, List.mem_singleton] at hid
        rw [heq]
        exact hid.imp_right fun h => ⟨h, rfl⟩
      next => exact Or.inl hid
    refine ⟨fun c' => ?_, fun {c' id} hid => ?_, fun {c' c'' id} hid hid' => ?_⟩
    · rw [hreg c']
      split
      · rw [Registry.ids_insert]
        refine List.Nodup.append (hw.nodup c) (List.nodup_singleton _) ?_
        exact List.disjoint_singleton.2 (hnew c)
      · exact hw.nodup c'
    · rcases hmem hid with hid | ⟨rfl, -⟩
      · have := hw.below hid
        omega
      · rw [hx, hnext]
        exact Nat.lt_succ_self _
    · rcases hmem hid with hid | ⟨rfl, rfl⟩ <;> rcases hmem hid' with hid' | ⟨h, rfl⟩
      · exact hw.apart hid hid'
      · exact absurd (h ▸ hid) (hnew _)
      · exact absurd hid' (hnew _)
      · rfl
  · exact hw.of_ages hages hnext

theorem retired (h : LifeStep w ns w') (hw : w.Retired id) : w'.Retired id where
  drawn := Nat.lt_of_lt_of_le hw.drawn h.drawn_le
  inactive c hact := by
    obtain ⟨u, hu, hs⟩ := Option.map_eq_some_iff.1 hact
    have hu' := (h.aged hw.drawn c).eq_of_active hu hs
    exact hw.inactive c (Registry.status?_eq_some hu' hs)

theorem gone (h : LifeStep w ns w') (hw : w.Gone id) : w'.Gone id where
  drawn := Nat.lt_of_lt_of_le hw.drawn h.drawn_le
  absent c := by
    have hnone := Registry.get?_eq_none_iff.2 (hw.absent c)
    exact Registry.get?_eq_none_iff.1 ((h.aged hw.drawn c).eq_none hnone)

end LifeStep

/-! ## What notices tell of a step -/

namespace LifeStep

variable {w w' : World κ τ} {ns : List Notice} {c : ContextId} {id : CallbackId}

theorem of_inserted (h : LifeStep w ns w') (hn : .inserted c id ∈ ns) :
    id = ⟨w.nextCallback⟩ := by
  obtain ⟨c', x, hx, -, -, -, -, rfl⟩ | ⟨-, -, hno⟩ := h.insert_or_ages
  · obtain ⟨rfl, rfl⟩ : c = c' ∧ id = x.id := by simpa using hn
    exact hx
  · exact absurd hn (hno c id)

theorem of_decided {v : Decision} (h : LifeStep w ns w') (hn : .decided c id v ∈ ns) :
    ∃ d e, v = ((w.registry c).decide id d e).1.decision ∧
      w' = w.setRegistry c ((w.registry c).decide id d e).2 := by
  cases h with
  | quiet _ _ hq => exact absurd (hq _ hn) nofun
  | insert => simp at hn
  | decide c' id' d e =>
    obtain ⟨rfl, rfl, rfl⟩ : c = c' ∧ id = id' ∧ _ := by simpa using hn
    exact ⟨d, e, rfl, rfl⟩
  | commit => simp at hn
  | mark => split at hn <;> simp at hn
  | clear => split at hn <;> simp at hn

theorem of_committed {wish : Wish} {b : Bool} (h : LifeStep w ns w')
    (hn : .committed c id wish b ∈ ns) :
    b = (w.registry c).releases id wish ∧
      w' = w.setRegistry c ((w.registry c).commit id wish) := by
  cases h with
  | quiet _ _ hq => exact absurd (hq _ hn) nofun
  | insert => simp at hn
  | decide => simp at hn
  | commit c' id' wish' =>
    obtain ⟨rfl, rfl, rfl, rfl⟩ : c = c' ∧ id = id' ∧ wish = wish' ∧ _ := by simpa using hn
    exact ⟨rfl, rfl⟩
  | mark => split at hn <;> simp at hn
  | clear => split at hn <;> simp at hn

theorem of_marked (h : LifeStep w ns w') (hn : .marked c id ∈ ns) :
    id ∈ (w.registry c).ids ∧ w' = w.setRegistry c ((w.registry c).markPending id) := by
  cases h with
  | quiet _ _ hq => exact absurd (hq _ hn) nofun
  | insert => simp at hn
  | decide => simp at hn
  | commit => simp at hn
  | mark c' id' =>
    split at hn
    next hlive =>
      obtain ⟨rfl, rfl⟩ : c = c' ∧ id = id' := by simpa using hn
      exact ⟨Registry.contains_iff.1 hlive, rfl⟩
    next => simp at hn
  | clear => split at hn <;> simp at hn

theorem of_toreDown {ids : List CallbackId} (h : LifeStep w ns w') (hn : .toreDown c ids ∈ ns) :
    ids = (w.registry c).ids ∧ w' = w.setRegistry c (w.registry c).clear := by
  cases h with
  | quiet _ _ hq => exact absurd (hq _ hn) nofun
  | insert => simp at hn
  | decide => simp at hn
  | commit => simp at hn
  | mark => split at hn <;> simp at hn
  | clear c' =>
    split at hn
    · obtain ⟨rfl, rfl⟩ : c = c' ∧ ids = (w.registry c').ids := by simpa using hn
      exact ⟨rfl, rfl⟩
    · simp at hn

end LifeStep

/-! ## Removal

A record goes by a decision, by a commit or with its whole registry, and each
of these is noted. -/

/-- Whether the notice tells that the record with an identity went. -/
def Notice.removes (id : CallbackId) : Notice → Bool
  | .decided _ i v => i = id && v = .released
  | .committed _ i _ released => i = id && released
  | .toreDown _ ids => ids.contains id
  | _ => false

/-- Whether the notice tells that the record with an identity was deregistered
or went. -/
def Notice.retires (id : CallbackId) : Notice → Bool
  | .marked _ i => i = id
  | n => n.removes id

theorem Notice.retires_of_removes {id : CallbackId} {n : Notice} (h : n.removes id = true) :
    n.retires id = true := by
  cases n <;> first | exact h | cases h

theorem Notice.ofRecord_of_retires {id : CallbackId} {n : Notice} (h : n.retires id = true) :
    n.ofRecord = true := by
  cases n <;> first | rfl | cases h

namespace LifeStep

variable {w w' : World κ τ} {ns : List Notice} {n : Notice} {c : ContextId} {id : CallbackId}

/-- What is said to go was live in one context, and is not any more. -/
theorem of_removes (h : LifeStep w ns w') (hn : n ∈ ns) (hr : n.removes id = true) :
    ∃ c, id ∈ (w.registry c).ids ∧ id ∉ (w'.registry c).ids := by
  cases n with
  | decided c i v =>
    obtain ⟨rfl, rfl⟩ : i = id ∧ v = .released := by simpa [Notice.removes] using hr
    obtain ⟨d, e, hv, rfl⟩ := h.of_decided hn
    refine ⟨c, ?_⟩
    rw [World.registry_setRegistry, if_pos rfl]
    exact Registry.decide_removes_iff.2 hv.symm
  | committed c i wish b =>
    obtain ⟨rfl, rfl⟩ : i = id ∧ b = true := by simpa [Notice.removes] using hr
    obtain ⟨hb, rfl⟩ := h.of_committed hn
    refine ⟨c, ?_⟩
    rw [World.registry_setRegistry, if_pos rfl]
    exact Registry.commit_removes_iff.2 hb.symm
  | toreDown c ids =>
    obtain ⟨rfl, rfl⟩ := h.of_toreDown hn
    refine ⟨c, by simpa [Notice.removes] using hr, ?_⟩
    rw [World.registry_setRegistry, if_pos rfl, Registry.ids_clear]
    exact List.not_mem_nil
  | _ => cases hr

/-- In a sound world what is said to go is nowhere afterwards. -/
theorem gone_of_removes (h : LifeStep w ns w') (hw : w.Sound) (hn : n ∈ ns)
    (hr : n.removes id = true) : w'.Gone id := by
  obtain ⟨c, hlive, hdead⟩ := h.of_removes hn hr
  exact hw.gone_of_absent h.drawn_le (h.aged (hw.below hlive)) hlive hdead

/-- In a sound world what is said to retire is active nowhere afterwards. -/
theorem retired_of_retires (h : LifeStep w ns w') (hw : w.Sound) (hn : n ∈ ns)
    (hr : n.retires id = true) : w'.Retired id := by
  by_cases hr' : n.removes id = true
  · exact (h.gone_of_removes hw hn hr').retired
  cases n with
  | marked c i =>
    obtain rfl : i = id := by simpa [Notice.retires] using hr
    obtain ⟨hlive, rfl⟩ := h.of_marked hn
    refine ⟨hw.below hlive, fun c' hact => ?_⟩
    obtain ⟨x, hx, hs⟩ := Option.map_eq_some_iff.1 hact
    rw [World.registry_setRegistry] at hx
    split at hx
    next =>
      rw [Registry.get?_markPending, if_pos rfl] at hx
      obtain ⟨y, -, rfl⟩ := Option.map_eq_some_iff.1 hx
      cases hs
    next hne =>
      exact hne (hw.apart hlive (Registry.mem_ids_iff.2 ⟨x, hx⟩)).symm
  | _ => exact absurd hr hr'

/-- What is gone is neither deregistered nor removed. -/
theorem not_retires_of_gone (h : LifeStep w ns w') (hw : w.Gone id) (hn : n ∈ ns) :
    n.retires id = false := by
  rw [Bool.eq_false_iff]
  intro hr
  by_cases hr' : n.removes id = true
  · obtain ⟨c, hlive, -⟩ := h.of_removes hn hr'
    exact hw.absent c hlive
  cases n with
  | marked c i =>
    obtain rfl : i = id := by simpa [Notice.retires] using hr
    exact hw.absent c (h.of_marked hn).1
  | _ => exact hr' hr

/-- No step inserts a record under a number drawn before. -/
theorem not_inserted (h : LifeStep w ns w') (hid : id.val < w.nextCallback) :
    .inserted c id ∉ ns := by
  intro hn
  rw [h.of_inserted hn] at hid
  exact Nat.lt_irrefl _ hid

/-- No decision has the callback of a retired record run. -/
theorem not_invoked (h : LifeStep w ns w') (hw : w.Retired id) : .decided c id .invoke ∉ ns := by
  intro hn
  obtain ⟨d, e, hv, -⟩ := h.of_decided hn
  obtain ⟨x, hx, hact, -⟩ := Registry.decide_eq_invoke_iff.1 hv.symm
  exact hw.inactive c (Registry.status?_eq_some hx hact)

/-- Every decision about a record that is gone finds it gone. -/
theorem decided_gone {v : Decision} (h : LifeStep w ns w') (hw : w.Gone id)
    (hn : .decided c id v ∈ ns) : v = .gone := by
  obtain ⟨d, e, rfl, -⟩ := h.of_decided hn
  exact Registry.decide_eq_gone_iff.2 (hw.absent c)

/-- A step has at most one notice of records. -/
theorem eq_singleton (h : LifeStep w ns w') (hn : n ∈ ns) (ho : n.ofRecord = true) :
    ns = [n] := by
  cases h with
  | quiet _ _ hq => rw [hq n hn] at ho; cases ho
  | mark => split at hn <;> simp_all
  | clear => split at hn <;> simp_all
  | _ => simp_all

end LifeStep
end DeviceWatch
