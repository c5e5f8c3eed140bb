import DeviceWatch.Proofs.Balance
/-!
# What notices make of a record

The notices of a path say what became of a record that was live at its
beginning, to the last field: it went, or it was deregistered, or it is as it
was. Nothing has to be known of the worlds on the way.
-/

namespace DeviceWatch

variable {κ τ : Type}

namespace Record

/-- **What became of a record** after all that was noted. -/
def after (x : Record κ) (ns : List Notice) : Option (Record κ) :=
  if ns.any (Notice.removes x.id) then none
  else if ns.any (Notice.retires x.id) then some x.retired
  else some x

variable {x : Record κ} {ns ms : List Notice}

/-- Notices that tell the same of a record make the same of it. -/
theorem after_congr (hrem : ns.any (Notice.removes x.id) = ms.any (Notice.removes x.id))
    (hret : ns.any (Notice.retires x.id) = ms.any (Notice.retires x.id)) :
    x.after ns = x.after ms := by
  rw [after, after, hrem, hret]

theorem retired_of_not_active (h : x.status ≠ .active) : x.retired = x := by
  rcases hs : x.status with _ | _
  · exact absurd hs h
  · rw [retired, ← hs]

end Record

/-- What is pending in a context of a sound world is active in none. -/
theorem World.Sound.retired_of_pending {w : World κ τ} {c : ContextId} {id : CallbackId}
    (hw : w.Sound) (h : (w.registry c).status? id = some .pending) : w.Retired id := by
  obtain ⟨x, hx, hs⟩ := Option.map_eq_some_iff.1 h
  have hlive : id ∈ (w.registry c).ids := Registry.mem_ids_iff.2 ⟨x, hx⟩
  refine ⟨hw.below hlive, fun c' hact => ?_⟩
  obtain ⟨y, hy, -⟩ := Option.map_eq_some_iff.1 hact
  obtain rfl : c' = c := hw.apart (Registry.mem_ids_iff.2 ⟨y, hy⟩) hlive
  cases h.symm.trans hact

/-! ## What is not retired -/

/-- A step that tells nothing of a record leaves it as it is. -/
theorem LifeStep.get?_of_not_retires {w w' : World κ τ} {ns : List Notice} {c : ContextId}
    {id : CallbackId} {x : Record κ} (h : LifeStep w ns w')
    (hx : (w.registry c).get? id = some x) (hno : ∀ n ∈ ns, n.retires id = false) :
    (w'.registry c).get? id = some x := by
  have hlive : id ∈ (w.registry c).ids := Registry.mem_ids_iff.2 ⟨x, hx⟩
  cases h with
  | quiet hr =>
    rw [hr c]
    exact hx
  | insert c' y =>
    rw [World.registry_setRegistry]
    split
    next heq => rw [Registry.get?_insert, ← heq, hx, Option.some_or]
    next => exact hx
  | decide c' i d e =>
    rw [World.registry_setRegistry]
    split
    next heq =>
      subst heq
      obtain hsame | ⟨herase, hv, -⟩ : ((w.registry c).decide i d e).2 = _ ∨ _ :=
        Registry.decide_snd d e
      · rw [hsame]
        exact hx
      · have hne : id ≠ i := by
          rintro rfl
          simp [Notice.retires, Notice.removes, hv] at hno
        rw [herase, Registry.get?_erase, if_neg hne]
        exact hx
    next => exact hx
  | commit c' i wish =>
    rw [World.registry_setRegistry]
    split
    next heq =>
      subst heq
      rcases hrel : (w.registry c).releases i wish with _ | _
      · rw [Registry.commit_of_not_releases hrel]
        exact hx
      · have hne : id ≠ i := by
          rintro rfl
          simp [Notice.retires, Notice.removes, hrel] at hno
        rw [Registry.commit_of_releases hrel, Registry.get?_erase, if_neg hne]
        exact hx
    next => exact hx
  | mark c' i =>
    rw [World.registry_setRegistry]
    split
    next heq =>
      subst heq
      have hne : id ≠ i := by
        rintro rfl
        simp [Notice.retires, Registry.contains_iff.2 hlive] at hno
      rw [Registry.get?_markPending, if_neg hne]
      exact hx
    next => exact hx
  | clear c' =>
    rw [World.registry_setRegistry]
    split
    next heq =>
      subst heq
      have hpos : 0 < (w.registry c).size := by
        rw [Registry.size_eq]
        exact List.length_pos_of_mem hlive
      simp [Notice.retires, Notice.removes, hpos, hlive] at hno
    next => exact hx

namespace Life

variable {w w' : World κ τ} {ns : List Notice} {n : Notice} {c : ContextId} {id : CallbackId}
variable {x : Record κ}

theorem get?_of_not_retires (h : Life w ns w') (hx : (w.registry c).get? id = some x)
    (hno : ∀ n ∈ ns, n.retires id = false) : (w'.registry c).get? id = some x := by
  induction h with
  | refl => exact hx
  | step hs _ ih =>
    obtain ⟨hfirst, hrest⟩ := List.forall_mem_append.1 hno
    exact ih (hs.get?_of_not_retires hx hfirst) hrest

/-- What was reported to retire is retired. -/
theorem retired_of_retires (h : Life w ns w') (hw : w.Sound) (hn : n ∈ ns)
    (hr : n.retires id = true) : w'.Retired id := by
  obtain ⟨before, after, rfl⟩ := List.append_of_mem hn
  obtain ⟨w₁, w₂, hbefore, hcut, hafter⟩ := h.cut (Notice.ofRecord_of_retires hr)
  have hcutoff := hcut.retired_of_retires (hbefore.sound hw) (List.mem_singleton_self n) hr
  exact hafter.retired hcutoff

/-- **The notices of a path say what became of every record** that was live at its
beginning. -/
theorem get?_eq_after (h : Life w ns w') (hw : w.Sound)
    (hx : (w.registry c).get? id = some x) : (w'.registry c).get? id = x.after ns := by
  obtain rfl : x.id = id := by simpa using List.find?_some hx
  have hlive : x.id ∈ (w.registry c).ids := Registry.mem_ids_iff.2 ⟨x, hx⟩
  by_cases hrem : ns.any (Notice.removes x.id) = true
  · obtain ⟨n, hn, hr⟩ := List.any_eq_true.1 hrem
    rw [Record.after, if_pos hrem, Registry.get?_eq_none_iff]
    exact (h.gone_of_removes hw hn hr).absent c
  by_cases hret : ns.any (Notice.retires x.id) = true
  · -- it is live still, not active any more, and nothing else about it changed
    obtain ⟨n, hn, hr⟩ := List.any_eq_true.1 hret
    have hstay : x.id ∈ (w'.registry c).ids := by
      by_contra habsent
      obtain ⟨m, hm, hmr⟩ := h.removes_of_absent hlive habsent
      exact hrem (List.any_eq_true.2 ⟨m, hm, hmr⟩)
    obtain ⟨y, hy⟩ := Registry.mem_ids_iff.1 hstay
    have hinactive := (h.retired_of_retires hw hn hr).inactive c
    rw [Record.after, if_neg hrem, if_pos hret, hy]
    obtain hsame | hmarked | hnone := h.aged (hw.below hlive) c
    · rw [hy, hx] at hsame
      obtain rfl := Option.some.inj hsame
      rw [Record.retired_of_not_active fun hs => hinactive (Registry.status?_eq_some hy hs)]
    · rw [hy, hx] at hmarked
      exact hmarked
    · rw [hy] at hnone
      cases hnone
  · rw [Record.after, if_neg hrem, if_neg hret]
    refine h.get?_of_not_retires hx fun n hn => ?_
    rw [Bool.eq_false_iff]
    intro hr
    exact hret (List.any_eq_true.2 ⟨n, hn, hr⟩)

end Life
end DeviceWatch
