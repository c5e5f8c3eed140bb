import Mathlib.Algebra.GroupWithZero.Nat
import DeviceWatch.Proofs.Retirement
/-!
# The balance of records

Records come into a context by insertions. They go by a decision, by a commit or
with the whole registry, and several of these may be after one record at a time:
the pass that a callback begins, the commit of the visit that ran the callback,
a teardown between the two. Each step reports exactly what it removes. So the
books balance at every moment of a run, and who comes late reports nothing.
-/

namespace DeviceWatch

variable {κ τ α : Type}

/-- The number of records inserted into a context. -/
def insertions (c : ContextId) (ns : List Notice) : Nat :=
  ns.countP fun
    | .inserted c' _ => c' = c
    | _ => false

/-- The number of decisions in a context that released a record. -/
def decidedReleases (c : ContextId) (ns : List Notice) : Nat :=
  ns.countP fun
    | .decided c' _ v => c' = c && v = .released
    | _ => false

/-- The number of commits in a context that released a record. -/
def committedReleases (c : ContextId) (ns : List Notice) : Nat :=
  ns.countP fun
    | .committed c' _ _ released => c' = c && released
    | _ => false

/-- The number of records that all teardowns of a context counted. -/
def tornDown (c : ContextId) (ns : List Notice) : Nat :=
  (ns.map fun
    | .toreDown c' ids => if c' = c then ids.length else 0
    | _ => 0).sum

/-- **The books of a context** that began without records: what came in is still
there, or it went out once. -/
structure Balanced (c : ContextId) (ns : List Notice) (w : World κ τ) : Prop where
  /-- The records inserted are those that are live and those that went. -/
  count : insertions c ns =
    (w.registry c).size + decidedReleases c ns + committedReleases c ns + tornDown c ns
  /-- A record is live and was not reported to go, or it is gone and was reported
  once, by whatever made it go. -/
  fate : ∀ id, .inserted c id ∈ ns →
    (id ∈ (w.registry c).ids ∧ ns.countP (Notice.removes id) = 0) ∨
      (w.Gone id ∧ ns.countP (Notice.removes id) = 1)

/-! ## The number of live records -/

namespace Registry

variable {r : Registry κ} {x : Record κ} {id : CallbackId}

theorem size_eq : r.size = r.ids.length := by
  rw [size, ids, List.length_map]

theorem size_insert : (r.insert x).size = r.size + 1 := by
  rw [size_eq, size_eq, ids_insert, List.length_append, List.length_singleton]

theorem size_markPending : (r.markPending id).size = r.size := by
  rw [size_eq, size_eq, ids_markPending]

theorem size_erase (hn : r.ids.Nodup) (hid : id ∈ r.ids) : (r.erase id).size + 1 = r.size := by
  have hpos : 0 < r.ids.length := List.length_pos_of_mem hid
  rw [size_eq, size_eq, ids_erase, ← hn.erase_eq_filter, List.length_erase_of_mem hid]
  omega

theorem eq_of_mem_of_not_mem_erase {i : CallbackId} (hlive : id ∈ r.ids)
    (habsent : id ∉ (r.erase i).ids) : id = i := by
  by_contra hne
  refine habsent ?_
  rw [ids_erase, List.mem_filter]
  exact ⟨hlive, by simpa using hne⟩

/-- A decision takes away what it releases. -/
theorem size_decide (id : CallbackId) (d : Device) (e : Event) (hn : r.ids.Nodup) :
    (r.decide id d e).2.size + (if (r.decide id d e).1.decision = .released then 1 else 0) =
      r.size := by
  by_cases h : (r.decide id d e).1.decision = .released
  · obtain ⟨hlive, -⟩ := decide_removes_iff.2 h
    obtain ⟨-, herase⟩ := of_decide_eq_released h
    rw [if_pos h, herase]
    exact size_erase hn hlive
  · obtain hsame | ⟨-, hreleased, -⟩ : (r.decide id d e).2 = r ∨ _ := decide_snd d e
    · rw [if_neg h, hsame, Nat.add_zero]
    · exact absurd hreleased h

/-- A commit takes away what it releases. -/
theorem size_commit (id : CallbackId) (wish : Wish) (hn : r.ids.Nodup) :
    (r.commit id wish).size + (if r.releases id wish then 1 else 0) = r.size := by
  rcases h : r.releases id wish with _ | _
  · rw [commit_of_not_releases h]
    rfl
  · obtain ⟨hlive, -⟩ := commit_removes_iff.2 h
    rw [commit_of_releases h]
    exact size_erase hn hlive

end Registry

/-! ## What one step removes -/

theorem insertions_append {c : ContextId} {ns ms : List Notice} :
    insertions c (ns ++ ms) = insertions c ns + insertions c ms :=
  List.countP_append

theorem decidedReleases_append {c : ContextId} {ns ms : List Notice} :
    decidedReleases c (ns ++ ms) = decidedReleases c ns + decidedReleases c ms :=
  List.countP_append

theorem committedReleases_append {c : ContextId} {ns ms : List Notice} :
    committedReleases c (ns ++ ms) = committedReleases c ns + committedReleases c ms :=
  List.countP_append

theorem tornDown_append {c : ContextId} {ns ms : List Notice} :
    tornDown c (ns ++ ms) = tornDown c ns + tornDown c ms := by
  rw [tornDown, List.map_append, List.sum_append]
  rfl

/-- What concerns no record is in no book. -/
theorem books_of_quiet {c : ContextId} {ns : List Notice} (h : ∀ n ∈ ns, n.ofRecord = false) :
    insertions c ns = 0 ∧ decidedReleases c ns = 0 ∧ committedReleases c ns = 0 ∧
      tornDown c ns = 0 := by
  induction ns with
  | nil => exact ⟨rfl, rfl, rfl, rfl⟩
  | cons n ns ih =>
    obtain ⟨hi, hd, hc, ht⟩ := ih fun m hm => h m (List.mem_cons_of_mem n hm)
    have hn := h n List.mem_cons_self
    rw [← List.singleton_append, insertions_append, decidedReleases_append,
      committedReleases_append, tornDown_append, hi, hd, hc, ht]
    cases n <;> first | exact ⟨rfl, rfl, rfl, rfl⟩ | cases hn

namespace LifeStep

variable {w v w' : World κ τ} {ns : List Notice} {c c' : ContextId} {id : CallbackId}

/-- Where one registry changes, its own books are all there is to balance. -/
theorem balance_set {r : Registry κ} (hv : ∀ c, v.registry c = w.registry c)
    (hown : (w.registry c').size + insertions c' ns =
      r.size + decidedReleases c' ns + committedReleases c' ns + tornDown c' ns)
    (helse : ∀ c, c' ≠ c → insertions c ns = 0 ∧ decidedReleases c ns = 0 ∧
      committedReleases c ns = 0 ∧ tornDown c ns = 0) :
    (w.registry c).size + insertions c ns =
      ((v.setRegistry c' r).registry c).size + decidedReleases c ns + committedReleases c ns +
        tornDown c ns := by
  rw [World.registry_setRegistry]
  split
  next heq =>
    subst heq
    exact hown
  next hne =>
    obtain ⟨hi, hd, hc, ht⟩ := helse c (Ne.symm hne)
    rw [hv, hi, hd, hc, ht]

/-- **A step reports what it removes**: the books balance over it. -/
theorem balance (h : LifeStep w ns w') (hw : w.Sound) (c : ContextId) :
    (w.registry c).size + insertions c ns =
      (w'.registry c).size + decidedReleases c ns + committedReleases c ns + tornDown c ns := by
  cases h with
  | quiet hr hn hq =>
    obtain ⟨hi, hd, hc, ht⟩ : insertions c ns = 0 ∧ _ := books_of_quiet hq
    rw [hr c, hi, hd, hc, ht]
  | insert c' x hid howner hs =>
    refine balance_set (fun _ => rfl) ?_ fun c hc => ?_
    · rw [Registry.size_insert]
      simp [insertions, decidedReleases, committedReleases, tornDown]
    · simp [insertions, decidedReleases, committedReleases, tornDown, hc]
  | decide c' id d e =>
    refine balance_set (fun _ => rfl) ?_ fun c hc => ?_
    · rw [← Registry.size_decide id d e (hw.nodup c')]
      simp [insertions, decidedReleases, committedReleases, tornDown, List.countP_singleton]
    · simp [insertions, decidedReleases, committedReleases, tornDown, hc]
  | commit c' id wish =>
    refine balance_set (fun _ => rfl) ?_ fun c hc => ?_
    · rw [← Registry.size_commit id wish (hw.nodup c')]
      simp [insertions, decidedReleases, committedReleases, tornDown, List.countP_singleton]
    · simp [insertions, decidedReleases, committedReleases, tornDown, hc]
  | mark c' id =>
    refine balance_set (fun _ => rfl) ?_ fun c hc => ?_
    · rw [Registry.size_markPending]
      split <;> simp [insertions, decidedReleases, committedReleases, tornDown]
    · split <;> simp [insertions, decidedReleases, committedReleases, tornDown]
  | clear c' =>
    refine balance_set (fun _ => rfl) ?_ fun c hc => ?_
    · rw [Registry.size_eq, Registry.size_eq, Registry.ids_clear]
      -- An empty registry is cleared without a notice.
      split
      next => simp [insertions, decidedReleases, committedReleases, tornDown]
      next hempty =>
        rw [Nat.pos_iff_ne_zero, not_not] at hempty
        simp [insertions, decidedReleases, committedReleases, tornDown, hempty]
    · split <;> simp [insertions, decidedReleases, committedReleases, tornDown, hc]

/-- **What a step removes it reports.** -/
theorem removes_of_absent (h : LifeStep w ns w') (hlive : id ∈ (w.registry c).ids)
    (habsent : id ∉ (w'.registry c).ids) : ∃ n ∈ ns, n.removes id = true := by
  cases h with
  | quiet hr =>
    rw [hr c] at habsent
    exact absurd hlive habsent
  | insert c' x =>
    rw [World.registry_setRegistry] at habsent
    split at habsent
    next heq =>
      rw [Registry.ids_insert, ← heq] at habsent
      exact absurd (List.mem_append_left _ hlive) habsent
    next => exact absurd hlive habsent
  | decide c' i d e =>
    rw [World.registry_setRegistry] at habsent
    split at habsent
    next heq =>
      subst heq
      obtain hsame | ⟨herase, hv, -⟩ : ((w.registry c).decide i d e).2 = _ ∨ _ :=
        Registry.decide_snd d e
      · rw [hsame] at habsent
        exact absurd hlive habsent
      · rw [herase] at habsent
        obtain rfl := Registry.eq_of_mem_of_not_mem_erase hlive habsent
        exact ⟨_, List.mem_singleton_self _, by simp [Notice.removes, hv]⟩
    next => exact absurd hlive habsent
  | commit c' i wish =>
    rw [World.registry_setRegistry] at habsent
    split at habsent
    next heq =>
      subst heq
      rcases hrel : (w.registry c).releases i wish with _ | _
      · rw [Registry.commit_of_not_releases hrel] at habsent
        exact absurd hlive habsent
      · rw [Registry.commit_of_releases hrel] at habsent
        obtain rfl := Registry.eq_of_mem_of_not_mem_erase hlive habsent
        exact ⟨_, List.mem_singleton_self _, by simp [Notice.removes]⟩
    next => exact absurd hlive habsent
  | mark c' i =>
    rw [World.registry_setRegistry] at habsent
    split at habsent
    next heq =>
      rw [Registry.ids_markPending, ← heq] at habsent
      exact absurd hlive habsent
    next => exact absurd hlive habsent
  | clear c' =>
    rw [World.registry_setRegistry] at habsent
    split at habsent
    next heq =>
      subst heq
      have hpos : 0 < (w.registry c).size := by
        rw [Registry.size_eq]
        exact List.length_pos_of_mem hlive
      rw [if_pos hpos]
      exact ⟨_, List.mem_singleton_self _, by simpa [Notice.removes] using hlive⟩
    next => exact absurd hlive habsent

/-- What is said to be inserted is live afterwards. -/
theorem mem_of_inserted (h : LifeStep w ns w') (hn : .inserted c id ∈ ns) :
    id ∈ (w'.registry c).ids := by
  obtain ⟨c', x, -, -, -, hreg, -, rfl⟩ | ⟨-, -, hno⟩ := h.insert_or_ages
  · obtain ⟨rfl, rfl⟩ : c = c' ∧ id = x.id := by simpa using hn
    rw [hreg, if_pos rfl, Registry.ids_insert]
    exact List.mem_append_right _ (List.mem_singleton_self _)
  · exact absurd hn (hno c id)

/-- The notices of a step may be cut anywhere. -/
theorem split {ms : List Notice} (h : LifeStep w (ns ++ ms) w') :
    ∃ v, Life w ns v ∧ Life v ms w' := by
  rcases ns with _ | ⟨n, ns⟩
  · exact ⟨w, .refl w, .single h⟩
  rcases ms with _ | ⟨m, ms⟩
  · rw [List.append_nil] at h
    exact ⟨w', .single h, .refl w'⟩
  -- Of two notices neither concerns a record.
  generalize hl : n :: ns ++ m :: ms = ls at h
  have htwo : 1 < ls.length := by
    rw [← hl, List.length_append, List.length_cons, List.length_cons]
    omega
  cases h with
  | quiet hr hn hq =>
    rw [← hl, List.forall_mem_append] at hq
    exact ⟨w', .quiet hr hn hq.1, .quiet (fun _ => rfl) rfl hq.2⟩
  | insert => exact absurd htwo (Nat.lt_irrefl 1)
  | decide => exact absurd htwo (Nat.lt_irrefl 1)
  | commit => exact absurd htwo (Nat.lt_irrefl 1)
  | mark => split at htwo <;> simp at htwo
  | clear => split at htwo <;> simp at htwo

end LifeStep

/-! ## Along a path -/

namespace Life

variable {w w' : World κ τ} {ns before after : List Notice} {n : Notice} {c : ContextId}
variable {id : CallbackId}

theorem balance (h : Life w ns w') (hw : w.Sound) (c : ContextId) :
    (w.registry c).size + insertions c ns =
      (w'.registry c).size + decidedReleases c ns + committedReleases c ns + tornDown c ns := by
  induction h with
  | refl => rfl
  | @step v₁ v₂ v₃ ms ls hs hrest ih =>
    have hstep := hs.balance hw c
    have hpath := ih (hs.sound hw)
    rw [insertions_append, decidedReleases_append, committedReleases_append, tornDown_append]
    omega

/-- What a path removes it reports. -/
theorem removes_of_absent (h : Life w ns w') (hlive : id ∈ (w.registry c).ids)
    (habsent : id ∉ (w'.registry c).ids) : ∃ n ∈ ns, n.removes id = true := by
  induction h with
  | refl => exact absurd hlive habsent
  | @step v₁ v₂ v₃ ms ls hs hrest ih =>
    by_cases hstay : id ∈ (v₂.registry c).ids
    · obtain ⟨n, hn, hr⟩ := ih hstay habsent
      exact ⟨n, List.mem_append_right _ hn, hr⟩
    · obtain ⟨n, hn, hr⟩ := hs.removes_of_absent hlive hstay
      exact ⟨n, List.mem_append_left _ hn, hr⟩

/-- What was reported to go is gone. -/
theorem gone_of_removes (h : Life w ns w') (hw : w.Sound) (hn : n ∈ ns)
    (hr : n.removes id = true) : w'.Gone id := by
  obtain ⟨before, after, rfl⟩ := List.append_of_mem hn
  obtain ⟨w₁, w₂, hbefore, hcut, hafter⟩ :=
    h.cut (Notice.ofRecord_of_retires (Notice.retires_of_removes hr))
  exact hafter.gone (hcut.gone_of_removes (hbefore.sound hw) (List.mem_singleton_self n) hr)

/-- A live record stays and is not reported, or it goes and is reported once. -/
theorem fate (h : Life w ns w') (hw : w.Sound) (hlive : id ∈ (w.registry c).ids) :
    (id ∈ (w'.registry c).ids ∧ ns.countP (Notice.removes id) = 0) ∨
      (w'.Gone id ∧ ns.countP (Notice.removes id) = 1) := by
  by_cases hstay : id ∈ (w'.registry c).ids
  · refine Or.inl ⟨hstay, List.countP_eq_zero.2 fun n hn hr => ?_⟩
    exact (h.gone_of_removes hw hn hr).absent c hstay
  · refine Or.inr ⟨h.gone_of_absent hw hlive hstay, ?_⟩
    obtain ⟨n, hn, hr⟩ := h.removes_of_absent hlive hstay
    have hpos := List.countP_pos_iff.2 ⟨n, hn, hr⟩
    have honce := h.removes_once hw id
    omega

/-- So it is with a record inserted on the way. -/
theorem fate_of_inserted (h : Life w ns w') (hw : w.Sound) (hn : .inserted c id ∈ ns) :
    (id ∈ (w'.registry c).ids ∧ ns.countP (Notice.removes id) = 0) ∨
      (w'.Gone id ∧ ns.countP (Notice.removes id) = 1) := by
  obtain ⟨before, after, rfl⟩ := List.append_of_mem hn
  obtain ⟨w₁, w₂, hbefore, hcut, hafter⟩ := h.cut rfl
  have hw₁ := hbefore.sound hw
  -- Its number was not drawn before, so nothing before reports it.
  have hnone : before.countP (Notice.removes id) = 0 := by
    refine List.countP_eq_zero.2 fun n hn hr => ?_
    have hdrawn := (hbefore.gone_of_removes hw hn hr).drawn
    rw [hcut.of_inserted (List.mem_singleton_self _)] at hdrawn
    exact Nat.lt_irrefl _ hdrawn
  have hlive : id ∈ (w₂.registry c).ids := hcut.mem_of_inserted (List.mem_singleton_self _)
  have hself : (Notice.inserted c id).removes id = false := rfl
  rw [List.countP_append, List.countP_cons_of_neg (by simp [hself]), hnone, Nat.zero_add]
  exact hafter.fate (hcut.sound hw₁) hlive

/-- The books balance at the end of a path from a world without records in the
context. -/
theorem books (h : Life w ns w') (hw : w.Sound) (hempty : (w.registry c).ids = []) :
    Balanced c ns w' where
  count := by
    have hsize : (w.registry c).size = 0 := by rw [Registry.size_eq, hempty, List.length_nil]
    have hbalance := h.balance hw c
    omega
  fate _ hn := h.fate_of_inserted hw hn

/-- **A path may be cut anywhere.** -/
theorem split (h : Life w (before ++ after) w') : ∃ v, Life w before v ∧ Life v after w' := by
  generalize hl : before ++ after = l at h
  induction h generalizing before with
  | refl w =>
    obtain ⟨rfl, rfl⟩ := List.append_eq_nil_iff.1 hl
    exact ⟨w, .refl w, .refl w⟩
  | @step v₁ v₂ v₃ ms ls hs hrest ih =>
    -- The cut lies within the first step, or after it.
    rcases List.append_eq_append_iff.1 hl with ⟨k, rfl, rfl⟩ | ⟨k, rfl, rfl⟩
    · obtain ⟨v, hfirst, hsecond⟩ := hs.split
      exact ⟨v, hfirst, hsecond.trans hrest⟩
    · obtain ⟨v, hfirst, hsecond⟩ := ih rfl
      exact ⟨v, .step hs hfirst, hsecond⟩

end Life

/-! ## Along a run -/

namespace Act

variable {x : Act κ τ α} {w : World κ τ} {c : ContextId} {id : CallbackId}

/-! The books count what the steps answer. -/

theorem decide_answer {d : Device} {e : Event} :
    ∃ v, ((decide c id d e).run w).result = some v ∧
      decidedReleases c ((decide c id d e).run w).notices =
        if v.decision = .released then 1 else 0 := by
  refine ⟨((w.registry c).decide id d e).1, rfl, ?_⟩
  rw [run_decide]
  simp [decidedReleases, List.countP_singleton]

theorem commit_answer {wish : Wish} :
    ∃ released, ((commit c id wish).run w).result = some released ∧
      committedReleases c ((commit c id wish).run w).notices = if released then 1 else 0 := by
  refine ⟨(w.registry c).releases id wish, rfl, ?_⟩
  rw [run_commit]
  simp [committedReleases, List.countP_singleton]

theorem teardown_answer :
    ((teardown c).run w).result = some (tornDown c ((teardown c).run w).notices) := by
  rw [run_teardown]
  split
  next => simp [tornDown, Registry.size_eq]
  next hempty =>
    rw [Nat.pos_iff_ne_zero, not_not] at hempty
    simp [tornDown, hempty]

theorem insert_answer {events : EventSet} {filter : Filter} {program : κ} :
    ∃ a, ((insert c events filter program).run w).result = some a ∧
      insertions c ((insert c events filter program).run w).notices =
        if a.isOk then 1 else 0 := by
  rw [run_insert]
  split
  · exact ⟨_, rfl, by simp [insertions, Except.isOk, Except.toBool]⟩
  · exact ⟨_, rfl, by simp [insertions, Except.isOk, Except.toBool]⟩

/-- **The books balance at every moment of a run**, whatever its callbacks do and
whether or not they panic. Cut the notices anywhere: up to the cut the run is a
path of steps to some world, and what was inserted until then is live in this
world or went, each record once. -/
theorem Within.balanced (hx : x.Within Repertoire.Any) (hw : w.Sound)
    (hempty : (w.registry c).ids = []) :
    Balanced c (x.run w).notices (x.run w).world ∧
      ∀ before after, (x.run w).notices = before ++ after →
        ∃ v, Life w before v ∧ Life v after (x.run w).world ∧ Balanced c before v := by
  refine ⟨(hx.life w).books hw hempty, fun before after hns => ?_⟩
  have hlife := hx.life w
  rw [hns] at hlife
  obtain ⟨v, hbefore, hafter⟩ := hlife.split
  exact ⟨v, hbefore, hafter, hbefore.books hw hempty⟩

/-- Callbacks that clear the registry they are in, and ask to go. -/
def clearing : Host CallbackId Unit where
  react inv := do
    let _ ← teardown inv.context
    return .deregister
  order _ ids := ids
  order_perm _ _ := .refl _

/-- A callback clears the registry while it runs, with another one still to be
visited; a third one is deregistered and released by the next pass. -/
def clearUnderPass (c : ContextId) : Act CallbackId Unit Unit := do
  let _ ← register clearing c { events := .all, program := some ⟨0⟩ }
  let _ ← register clearing c { events := .all, program := some ⟨0⟩ }
  let _ ← notify clearing c default .arrived
  let _ ← register clearing c { events := .all, program := some ⟨0⟩ }
  let _ ← deregister c ⟨3⟩
  let _ ← notify clearing c default .left

theorem clearing_within : clearing.Within Repertoire.Any :=
  fun _ => .bind (.op .idle Host.idle_within (.calm (.teardown _))) fun _ => .pure _

theorem clearUnderPass_within {c : ContextId} : (clearUnderPass c).Within Repertoire.Any := by
  refine .bind (.op _ clearing_within (.calm (.register _ _))) fun _ => ?_
  refine .bind (.op _ clearing_within (.calm (.register _ _))) fun _ => ?_
  refine .bind (.op _ clearing_within (.calm (.notify _ _ _))) fun _ => ?_
  refine .bind (.op _ clearing_within (.calm (.register _ _))) fun _ => ?_
  refine .bind (.op _ clearing_within (.calm (.deregister _ _))) fun _ => ?_
  exact .bind (.op _ clearing_within (.calm (.notify _ _ _))) fun _ => .pure _

/-- The commit of the visit that was under way finds nothing to release. -/
theorem balanced_after_clearing :
    Balanced ⟨1⟩ ((clearUnderPass ⟨1⟩).run oneContext).notices
        ((clearUnderPass ⟨1⟩).run oneContext).world ∧
      insertions ⟨1⟩ ((clearUnderPass ⟨1⟩).run oneContext).notices = 3 ∧
      tornDown ⟨1⟩ ((clearUnderPass ⟨1⟩).run oneContext).notices = 2 ∧
      decidedReleases ⟨1⟩ ((clearUnderPass ⟨1⟩).run oneContext).notices = 1 ∧
      .committed ⟨1⟩ ⟨1⟩ .deregister false ∈ ((clearUnderPass ⟨1⟩).run oneContext).notices := by
  have hx : (clearUnderPass ⟨1⟩).Within Repertoire.Any := clearUnderPass_within
  obtain ⟨hbalanced, -⟩ := hx.balanced (c := ⟨1⟩) oneContext_sound rfl
  have hns : ((clearUnderPass ⟨1⟩).run oneContext).notices =
      [.inserted ⟨1⟩ ⟨1⟩, .registered ⟨1⟩ ⟨1⟩ .any .all .none [],
        .inserted ⟨1⟩ ⟨2⟩, .registered ⟨1⟩ ⟨2⟩ .any .all .none [],
        .passBegan ⟨1⟩ default .arrived, .decided ⟨1⟩ ⟨1⟩ .invoke,
        .delivered ⟨1⟩ ⟨1⟩ default .arrived, .toreDown ⟨1⟩ [⟨1⟩, ⟨2⟩],
        .committed ⟨1⟩ ⟨1⟩ .deregister false, .decided ⟨1⟩ ⟨2⟩ .gone,
        .passEnded ⟨1⟩ default .arrived ⟨1, 0, 0⟩,
        .inserted ⟨1⟩ ⟨3⟩, .registered ⟨1⟩ ⟨3⟩ .any .all .none [], .marked ⟨1⟩ ⟨3⟩,
        .passBegan ⟨1⟩ default .left, .decided ⟨1⟩ ⟨3⟩ .released,
        .passEnded ⟨1⟩ default .left ⟨0, 1, 0⟩] := rfl
  refine ⟨hbalanced, ?_, ?_, ?_, ?_⟩
  all_goals rw [hns]
  · rfl
  · rfl
  · rfl
  · simp

end Act
end DeviceWatch
