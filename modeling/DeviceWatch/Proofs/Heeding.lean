import DeviceWatch.Proofs.Outlook
import DeviceWatch.Proofs.Roster
/-!
# Acts that are heeded

No single act changes what the observer is told unless the observer is dismissed:
a decision, a commit or a deregistration is about another record, or leaves a
record alone that listens; devices that come and go are in the notices.
-/

namespace DeviceWatch

variable {κ τ α β : Type}

namespace Heeded

variable {q : Prop} {c c' : ContextId} {o : CallbackId} {w w' : World κ τ} {ns : List Notice}

/-- A step on a registry that finds the same observer is heeded. -/
theorem setRegistry {r : Registry κ} (hw : w.Ready c o) (hlife : Life w ns (w.setRegistry c' r))
    (hget : c = c' → r.get? o = (w.registry c).get? o) (hns : ∀ n ∈ ns, n.concerns c o = false)
    (hsilent : ∀ n ∈ ns, n.ofBus = false) : Heeded q c o w ns (w.setRegistry c' r) := by
  have hsame : ((w.setRegistry c' r).registry c).get? o = (w.registry c).get? o := by
    rw [World.registry_setRegistry]
    split
    next heq => exact hget heq
    next => rfl
  refine of_not_concerns hns (hw.of_get? (hlife.sound hw.sound) hsame) hlife.drawn_le ?_
  refine World.outlook_eq hsame ?_ hns
  rw [Roster.followAll_of_silent hsilent]
  exact World.roster_setRegistry

/-- Where no registry changes, what is heeded is what becomes of the devices. -/
theorem of_registry (hw : w.Ready c o) (hreg : ∀ i, w'.registry i = w.registry i)
    (hnext : w'.nextCallback = w.nextCallback) (hquiet : ∀ n ∈ ns, n.ofRecord = false)
    (hns : ∀ n ∈ ns, n.concerns c o = false)
    (hroster : w'.roster c = (w.roster c).followAll c ns) : Heeded q c o w ns w' := by
  have hlife : Life w ns w' := Life.quiet hreg hnext hquiet
  have hready : w'.Ready c o := hw.of_get? (hlife.sound hw.sound) (by rw [hreg])
  exact of_not_concerns hns hready (Nat.le_of_eq hnext.symm)
    (World.outlook_eq (by rw [hreg]) hroster hns)

end Heeded

namespace Act

variable {q : Prop} {c c' : ContextId} {o id : CallbackId} {d : Device} {e : Event}

/-! ## Registries -/

theorem heeds_decide : (decide c' id d e : Act κ τ (Verdict κ)).Obeys (Heeds q c o) := by
  intro w hw _
  refine .setRegistry hw (life_decide w) ?_ (List.forall_mem_singleton.2 rfl)
    (List.forall_mem_singleton.2 rfl)
  rintro rfl
  exact Registry.get?_decide hw.spared

theorem heeds_commit {wish : Wish} : (commit c' id wish : Act κ τ Bool).Obeys (Heeds q c o) := by
  intro w hw hno
  refine .setRegistry hw (life_commit w) ?_ (List.forall_mem_singleton.2 rfl)
    (List.forall_mem_singleton.2 rfl)
  rintro rfl
  refine Registry.get?_commit hw.spared fun hid => ?_
  have hkeep := hno _ (List.mem_singleton_self _)
  cases wish with
  | rearm => rfl
  | deregister => simp [Notice.dismisses, hid] at hkeep

theorem heeds_markPending : (markPending c' id : Act κ τ Bool).Obeys (Heeds q c o) := by
  intro w hw hno
  have hlife : Life w _ ((markPending c' id).run w).world := life_markPending w
  rw [run_markPending] at hlife hno ⊢
  refine .setRegistry hw hlife ?_ ?_ ?_
  · rintro rfl
    rw [Registry.get?_markPending]
    split
    next hid =>
      -- Marking the observer would have been noted, so there is no such record.
      subst hid
      rcases hx : (w.registry c).get? o with _ | x
      · rfl
      · simp [Registry.contains, hx, Notice.dismisses] at hno
    next => rfl
  all_goals exact forall_mem_if rfl

theorem heeds_deregister : (deregister c' id : Act κ τ Unit).Obeys (Heeds q c o) :=
  closed_obeys.deregister heeds_markPending

theorem heeds_teardown : (teardown c' : Act κ τ Nat).Obeys (Heeds q c o) := by
  intro w hw hno
  have hlife : Life w _ ((teardown c').run w).world := life_teardown w
  rw [run_teardown] at hlife hno ⊢
  refine .setRegistry hw hlife ?_ ?_ ?_
  · rintro rfl
    refine Registry.get?_clear.trans (Eq.symm (Registry.get?_eq_none_iff.2 fun hlive => ?_))
    -- With the observer among the records, the teardown would have been noted.
    have hpos : 0 < (w.registry c).size := by
      rw [Registry.size, ← List.length_map Record.id]
      exact List.length_pos_of_mem hlive
    rw [if_pos hpos] at hno
    simpa [Notice.dismisses, hlive] using hno _ (List.mem_singleton_self _)
  all_goals exact forall_mem_if rfl

/-! ## Devices and handles -/

theorem heeds_note {n : Notice} (hr : n.ofRecord = false) (hn : n.concerns c o = false)
    (hb : n.ofBus = false) : (note n : Act κ τ Unit).Obeys (Heeds q c o) :=
  obeys_note fun _ hw _ => .of_registry hw (fun _ => rfl) rfl (List.forall_mem_singleton.2 hr)
    (List.forall_mem_singleton.2 hn)
    (Roster.followAll_of_silent (List.forall_mem_singleton.2 hb)).symm

theorem heeds_attach : (attach c' d : Act κ τ Unit).Obeys (Heeds q c o) := by
  intro w hw _
  rw [run_attach]
  refine .of_registry hw (fun _ => World.registry_setRoster) rfl (List.forall_mem_singleton.2 rfl)
    (List.forall_mem_singleton.2 rfl) ?_
  rw [World.roster_setRoster]
  by_cases hc : c = c'
  · subst hc
    simp [Roster.followAll, Roster.follow]
  · simp [Roster.followAll, Roster.follow, hc, Ne.symm hc]

theorem heeds_detach {i : DeviceId} : (detach c' i : Act κ τ _).Obeys (Heeds q c o) := by
  refine obeys_detach fun w d roster hdetach hw _ => ?_
  obtain ⟨hid, -⟩ := Roster.detach?_eq_some hdetach
  refine .of_registry hw (fun _ => World.registry_setRoster) rfl (List.forall_mem_singleton.2 rfl)
    (List.forall_mem_singleton.2 rfl) ?_
  rw [World.roster_setRoster]
  by_cases hc : c = c'
  · subst hc
    simp [Roster.followAll, Roster.follow, hid, hdetach]
  · simp [Roster.followAll, Roster.follow, hc, Ne.symm hc]

theorem heeds_openHandle : (openHandle c' d : Act κ τ OpenHandle).Obeys (Heeds q c o) := by
  intro w hw _
  rw [run_openHandle]
  exact .of_registry hw (fun _ => World.registry_setOpens) rfl (List.forall_mem_singleton.2 rfl)
    (List.forall_mem_singleton.2 rfl) World.roster_setOpens

theorem heeds_closeHandle {h : OpenHandle} :
    (closeHandle c' h : Act κ τ Bool).Obeys (Heeds q c o) := by
  refine obeys_closeHandle fun w rest _ hw _ => ?_
  exact .of_registry hw (fun _ => World.registry_setOpens) rfl (List.forall_mem_singleton.2 rfl)
    (List.forall_mem_singleton.2 rfl) World.roster_setOpens

theorem heeds_disconnect {h : OpenHandle} :
    (disconnect c' h : Act κ τ Bool).Obeys (Heeds q c o) := by
  refine obeys_disconnect fun w _ hw _ => ?_
  have hns : ∀ n ∈ givenUp c' h (w.platform c'),
      n.ofRecord = false ∧ n.concerns c o = false ∧ ∀ r : Roster, r.follow c n = r :=
    forall_mem_givenUp ⟨rfl, rfl, fun _ => rfl⟩
  refine .of_registry hw (fun _ => World.registry_setPlatform) rfl (fun n hn => (hns n hn).1)
    (fun n hn => (hns n hn).2.1) ?_
  rw [World.roster_setPlatform]
  exact (Roster.followAll_of_follow fun n hn => (hns n hn).2.2 _).symm

theorem heeds_disconnectOn : (disconnectOn c' d : Act κ τ _).Obeys (Heeds q c o) :=
  closed_obeys.disconnectOn fun _ => heeds_disconnect

theorem heeds_followUp : (followUp c' d e : Act κ τ _).Obeys (Heeds q c o) := by
  rw [followUp]
  split
  · exact heeds_disconnectOn
  · exact obeys_pure _

theorem heeds_openDevice {b : BusId} {i : DeviceId} :
    (openDevice b i : Act κ τ _).Obeys (Heeds q c o) :=
  closed_obeys.openDevice fun _ _ => heeds_openHandle

theorem heeds_closeDevice {b : BusId} {h : OpenHandle} :
    (closeDevice b h : Act κ τ _).Obeys (Heeds q c o) :=
  closed_obeys.closeDevice fun _ => heeds_closeHandle

end Act
end DeviceWatch
