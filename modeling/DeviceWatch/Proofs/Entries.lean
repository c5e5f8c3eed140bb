import DeviceWatch.Proofs.Disconnection
/-!
# The lists of a context as maps

A context keeps two lists, one of its devices and one of its open handles. Each is the
finite map that the calls on it have left: under an identity stands the device that was
added under it last, unless it was removed since, and open is what was opened on the list
and not closed since. A removal moves the last entry into the gap, so that the order of the
entries tells nothing of their age; which entries there are is told by the calls alone.
The numbers of open handles come from one counter for all lists, so a handle of another
list is never taken for one of this list.
-/

namespace DeviceWatch

variable {κ τ : Type}

/-! ## Calls -/

/-- A call on one of the lists of a context. -/
inductive ListCall where
  /-- A device was added. -/
  | added (c : ContextId) (d : Device)
  /-- The device with an identity was removed, if there was one. -/
  | removed (c : ContextId) (i : DeviceId)
  /-- A handle was opened. -/
  | opened (c : ContextId) (h : OpenHandle)
  /-- A handle was closed, if it was open. -/
  | closed (c : ContextId) (h : OpenHandle)

namespace ListCall

/-- Whether the call puts an end to whatever device had the identity in a context's list. -/
def unlists (c : ContextId) (i : DeviceId) : ListCall → Prop
  | .added c' d => c' = c ∧ d.id = i
  | .removed c' j => c' = c ∧ j = i
  | _ => False

/-- Whether the call puts an end to whatever handle had the number in a context's list. -/
def closes (c : ContextId) (k : OpenId) : ListCall → Prop
  | .closed c' h => c' = c ∧ h.id = k
  | _ => False

end ListCall

/-- A call was made, and none since that puts an end to what it began. -/
def Since (ends : ListCall → Prop) (call : ListCall) (calls : List ListCall) : Prop :=
  ∃ before after, calls = before ++ call :: after ∧ ∀ x ∈ after, ¬ ends x

/-- **The device was added**, and since then no device was added and none removed under its
identity. -/
def StaysAdded (c : ContextId) (d : Device) (calls : List ListCall) : Prop :=
  Since (ListCall.unlists c d.id) (.added c d) calls

/-- **The handle was opened**, and not closed since. -/
def StaysOpen (c : ContextId) (h : OpenHandle) (calls : List ListCall) : Prop :=
  Since (ListCall.closes c h.id) (.opened c h) calls

/-- The worlds that calls on the lists of any contexts lead to. In between, anything may
happen that leaves the lists alone. -/
inductive Called (start : World κ τ) : List ListCall → World κ τ → Prop
  | start : Called start [] start
  | add {calls : List ListCall} {w : World κ τ} (c : ContextId) (d : Device) :
      Called start calls w → Called start (calls ++ [.added c d]) ((Act.attach c d).run w).world
  | remove {calls : List ListCall} {w : World κ τ} (c : ContextId) (i : DeviceId) :
      Called start calls w → Called start (calls ++ [.removed c i]) ((Act.detach c i).run w).world
  | openOn {calls : List ListCall} {w : World κ τ} {h : OpenHandle} (c : ContextId) (d : Device) :
      Called start calls w → ((Act.openHandle c d).run w).result = some h →
      Called start (calls ++ [.opened c h]) ((Act.openHandle c d).run w).world
  | close {calls : List ListCall} {w : World κ τ} (c : ContextId) (h : OpenHandle) :
      Called start calls w →
      Called start (calls ++ [.closed c h]) ((Act.closeHandle c h).run w).world
  | meanwhile {calls : List ListCall} {w w' : World κ τ} : Called start calls w →
      (∀ c, w'.roster c = w.roster c) → (∀ c, w'.opens c = w.opens c) →
      w'.nextOpen = w.nextOpen → Called start calls w'

variable {ends : ListCall → Prop} {call x : ListCall} {calls : List ListCall}
variable {c c' : ContextId} {d : Device} {i : DeviceId} {h k : OpenHandle}
variable {r : Roster} {l : OpenList} {start w : World κ τ}

theorem since_nil : ¬ Since ends call [] := by
  rintro ⟨before, after, heq, -⟩
  simp at heq

theorem Since.mem (hs : Since ends call calls) : call ∈ calls := by
  obtain ⟨before, after, rfl, -⟩ := hs
  simp

/-- What one more call leaves: what it began itself and what it put no end to. -/
theorem since_concat :
    Since ends call (calls ++ [x]) ↔ x = call ∨ Since ends call calls ∧ ¬ ends x := by
  constructor
  · rintro ⟨before, after, heq, hafter⟩
    rcases List.eq_nil_or_concat after with rfl | ⟨front, z, rfl⟩
    · obtain ⟨-, hx⟩ := List.append_inj' heq rfl
      exact Or.inl (List.cons.inj hx).1
    · rw [List.concat_eq_append, ← List.cons_append, ← List.append_assoc] at heq
      obtain ⟨rfl, hz⟩ := List.append_inj' heq rfl
      obtain rfl := (List.cons.inj hz).1
      rw [List.concat_eq_append] at hafter
      refine Or.inr ⟨⟨before, front, rfl, fun y hy => ?_⟩, ?_⟩
      · exact hafter y (List.mem_append_left _ hy)
      · exact hafter x (List.mem_append_right _ (List.mem_singleton_self x))
  · rintro (rfl | ⟨⟨before, after, rfl, hafter⟩, hx⟩)
    · exact ⟨calls, [], rfl, List.forall_mem_nil _⟩
    · refine ⟨before, after ++ [x], by simp, fun y hy => ?_⟩
      rcases List.mem_append.1 hy with hy | hy
      · exact hafter y hy
      · rwa [List.mem_singleton.1 hy]

/-! ## Devices -/

/-- **The roster holds what the calls have left** in the list of a context, once each. -/
structure Roster.Keeps (r : Roster) (c : ContextId) (calls : List ListCall) : Prop where
  distinct : r.ids.Nodup
  mem_iff (d : Device) : d ∈ r.toList ↔ StaysAdded c d calls

namespace Roster.Keeps

theorem nil (hr : r.toList = []) : r.Keeps c [] where
  distinct := by
    rw [Roster.ids, hr]
    exact List.nodup_nil
  mem_iff d := by
    rw [hr]
    exact iff_of_false List.not_mem_nil since_nil

/-- A call on another list leaves the roster to hold what it holds. -/
theorem other (hk : r.Keeps c calls) (hadded : ∀ d, x ≠ .added c d)
    (hunlists : ∀ i, ¬ x.unlists c i) : r.Keeps c (calls ++ [x]) where
  distinct := hk.distinct
  mem_iff d := by
    rw [hk.mem_iff, StaysAdded, StaysAdded, since_concat]
    simp [hadded, hunlists]

theorem add (hk : r.Keeps c calls) (d : Device) :
    (r.attach d).Keeps c (calls ++ [.added c d]) where
  distinct := Roster.nodup_attach hk.distinct
  mem_iff e := by
    rw [Roster.mem_attach, hk.mem_iff, StaysAdded, StaysAdded, since_concat, or_comm]
    simp [ListCall.unlists, eq_comm]

theorem remove {rest : Roster} (hk : r.Keeps c calls) (hdetach : r.detach? i = some (d, rest)) :
    rest.Keeps c (calls ++ [.removed c i]) := by
  obtain ⟨rfl, hperm⟩ := Roster.detach?_eq_some hdetach
  refine ⟨Roster.nodup_of_detach? hk.distinct hdetach, fun e => ?_⟩
  rw [mem_rest_iff Device.id hk.distinct hperm, hk.mem_iff, StaysAdded, StaysAdded, since_concat]
  simp [ListCall.unlists, eq_comm]

/-- A removal under an identity that is not there ends nothing. -/
theorem remove_none (hk : r.Keeps c calls) (hdetach : r.detach? i = none) :
    r.Keeps c (calls ++ [.removed c i]) where
  distinct := hk.distinct
  mem_iff e := by
    have hne : e ∈ r.toList → i ≠ e.id := by
      rintro he rfl
      exact Roster.detach?_eq_none_iff.1 hdetach (List.mem_map_of_mem he)
    rw [StaysAdded, since_concat, ← StaysAdded, ← hk.mem_iff]
    simpa [ListCall.unlists] using hne

end Roster.Keeps

/-! ## Open handles -/

/-- **The list holds the handles that the calls have left open** in a context, under
numbers of their own. -/
structure OpenList.Keeps (l : OpenList) (c : ContextId) (calls : List ListCall) : Prop where
  distinct : (l.toList.map OpenHandle.id).Nodup
  mem_iff (h : OpenHandle) : h ∈ l.toList ↔ StaysOpen c h calls

namespace OpenList.Keeps

theorem nil (hl : l.toList = []) : l.Keeps c [] where
  distinct := by
    rw [hl]
    exact List.nodup_nil
  mem_iff h := by
    rw [hl]
    exact iff_of_false List.not_mem_nil since_nil

/-- A call on another list leaves the list to hold what it holds. -/
theorem other (hk : l.Keeps c calls) (hopened : ∀ h, x ≠ .opened c h)
    (hcloses : ∀ k, ¬ x.closes c k) : l.Keeps c (calls ++ [x]) where
  distinct := hk.distinct
  mem_iff h := by
    rw [hk.mem_iff, StaysOpen, StaysOpen, since_concat]
    simp [hopened, hcloses]

/-- A handle is opened under a number above those of all that are open. -/
theorem push {n : Nat} (hk : l.Keeps c calls) (hlt : ∀ h ∈ l.toList, h.id.val < n) (d : Device) :
    (l.push ⟨⟨n⟩, d⟩).Keeps c (calls ++ [.opened c ⟨⟨n⟩, d⟩]) where
  distinct := OpenHandle.nodup_concat hk.distinct hlt
  mem_iff k := by
    rw [OpenList.push, List.mem_append, hk.mem_iff, List.mem_singleton, StaysOpen, StaysOpen,
      since_concat, or_comm]
    simp [ListCall.closes, eq_comm]

theorem close {rest : OpenList} (hk : l.Keeps c calls) (hclose : l.close? h.id = some rest) :
    rest.Keeps c (calls ++ [.closed c h]) := by
  obtain ⟨o, hid, hperm⟩ := OpenList.close?_eq_some hclose
  refine ⟨nodup_map_of_perm_cons _ hk.distinct hperm, fun k => ?_⟩
  rw [mem_rest_iff OpenHandle.id hk.distinct hperm, hk.mem_iff, hid, StaysOpen, StaysOpen,
    since_concat]
  simp [ListCall.closes, eq_comm]

/-- Closing a handle that is not there ends nothing. -/
theorem close_none (hk : l.Keeps c calls) (hclose : l.close? h.id = none) :
    l.Keeps c (calls ++ [.closed c h]) where
  distinct := hk.distinct
  mem_iff k := by
    have hne : k ∈ l.toList → h.id ≠ k.id := fun hmem heq =>
      OpenList.close?_eq_none_iff.1 hclose (heq ▸ List.mem_map_of_mem hmem)
    rw [StaysOpen, since_concat, ← StaysOpen, ← hk.mem_iff]
    simpa [ListCall.closes] using hne

end OpenList.Keeps

/-! ## Numbers of handles -/

/-- A handle was given out: before the calls, or by one of them, on whatever list. -/
def Given (start : World κ τ) (calls : List ListCall) (h : OpenHandle) : Prop :=
  h.id.val < start.nextOpen ∨ ∃ c, .opened c h ∈ calls

/-- **No number is given to two handles**, whatever their lists. -/
structure Numbered (start : World κ τ) (calls : List ListCall) (w : World κ τ) : Prop where
  rises : start.nextOpen ≤ w.nextOpen
  fresh (c : ContextId) (h : OpenHandle) : .opened c h ∈ calls →
    start.nextOpen ≤ h.id.val ∧ h.id.val < w.nextOpen
  once (c c' : ContextId) (h k : OpenHandle) : .opened c h ∈ calls → .opened c' k ∈ calls →
    h.id = k.id → h = k

namespace Numbered

theorem next {w' : World κ τ} (hn : Numbered start calls w) (hnext : w'.nextOpen = w.nextOpen) :
    Numbered start calls w' where
  rises := hnext ▸ hn.rises
  fresh := hnext ▸ hn.fresh
  once := hn.once

/-- A call that opens no handle gives no number. -/
theorem other (hn : Numbered start calls w) (hx : ∀ c h, x ≠ .opened c h) :
    Numbered start (calls ++ [x]) w := by
  have hold : ∀ c h, .opened c h ∈ calls ++ [x] → .opened c h ∈ calls := by
    intro c h hmem
    exact (List.mem_append.1 hmem).resolve_right fun heq => hx c h (List.mem_singleton.1 heq).symm
  exact ⟨hn.rises, fun c h hmem => hn.fresh c h (hold c h hmem),
    fun c c' h k hh hk => hn.once c c' h k (hold c h hh) (hold c' k hk)⟩

/-- A handle is opened under the next number. -/
theorem openOn (hn : Numbered start calls w) (c : ContextId) (d : Device) :
    Numbered start (calls ++ [.opened c ⟨⟨w.nextOpen⟩, d⟩]) ((Act.openHandle c d).run w).world := by
  have hnext : ((Act.openHandle c d).run w).world.nextOpen = w.nextOpen + 1 := rfl
  have hcase : ∀ c' h, .opened c' h ∈ calls ++ [.opened c ⟨⟨w.nextOpen⟩, d⟩] →
      .opened c' h ∈ calls ∨ h = ⟨⟨w.nextOpen⟩, d⟩ := by
    intro c' h hmem
    refine (List.mem_append.1 hmem).imp_right fun heq => ?_
    exact (ListCall.opened.inj (List.mem_singleton.1 heq)).2
  have hne : ∀ c' h, .opened c' h ∈ calls → h.id.val ≠ w.nextOpen := fun c' h hmem =>
    Nat.ne_of_lt (hn.fresh c' h hmem).2
  refine ⟨?rises, fun c' h hmem => ?fresh, fun c₁ c₂ h k hh hk hid => ?once⟩
  case rises =>
    rw [hnext]
    exact Nat.le_succ_of_le hn.rises
  case fresh =>
    rw [hnext]
    rcases hcase c' h hmem with hold | rfl
    · have hlt := hn.fresh c' h hold
      omega
    · exact ⟨hn.rises, Nat.lt_succ_self _⟩
  case once =>
    rcases hcase c₁ h hh with hh | rfl <;> rcases hcase c₂ k hk with hk | rfl
    · exact hn.once c₁ c₂ h k hh hk hid
    · exact absurd (congrArg OpenId.val hid) (hne c₁ h hh)
    · exact absurd (congrArg OpenId.val hid).symm (hne c₂ k hk)
    · rfl

theorem lt_next (hn : Numbered start calls w) (hg : Given start calls h) :
    h.id.val < w.nextOpen := by
  rcases hg with hlt | ⟨c, hmem⟩
  · exact Nat.lt_of_lt_of_le hlt hn.rises
  · exact (hn.fresh c h hmem).2

/-- A handle that was opened is told by its number from all that were given out. -/
theorem eq_of_id (hn : Numbered start calls w) (hg : Given start calls h)
    (hk : .opened c k ∈ calls) (hid : k.id = h.id) : k = h := by
  rcases hg with hlt | ⟨c', hmem⟩
  · have hge := (hn.fresh c k hk).1
    rw [hid] at hge
    omega
  · exact hn.once c c' k h hk hmem hid

end Numbered

/-! ## Runs -/

namespace Act

theorem roster_detach_of_ne (hne : c ≠ c') :
    ((detach c' i).run w).world.roster c = w.roster c := by
  rw [run_detach]
  split
  · rfl
  · rw [World.roster_setRoster, if_neg hne]

theorem opens_detach : ((detach c' i).run w).world.opens c = w.opens c := by
  rw [run_detach]
  split
  · rfl
  · exact World.opens_setRoster

theorem nextOpen_detach : ((detach c i).run w).world.nextOpen = w.nextOpen := by
  rw [run_detach]
  split
  · rfl
  · rfl

theorem roster_closeHandle : ((closeHandle c' h).run w).world.roster c = w.roster c := by
  rw [run_closeHandle]
  split
  · rfl
  · exact World.roster_setOpens

theorem opens_closeHandle_of_ne (hne : c ≠ c') :
    ((closeHandle c' h).run w).world.opens c = w.opens c := by
  rw [run_closeHandle]
  split
  · rfl
  · rw [World.opens_setOpens, if_neg hne]

theorem nextOpen_closeHandle : ((closeHandle c h).run w).world.nextOpen = w.nextOpen := by
  rw [run_closeHandle]
  split
  · rfl
  · rfl

end Act

namespace Called

/-- **The devices of a context are what the calls have left.** -/
theorem roster (hc : Called start calls w) (hstart : (start.roster c).toList = []) :
    (w.roster c).Keeps c calls := by
  induction hc with
  | start => exact .nil hstart
  | @add calls w c' d _ ih =>
    rw [Act.run_attach, World.roster_setRoster]
    split
    next heq =>
      subst heq
      exact ih.add d
    next hne => exact ih.other (by simp [Ne.symm hne]) (by simp [ListCall.unlists, Ne.symm hne])
  | @remove calls w c' i _ ih =>
    by_cases heq : c = c'
    · subst heq
      rw [Act.run_detach]
      split
      next hdetach => exact ih.remove_none hdetach
      next d rest hdetach =>
        rw [World.roster_setRoster, if_pos rfl]
        exact ih.remove hdetach
    · rw [Act.roster_detach_of_ne heq]
      exact ih.other (by simp) (by simp [ListCall.unlists, Ne.symm heq])
  | openOn c' d _ _ ih =>
    rw [Act.run_openHandle, World.roster_setOpens]
    exact ih.other (by simp) (by simp [ListCall.unlists])
  | close c' h _ ih =>
    rw [Act.roster_closeHandle]
    exact ih.other (by simp) (by simp [ListCall.unlists])
  | meanwhile _ hroster _ _ ih =>
    rw [hroster]
    exact ih

theorem numbered (hc : Called start calls w) : Numbered start calls w := by
  induction hc with
  | start => exact ⟨Nat.le_refl _, nofun, nofun⟩
  | add c d _ ih => exact (ih.other (by simp)).next rfl
  | remove c i _ ih => exact (ih.other (by simp)).next Act.nextOpen_detach
  | openOn c d _ hresult ih =>
    obtain rfl := Option.some.inj hresult
    exact ih.openOn c d
  | close c h _ ih => exact (ih.other (by simp)).next Act.nextOpen_closeHandle
  | meanwhile _ _ _ hnext ih => exact ih.next hnext

/-- **The open handles of a context are what the calls have left open.** -/
theorem opens (hc : Called start calls w) (hstart : (start.opens c).toList = []) :
    (w.opens c).Keeps c calls := by
  induction hc with
  | start => exact .nil hstart
  | add c' d _ ih =>
    rw [Act.run_attach, World.opens_setRoster]
    exact ih.other (by simp) (by simp [ListCall.closes])
  | remove c' i _ ih =>
    rw [Act.opens_detach]
    exact ih.other (by simp) (by simp [ListCall.closes])
  | @openOn calls w h c' d hc hresult ih =>
    obtain rfl := Option.some.inj hresult
    rw [Act.run_openHandle, World.opens_setOpens]
    split
    next heq =>
      subst heq
      -- Whatever is there was opened, under a number given before.
      exact ih.push (fun k hk => (hc.numbered.fresh c k ((ih.mem_iff k).1 hk).mem).2) d
    next hne => exact ih.other (by simp [Ne.symm hne]) (by simp [ListCall.closes])
  | @close calls w c' h _ ih =>
    by_cases heq : c = c'
    · subst heq
      rw [Act.run_closeHandle]
      split
      next hclose => exact ih.close_none hclose
      next rest hclose =>
        rw [World.opens_setOpens, if_pos rfl]
        exact ih.close hclose
    · rw [Act.opens_closeHandle_of_ne heq]
      exact ih.other (by simp) (by simp [ListCall.closes, Ne.symm heq])
  | meanwhile _ _ hopens _ ih =>
    rw [hopens]
    exact ih

end Called

/-! ## The lists as maps -/

/-- **The list of a context's devices is a map** from identities, after these calls. -/
structure DeviceMap (c : ContextId) (calls : List ListCall) (w : World κ τ) : Prop where
  /-- No identity is there twice. -/
  distinct : (w.roster c).ids.Nodup
  /-- An identity stands for the device that was added under it last, unless that was removed
  since. -/
  get_iff (i : DeviceId) (d : Device) :
    (w.roster c).get? i = some d ↔ d.id = i ∧ StaysAdded c d calls
  /-- The list has the devices that identities stand for, and no others. -/
  mem_iff (d : Device) : d ∈ (w.roster c).toList ↔ (w.roster c).get? d.id = some d
  /-- A device that is added is last. Of the others all but the one that had its identity
  stay, in their order. -/
  add (d : Device) : ∃ others, (Act.attach c d).run w =
      { result := some (), world := w.setRoster c ⟨others ++ [d]⟩, notices := [.attached c d] } ∧
    others.Sublist (w.roster c).toList ∧
      ∀ e, e ∈ others ↔ e ∈ (w.roster c).toList ∧ e.id ≠ d.id
  /-- A removal answers what a look-up would. -/
  answer (i : DeviceId) : ((Act.detach c i).run w).result = some ((w.roster c).get? i)
  /-- It takes off that device and no other. -/
  remove (i : DeviceId) (d : Device) : (w.roster c).get? i = some d →
    ∃ rest, ((Act.detach c i).run w).world = w.setRoster c rest ∧
      (w.roster c).toList.Perm (d :: rest.toList)
  /-- Where a look-up finds nothing, a removal does nothing. -/
  absent (i : DeviceId) : (w.roster c).get? i = none → ((Act.detach c i).run w).world = w

/-- **The list of a context's open handles is a map** from numbers, after these calls. -/
structure HandleMap (start : World κ τ) (c : ContextId) (calls : List ListCall)
    (w : World κ τ) : Prop where
  /-- No number is there twice. -/
  distinct : ((w.opens c).toList.map OpenHandle.id).Nodup
  /-- Open is what was opened and not closed since. -/
  mem_iff (h : OpenHandle) : h ∈ (w.opens c).toList ↔ StaysOpen c h calls
  /-- A handle is opened last, under a number that no handle was given on any list. -/
  openOn (d : Device) : ∃ h, ((Act.openHandle c d).run w).result = some h ∧ h.device = d ∧
    ((Act.openHandle c d).run w).world =
      World.setOpens { w with nextOpen := w.nextOpen + 1 } c ⟨(w.opens c).toList ++ [h]⟩ ∧
    ∀ k, Given start calls k → k.id ≠ h.id
  /-- A handle that was ever given out is closed if and only if it was opened on this list
  and not closed since. -/
  close_iff (h : OpenHandle) : Given start calls h →
    (((Act.closeHandle c h).run w).result = some true ↔ StaysOpen c h calls)
  /-- Closing goes by the number: the open handle that has it goes, and no other. -/
  close (h k : OpenHandle) : StaysOpen c k calls → k.id = h.id →
    ∃ rest, (Act.closeHandle c h).run w =
        { result := some true, world := w.setOpens c rest, notices := [.closed c h.id] } ∧
      (w.opens c).toList.Perm (k :: rest.toList)
  /-- A call that closes nothing says so and does nothing. -/
  refuse (h : OpenHandle) : ((Act.closeHandle c h).run w).result ≠ some true →
    ((Act.closeHandle c h).run w).result = some false ∧ ((Act.closeHandle c h).run w).world = w
  /-- The handles on a device are those that stay open on it, in the order of the list. -/
  on_sublist (i : DeviceId) : ((w.opens c).on i).Sublist (w.opens c).toList
  mem_on (i : DeviceId) (h : OpenHandle) :
    h ∈ (w.opens c).on i ↔ StaysOpen c h calls ∧ h.device.id = i

theorem Roster.Keeps.deviceMap (hk : (w.roster c).Keeps c calls) : DeviceMap c calls w := by
  refine ⟨hk.distinct, fun i d => ?get, fun d => ?mem, fun d => ?add, fun i => ?answer,
    fun i d hget => ?remove, fun i hget => ?absent⟩
  case get => rw [Roster.get?_eq_some_iff hk.distinct, hk.mem_iff]
  case mem => rw [Roster.get?_eq_some_iff hk.distinct, and_iff_right rfl]
  case add =>
    refine ⟨(w.roster c).toList.filter (·.id != d.id), rfl, List.filter_sublist, fun e => ?_⟩
    rw [List.mem_filter, bne_iff_ne]
  case answer =>
    rw [← Roster.detach?_fst, Act.run_detach]
    rcases (w.roster c).detach? i with _ | ⟨d, rest⟩ <;> rfl
  case remove =>
    rw [← Roster.detach?_fst] at hget
    obtain ⟨⟨e, rest⟩, hdetach, rfl⟩ := Option.map_eq_some_iff.1 hget
    refine ⟨rest, ?_, (Roster.detach?_eq_some hdetach).2⟩
    rw [Act.run_detach, hdetach]
  case absent =>
    rw [← Roster.detach?_fst, Option.map_eq_none_iff] at hget
    rw [Act.run_detach, hget]

/-- A number that no open handle has closes nothing. -/
theorem Act.run_closeHandle_of_not_mem (hno : h.id ∉ (w.opens c).toList.map OpenHandle.id) :
    (closeHandle c h).run w = { result := some false, world := w } := by
  rw [run_closeHandle, OpenList.close?_eq_none_iff.2 hno]

theorem OpenList.Keeps.handleMap (hk : (w.opens c).Keeps c calls) (hn : Numbered start calls w) :
    HandleMap start c calls w := by
  have hclose : ∀ h k, StaysOpen c k calls → k.id = h.id →
      ∃ rest, (Act.closeHandle c h).run w =
          { result := some true, world := w.setOpens c rest, notices := [.closed c h.id] } ∧
        (w.opens c).toList.Perm (k :: rest.toList) := by
    intro h k hopen hid
    obtain ⟨rest, hrest, hperm⟩ := OpenList.close?_of_mem hk.distinct ((hk.mem_iff k).2 hopen)
    refine ⟨rest, ?_, hperm⟩
    rw [Act.run_closeHandle, ← hid, hrest]
  refine ⟨hk.distinct, hk.mem_iff, fun d => ?openOn, fun h hg => ⟨fun htrue => ?opened,
    fun hopen => ?closed⟩, hclose, fun h hfalse => ?refuse, fun i => List.filter_sublist,
    fun i h => ?on⟩
  case openOn =>
    refine ⟨⟨⟨w.nextOpen⟩, d⟩, rfl, rfl, rfl, fun k hg heq => ?_⟩
    have hlt := hn.lt_next hg
    rw [heq] at hlt
    exact Nat.lt_irrefl _ hlt
  case opened =>
    by_cases hmem : h.id ∈ (w.opens c).toList.map OpenHandle.id
    · obtain ⟨k, hin, hid⟩ := List.mem_map.1 hmem
      have hopen := (hk.mem_iff k).1 hin
      exact hn.eq_of_id hg hopen.mem hid ▸ hopen
    · rw [Act.run_closeHandle_of_not_mem hmem] at htrue
      cases htrue
  case closed =>
    obtain ⟨rest, hrun, -⟩ := hclose h h hopen rfl
    rw [hrun]
  case refuse =>
    by_cases hmem : h.id ∈ (w.opens c).toList.map OpenHandle.id
    · obtain ⟨k, hin, hid⟩ := List.mem_map.1 hmem
      obtain ⟨rest, hrun, -⟩ := hclose h k ((hk.mem_iff k).1 hin) hid
      rw [hrun] at hfalse
      exact absurd rfl hfalse
    · rw [Act.run_closeHandle_of_not_mem hmem]
      exact ⟨rfl, rfl⟩
  case on => rw [OpenList.mem_on, hk.mem_iff]

/-- **The lists of a context are maps**, whatever the calls on them and on the lists of
other contexts: of devices by their identities, of open handles by their numbers. -/
theorem Called.keeps_maps (hc : Called start calls w) (hroster : (start.roster c).toList = [])
    (hopens : (start.opens c).toList = []) :
    DeviceMap c calls w ∧ HandleMap start c calls w :=
  ⟨(hc.roster hroster).deviceMap, (hc.opens hopens).handleMap hc.numbered⟩

/-- Two contexts, the second one without a bus. -/
def twoContexts : World Unit Unit :=
  (Act.oneBus.addContext .bare {}).1

/-- A device under a number, made by a vendor. -/
def sample (n : Nat) (vendor : UInt16) : Device :=
  Bus.device n { vendor, product := 1 }

/-- Devices come, two of them under one identity, and one is removed. Of the handles on them
one is closed, and another one is not, as it is of the other context. -/
theorem keeps_maps_of_twoContexts :
    ∃ calls w, Called twoContexts calls w ∧ DeviceMap ⟨1⟩ calls w ∧
      HandleMap twoContexts ⟨1⟩ calls w ∧
      (w.roster ⟨1⟩).toList = [sample 1 9, sample 3 7] ∧
      (w.opens ⟨1⟩).toList = [⟨⟨4⟩, sample 1 9⟩, ⟨⟨3⟩, sample 3 7⟩] ∧
      Given twoContexts calls ⟨⟨2⟩, sample 3 7⟩ ∧ ¬ StaysOpen ⟨1⟩ ⟨⟨2⟩, sample 3 7⟩ calls := by
  have hstart : Called twoContexts [] twoContexts := .start
  have hdevices := ((((hstart.add ⟨1⟩ (sample 1 5)).add ⟨1⟩ (sample 2 6)).add ⟨1⟩
    (sample 3 7)).add ⟨1⟩ (sample 1 9)).remove ⟨1⟩ ⟨2⟩
  have hone := hdevices.openOn (h := ⟨⟨1⟩, sample 3 7⟩) ⟨1⟩ (sample 3 7) rfl
  have htwo := hone.openOn (h := ⟨⟨2⟩, sample 3 7⟩) ⟨2⟩ (sample 3 7) rfl
  have hthree := htwo.openOn (h := ⟨⟨3⟩, sample 3 7⟩) ⟨1⟩ (sample 3 7) rfl
  have hfour := hthree.openOn (h := ⟨⟨4⟩, sample 1 9⟩) ⟨1⟩ (sample 1 9) rfl
  have hclosed := (hfour.close ⟨1⟩ ⟨⟨1⟩, sample 3 7⟩).close ⟨1⟩ ⟨⟨2⟩, sample 3 7⟩
  have hmaps := hclosed.keeps_maps (c := ⟨1⟩) rfl rfl
  refine ⟨_, _, hclosed, hmaps.1, hmaps.2, rfl, rfl, Or.inr ⟨⟨2⟩, by simp⟩, fun hopen => ?_⟩
  exact absurd ((hmaps.2.mem_iff _).2 hopen) (by decide)

end DeviceWatch
