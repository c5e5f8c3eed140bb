import Mathlib.Data.List.Nodup
import Mathlib.Data.List.Perm.Basic
import DeviceWatch.OpenHandle
import DeviceWatch.Roster
/-!
# Rosters and open handles as sets

A removal that fills the gap changes the order of the rest and nothing else. So
what is in a roster or in a list of open handles after a removal is what was in
it before, less one entry; the order matters to listings only.
-/

namespace DeviceWatch

variable {α β : Type}

/-- The list is the entry in the gap and the list with the gap filled. -/
theorem fillGap_perm {l : List α} {i : Nat} (h : i < l.length) : l.Perm (l[i] :: fillGap l i) := by
  rcases List.eq_nil_or_concat l with rfl | ⟨front, z, rfl⟩
  · exact absurd h (Nat.not_lt_zero i)
  · simp only [List.concat_eq_append, List.length_append, List.length_singleton] at h ⊢
    by_cases hi : i < front.length
    · rw [fillGap_concat front z hi, List.getElem_append_left hi]
      have hset : (z :: front.eraseIdx i).Perm (front.set i z) :=
        (List.set_perm_cons_eraseIdx hi z).symm
      calc (front ++ [z]).Perm (z :: front) := List.perm_append_singleton z front
        List.Perm _ (z :: front[i] :: front.eraseIdx i) :=
          (List.getElem_cons_eraseIdx_perm hi).symm.cons z
        List.Perm _ (front[i] :: z :: front.eraseIdx i) := List.Perm.swap _ _ _
        List.Perm _ (front[i] :: front.set i z) := hset.cons _
    · obtain rfl : i = front.length := by omega
      rw [fillGap_concat_length, List.getElem_concat_length rfl]
      exact List.perm_append_singleton z front

/-- What is taken has the property, and the rest is the list without it. -/
theorem takeFirst?_perm {p : α → Bool} {l rest : List α} {a : α}
    (h : takeFirst? p l = some (a, rest)) : p a = true ∧ l.Perm (a :: rest) := by
  simp only [takeFirst?, Option.bind_eq_bind, Option.bind_eq_some_iff, pure, Option.some.injEq,
    Prod.mk.injEq] at h
  obtain ⟨i, hi, b, hb, rfl, rfl⟩ := h
  obtain ⟨hlt, hp, -⟩ := List.findIdx?_eq_some_iff_getElem.1 hi
  obtain rfl : l[i] = b := by
    rw [List.getElem?_eq_getElem hlt] at hb
    exact Option.some.inj hb
  exact ⟨hp, fillGap_perm hlt⟩

/-- What is taken is what a search finds. -/
theorem takeFirst?_fst {p : α → Bool} {l : List α} : (takeFirst? p l).map Prod.fst = l.find? p := by
  unfold takeFirst?
  rcases h : l.findIdx? p with _ | i
  · rw [List.findIdx?_eq_none_iff] at h
    exact (List.find?_eq_none.2 fun a ha => by simp [h a ha]).symm
  · obtain ⟨hi, hp, hfirst⟩ := List.findIdx?_eq_some_iff_getElem.1 h
    have hget : l[i]? = some l[i] := List.getElem?_eq_getElem hi
    have hfind : l.find? p = some l[i] := by
      refine List.find?_eq_some_iff_getElem.2 ⟨hp, i, hi, rfl, fun j hj => ?_⟩
      simpa using hfirst j hj
    rw [hfind]
    simp [hget]

/-! ## Lists with keys

Where no key is there twice, an entry is told by its key. -/

section Keys

variable {l rest : List α} {a x : α} (key : α → β)

theorem nodup_map_of_perm_cons (hn : (l.map key).Nodup) (hperm : l.Perm (a :: rest)) :
    (rest.map key).Nodup :=
  (List.nodup_cons.1 ((hperm.map key).nodup_iff.1 hn)).2

/-- Beside an entry there is all that has another key. -/
theorem mem_rest_iff (hn : (l.map key).Nodup) (hperm : l.Perm (a :: rest)) :
    x ∈ rest ↔ x ∈ l ∧ key x ≠ key a := by
  obtain ⟨hno, -⟩ := List.nodup_cons.1 ((hperm.map key).nodup_iff.1 hn)
  rw [hperm.mem_iff, List.mem_cons]
  constructor
  · exact fun hx => ⟨Or.inr hx, fun heq => hno (heq ▸ List.mem_map_of_mem hx)⟩
  · rintro ⟨rfl | hx, hne⟩
    · exact absurd rfl hne
    · exact hx

/-- An entry is the one beside the rest if it has its key. -/
theorem eq_of_perm_cons (hn : (l.map key).Nodup) (hperm : l.Perm (a :: rest)) (hx : x ∈ l)
    (hkey : key a = key x) : a = x :=
  List.inj_on_of_nodup_map hn (hperm.mem_iff.2 List.mem_cons_self) hx hkey

end Keys

/-! ## Rosters -/

namespace Roster

variable {r s : Roster} {i : DeviceId} {d : Device}

theorem detach?_eq_some (h : r.detach? i = some (d, s)) :
    d.id = i ∧ r.toList.Perm (d :: s.toList) := by
  obtain ⟨⟨a, rest⟩, htake, heq⟩ := Option.map_eq_some_iff.1 h
  obtain ⟨rfl, rfl⟩ := Prod.mk.inj heq
  obtain ⟨hp, hperm⟩ := takeFirst?_perm htake
  exact ⟨by simpa using hp, hperm⟩

theorem detach?_eq_none_iff : r.detach? i = none ↔ i ∉ r.ids := by
  rw [detach?, Option.map_eq_none_iff, takeFirst?_eq_none_iff, ids, List.mem_map]
  constructor
  · rintro h ⟨d, hd, rfl⟩
    simpa using h d hd
  · intro h d hd
    exact beq_eq_false_iff_ne.2 fun heq => h ⟨d, hd, heq⟩

theorem mem_ids_of_detach?_eq_some (h : r.detach? i = some (d, s)) : i ∈ r.ids := by
  by_contra hno
  rw [detach?_eq_none_iff.2 hno] at h
  cases h

/-- What is attached after a detachment was attached before, under another
identity. -/
theorem mem_ids_of_detach? (hn : r.ids.Nodup) (h : r.detach? i = some (d, s)) {j : DeviceId} :
    j ∈ s.ids ↔ j ∈ r.ids ∧ j ≠ i := by
  obtain ⟨rfl, hperm⟩ := detach?_eq_some h
  have hids : r.ids.Perm (d.id :: s.ids) := hperm.map Device.id
  exact mem_rest_iff id (by rwa [List.map_id]) hids

theorem nodup_of_detach? (hn : r.ids.Nodup) (h : r.detach? i = some (d, s)) : s.ids.Nodup :=
  nodup_map_of_perm_cons _ hn (detach?_eq_some h).2

/-- A device that is there can be detached, if no identity is there twice. -/
theorem detach?_of_mem (hn : r.ids.Nodup) (hd : d ∈ r.toList) :
    ∃ s : Roster, r.detach? d.id = some (d, s) ∧ r.toList.Perm (d :: s.toList) := by
  rcases hdetach : r.detach? d.id with _ | ⟨x, s⟩
  · exact absurd (List.mem_map_of_mem hd) (detach?_eq_none_iff.1 hdetach)
  · obtain ⟨hid, hperm⟩ := detach?_eq_some hdetach
    obtain rfl : x = d := eq_of_perm_cons Device.id hn hperm hd hid
    exact ⟨s, rfl, hperm⟩

/-- A device under a new identity comes last, and nothing else changes. -/
theorem attach_of_not_mem (h : d.id ∉ r.ids) : (r.attach d).toList = r.toList ++ [d] := by
  have hkeep : r.toList.filter (·.id != d.id) = r.toList := by
    refine List.filter_eq_self.2 fun x hx => ?_
    have hne : x.id ≠ d.id := fun heq => h (heq ▸ List.mem_map_of_mem hx)
    simpa using hne
  rw [attach, hkeep]

theorem ids_attach_of_not_mem (h : d.id ∉ r.ids) : (r.attach d).ids = r.ids ++ [d.id] := by
  rw [ids, attach_of_not_mem h, List.map_append]
  rfl

/-- A device takes the place of the one under its identity. -/
theorem mem_attach {x : Device} :
    x ∈ (r.attach d).toList ↔ x ∈ r.toList ∧ x.id ≠ d.id ∨ x = d := by
  rw [attach, List.mem_append, List.mem_filter, List.mem_singleton, bne_iff_ne]

/-- What is detached is one of those there, the rest stays. -/
theorem mem_of_detach? (h : r.detach? i = some (d, s)) {x : Device} (hx : x ∈ s.toList) :
    x ∈ r.toList := by
  obtain ⟨-, hperm⟩ := detach?_eq_some h
  exact hperm.mem_iff.2 (List.mem_cons_of_mem d hx)

theorem mem_detach?_of_ne (h : r.detach? i = some (d, s)) {x : Device} (hx : x ∈ r.toList)
    (hne : x.id ≠ i) : x ∈ s.toList := by
  obtain ⟨hid, hperm⟩ := detach?_eq_some h
  rcases List.mem_cons.1 (hperm.mem_iff.1 hx) with rfl | hx
  · exact absurd hid hne
  · exact hx

theorem mem_of_get? (h : r.get? i = some d) : d ∈ r.toList :=
  List.mem_of_find?_eq_some h

theorem id_of_get? (h : r.get? i = some d) : d.id = i := by
  simpa using List.find?_some h

/-- An identity stands for the device that has it, if none is there twice. -/
theorem get?_eq_some_iff (hn : r.ids.Nodup) : r.get? i = some d ↔ d.id = i ∧ d ∈ r.toList := by
  constructor
  · exact fun h => ⟨id_of_get? h, mem_of_get? h⟩
  · rintro ⟨rfl, hd⟩
    rcases hget : r.get? d.id with _ | e
    · exact absurd (List.find?_eq_none.1 hget d hd) (by simp)
    · rw [List.inj_on_of_nodup_map hn (mem_of_get? hget) hd (id_of_get? hget)]

/-- What is detached is what a look-up finds. -/
theorem detach?_fst : (r.detach? i).map Prod.fst = r.get? i := by
  rw [detach?, get?, ← takeFirst?_fst, Option.map_map]
  rfl

theorem nodup_attach (h : r.ids.Nodup) : (r.attach d).ids.Nodup := by
  rw [ids, attach, List.map_append]
  refine (h.sublist (List.filter_sublist.map _)).append (List.nodup_singleton _) ?_
  refine List.disjoint_singleton.2 fun hmem => ?_
  obtain ⟨x, hx, heq⟩ := List.mem_map.1 hmem
  simp [heq] at hx

end Roster

/-! ## Open handles -/

namespace OpenHandle

variable {hs : List OpenHandle} {n : Nat} {d : Device}

/-- A number above those of all handles is the number of none. -/
theorem not_mem_ids_of_lt (hlt : ∀ h ∈ hs, h.id.val < n) :
    (⟨n⟩ : OpenId) ∉ hs.map OpenHandle.id := by
  intro hmem
  obtain ⟨h, hh, hid⟩ := List.mem_map.1 hmem
  have hval := hlt h hh
  rw [hid] at hval
  exact Nat.lt_irrefl _ hval

/-- A handle under the next number is told from those under lower ones. -/
theorem nodup_concat (hn : (hs.map OpenHandle.id).Nodup) (hlt : ∀ h ∈ hs, h.id.val < n) :
    ((hs ++ [OpenHandle.mk ⟨n⟩ d]).map OpenHandle.id).Nodup := by
  rw [List.map_append]
  exact hn.append (List.nodup_singleton _) (List.disjoint_singleton.2 (not_mem_ids_of_lt hlt))

theorem lt_of_mem_concat (hlt : ∀ h ∈ hs, h.id.val < n) :
    ∀ h ∈ hs ++ [OpenHandle.mk ⟨n⟩ d], h.id.val < n + 1 := by
  intro h hh
  rcases List.mem_append.1 hh with hh | hh
  · exact Nat.lt_succ_of_lt (hlt h hh)
  · rw [List.mem_singleton.1 hh]
    exact Nat.lt_succ_self n

end OpenHandle

theorem OpenList.close?_eq_some {l m : OpenList} {k : OpenId} (h : l.close? k = some m) :
    ∃ o, o.id = k ∧ l.toList.Perm (o :: m.toList) := by
  obtain ⟨⟨o, rest⟩, htake, rfl⟩ := Option.map_eq_some_iff.1 h
  obtain ⟨hp, hperm⟩ := takeFirst?_perm htake
  exact ⟨o, by simpa using hp, hperm⟩

theorem OpenList.close?_eq_none_iff {l : OpenList} {k : OpenId} :
    l.close? k = none ↔ k ∉ l.toList.map OpenHandle.id := by
  rw [close?, Option.map_eq_none_iff, takeFirst?_eq_none_iff, List.mem_map]
  constructor
  · rintro h ⟨o, ho, rfl⟩
    simpa using h o ho
  · intro h o ho
    exact beq_eq_false_iff_ne.2 fun heq => h ⟨o, ho, heq⟩

/-- A handle that is open can be closed, if no number is there twice. -/
theorem OpenList.close?_of_mem {l : OpenList} {h : OpenHandle}
    (hn : (l.toList.map OpenHandle.id).Nodup) (hh : h ∈ l.toList) :
    ∃ m : OpenList, l.close? h.id = some m ∧ l.toList.Perm (h :: m.toList) := by
  rcases hclose : l.close? h.id with _ | m
  · exact absurd (List.mem_map_of_mem hh) (OpenList.close?_eq_none_iff.1 hclose)
  · obtain ⟨o, hid, hperm⟩ := OpenList.close?_eq_some hclose
    obtain rfl : o = h := eq_of_perm_cons OpenHandle.id hn hperm hh hid
    exact ⟨m, rfl, hperm⟩

theorem OpenList.mem_on {l : OpenList} {i : DeviceId} {o : OpenHandle} :
    o ∈ l.on i ↔ o ∈ l.toList ∧ o.device.id = i := by
  rw [on, List.mem_filter, beq_iff_eq]

end DeviceWatch
