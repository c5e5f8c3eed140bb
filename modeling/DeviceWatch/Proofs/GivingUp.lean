import DeviceWatch.Proofs.Closing
import DeviceWatch.Proofs.Notes
/-!
# Handles given up

The platform of a context keeps a record of the handles that it was told to give
up. Departures of one device may overlap, handles may be closed and opened while
callbacks run, and a callback may panic; still a handle is recorded once, if at
all, since it is marked before the platform is told and no mark is ever taken
away. So the record agrees with the marks on the handles that were opened in the
context, and with the tallies of the passes over its callbacks.
-/

namespace DeviceWatch

variable {κ τ α : Type}

/-- The platform of the context keeps a record. -/
def World.Simulated (w : World κ τ) (c : ContextId) : Prop :=
  ∃ hotplug ds, w.platform c = .simulated hotplug ds

/-- The handles that a context's platform gave up, oldest first. -/
def World.record (w : World κ τ) (c : ContextId) : List Disconnect :=
  (w.platform c).disconnects

/-- The handles opened in a context. -/
def opened (c : ContextId) (ns : List Notice) : List OpenHandle :=
  ns.filterMap fun
    | .opened c' h => if c' = c then some h else none
    | _ => none

/-- The platform of a context keeps a record of handles made, each at most once and
with its own device. -/
structure World.Recorded (w : World κ τ) (c : ContextId) (made : List OpenHandle) : Prop where
  simulated : w.Simulated c
  once : ((w.record c).map Disconnect.handle).Nodup
  entry : ∀ e ∈ w.record c, ∃ h ∈ made, e = ⟨h.id, h.device.id⟩

/-- **The record of a context agrees with the marks** on the handles that were made
in it. -/
structure World.Agrees (w : World κ τ) (c : ContextId) (made : List OpenHandle) : Prop
    extends w.Recorded c made where
  made_of_open : ∀ h ∈ (w.opens c).toList, h ∈ made
  /-- No two handles made share an identity, and it was given out. -/
  distinct : (made.map OpenHandle.id).Nodup
  lt : ∀ h ∈ made, h.id.val < w.nextOpen
  /-- Handles open in another context were made there. -/
  apart : ∀ c', c' ≠ c → ∀ o ∈ (w.opens c').toList,
    o.id.val < w.nextOpen ∧ o.id ∉ made.map OpenHandle.id
  flag_lt : ∀ k, w.isDisconnected k = true → k.val < w.nextOpen
  /-- Of the handles made, those are recorded that are disconnected. -/
  flag : ∀ h ∈ made, (w.isDisconnected h.id = true ↔ h.id ∈ (w.record c).map Disconnect.handle)

/-- What happens keeps the record of a context in agreement with the marks. No
mark is taken away. -/
structure Records (c : ContextId) (w : World κ τ) (ns : List Notice) (w' : World κ τ) : Prop where
  lasting : ∀ k, w.isDisconnected k = true → w'.isDisconnected k = true
  agrees : ∀ made, w.Agrees c made →
    w'.Agrees c (made ++ opened c ns) ∧
      (w'.record c).map Disconnect.handle =
        (w.record c).map Disconnect.handle ++ disconnects c ns

theorem opened_append {c : ContextId} {ns ms : List Notice} :
    opened c (ns ++ ms) = opened c ns ++ opened c ms :=
  List.filterMap_append

theorem opened_silent {c : ContextId} {ns : List Notice} (h : ∀ n ∈ ns, n.ofBus = false) :
    opened c ns = [] := by
  refine List.filterMap_eq_nil_iff.2 fun n hn => ?_
  have hbus := h n hn
  cases n <;> first | rfl | cases hbus

namespace World

variable {w w' : World κ τ} {c c' : ContextId} {made made' : List OpenHandle}

theorem record_eq (hplatform : w'.platform c = w.platform c) : w'.record c = w.record c := by
  rw [record, record, hplatform]

/-- More handles may be made while the platform stays what it is. -/
theorem Recorded.of_platform (h : w.Recorded c made) (hplatform : w'.platform c = w.platform c)
    (hmade : made ⊆ made') : w'.Recorded c made' where
  simulated := by
    rw [Simulated, hplatform]
    exact h.simulated
  once := by
    rw [record_eq hplatform]
    exact h.once
  entry e he := by
    rw [record_eq hplatform] at he
    obtain ⟨o, ho, heq⟩ := h.entry e he
    exact ⟨o, hmade ho, heq⟩

namespace Agrees

/-- Where marks, open handles and the platform stay what they are, so does the
agreement. Other contexts may lose handles. -/
theorem of_same (h : w.Agrees c made) (hplatform : w'.platform c = w.platform c)
    (hopens : ∀ c', ∀ o ∈ (w'.opens c').toList, o ∈ (w.opens c').toList)
    (hnext : w'.nextOpen = w.nextOpen) (hflag : w'.disconnected = w.disconnected) :
    w'.Agrees c made where
  toRecorded := h.toRecorded.of_platform hplatform fun _ => id
  made_of_open o ho := h.made_of_open o (hopens c o ho)
  distinct := h.distinct
  lt o ho := hnext ▸ h.lt o ho
  apart c' hc o ho := hnext ▸ h.apart c' hc o (hopens c' o ho)
  flag_lt k hk := by
    rw [isDisconnected, hflag] at hk
    exact hnext ▸ h.flag_lt k hk
  flag o ho := by
    rw [record_eq hplatform, isDisconnected, hflag]
    exact h.flag o ho

/-- The number of the next handle was given to none before. -/
theorem next_not_mem (h : w.Agrees c made) : (⟨w.nextOpen⟩ : OpenId) ∉ made.map OpenHandle.id :=
  OpenHandle.not_mem_ids_of_lt h.lt

/-- A handle in the record was made. -/
theorem mem_made (h : w.Agrees c made) {k : OpenId}
    (hk : k ∈ (w.record c).map Disconnect.handle) : k ∈ made.map OpenHandle.id := by
  obtain ⟨e, he, rfl⟩ := List.mem_map.1 hk
  obtain ⟨o, ho, rfl⟩ := h.entry e he
  exact List.mem_map_of_mem ho

/-- A handle is opened in the context. -/
theorem openHere (h : w.Agrees c made) {d : Device} :
    (World.setOpens { w with nextOpen := w.nextOpen + 1 } c
      ((w.opens c).push ⟨⟨w.nextOpen⟩, d⟩)).Agrees c (made ++ [⟨⟨w.nextOpen⟩, d⟩]) where
  toRecorded := h.toRecorded.of_platform platform_setOpens (List.subset_append_left _ _)
  made_of_open o ho := by
    rw [opens_setOpens, if_pos rfl] at ho
    exact List.mem_append.2 ((List.mem_append.1 ho).imp_left (h.made_of_open o))
  distinct := OpenHandle.nodup_concat h.distinct h.lt
  lt := OpenHandle.lt_of_mem_concat h.lt
  apart c' hc o ho := by
    rw [opens_setOpens, if_neg hc] at ho
    obtain ⟨hlt, hno⟩ := h.apart c' hc o ho
    refine ⟨Nat.lt_succ_of_lt hlt, ?_⟩
    rw [List.map_append, List.mem_append, not_or]
    refine ⟨hno, fun hmem => ?_⟩
    rw [List.mem_singleton.1 hmem] at hlt
    exact Nat.lt_irrefl _ hlt
  flag_lt k hk := Nat.lt_succ_of_lt (h.flag_lt k hk)
  flag o ho := by
    rw [record_eq platform_setOpens]
    rcases List.mem_append.1 ho with ho | ho
    · exact h.flag o ho
    · -- the new handle is neither marked nor recorded
      rw [List.mem_singleton.1 ho]
      refine iff_of_false (fun hk => ?_) fun hk => h.next_not_mem (h.mem_made hk)
      exact Nat.lt_irrefl _ (h.flag_lt _ hk)

/-- A handle is opened in another context. -/
theorem openElsewhere (h : w.Agrees c made) (hc : c' ≠ c) {d : Device} :
    (World.setOpens { w with nextOpen := w.nextOpen + 1 } c'
      ((w.opens c').push ⟨⟨w.nextOpen⟩, d⟩)).Agrees c made where
  toRecorded := h.toRecorded.of_platform platform_setOpens fun _ => id
  made_of_open o ho := by
    rw [opens_setOpens, if_neg (Ne.symm hc)] at ho
    exact h.made_of_open o ho
  distinct := h.distinct
  lt o ho := Nat.lt_succ_of_lt (h.lt o ho)
  apart c'' hc'' o ho := by
    rw [opens_setOpens] at ho
    split at ho
    next =>
      rcases List.mem_append.1 ho with ho | ho
      · obtain ⟨hlt, hno⟩ := h.apart c' hc o ho
        exact ⟨Nat.lt_succ_of_lt hlt, hno⟩
      · rw [List.mem_singleton.1 ho]
        exact ⟨Nat.lt_succ_self w.nextOpen, h.next_not_mem⟩
    next =>
      obtain ⟨hlt, hno⟩ := h.apart c'' hc'' o ho
      exact ⟨Nat.lt_succ_of_lt hlt, hno⟩
  flag_lt k hk := Nat.lt_succ_of_lt (h.flag_lt k hk)
  flag o ho := by
    rw [record_eq platform_setOpens]
    exact h.flag o ho

/-- A handle of the context that is not disconnected is marked and recorded. -/
theorem giveUpHere (h : w.Agrees c made) {k : OpenHandle} (hopen : k ∈ (w.opens c).toList)
    (hk : w.isDisconnected k.id = false) :
    (World.setPlatform { w with disconnected := k.id :: w.disconnected } c
      ((w.platform c).giveUp k)).Agrees c made ∧
    (World.setPlatform { w with disconnected := k.id :: w.disconnected } c
      ((w.platform c).giveUp k)).record c = w.record c ++ [⟨k.id, k.device.id⟩] := by
  have hmade := h.made_of_open k hopen
  obtain ⟨hotplug, ds, hp⟩ := h.simulated
  have hplatform : (World.setPlatform { w with disconnected := k.id :: w.disconnected } c
      ((w.platform c).giveUp k)).platform c =
      .simulated hotplug (ds ++ [⟨k.id, k.device.id⟩]) := by
    rw [platform_setPlatform, if_pos rfl, hp]
    rfl
  have hrecord : (World.setPlatform { w with disconnected := k.id :: w.disconnected } c
      ((w.platform c).giveUp k)).record c = w.record c ++ [⟨k.id, k.device.id⟩] := by
    rw [record, hplatform, record, hp]
    rfl
  refine ⟨{ simulated := ⟨_, _, hplatform⟩, once := ?_, entry := fun e he => ?_,
            made_of_open := fun o ho => ?_, distinct := h.distinct, lt := h.lt,
            apart := fun c' hc o ho => ?_, flag_lt := fun i hi => ?_,
            flag := fun o ho => ?_ }, hrecord⟩
  · -- What is recorded was marked before.
    rw [hrecord, List.map_append]
    refine h.once.append (List.nodup_singleton _) (List.disjoint_singleton.2 fun hmem => ?_)
    rw [(h.flag k hmade).2 hmem] at hk
    cases hk
  · rw [hrecord] at he
    rcases List.mem_append.1 he with he | he
    · exact h.entry e he
    · exact ⟨k, hmade, List.mem_singleton.1 he⟩
  · rw [opens_setPlatform] at ho
    exact h.made_of_open o ho
  · rw [opens_setPlatform] at ho
    exact h.apart c' hc o ho
  · rcases isDisconnected_mark.1 hi with hi | rfl
    · exact h.flag_lt i hi
    · exact h.lt k hmade
  · rw [isDisconnected_mark, hrecord, List.map_append, List.mem_append, List.map_singleton,
      List.mem_singleton]
    exact or_congr_left (h.flag o ho)

/-- A handle of another context is marked, and that context's platform told. -/
theorem giveUpElsewhere (h : w.Agrees c made) (hc : c' ≠ c) {k : OpenHandle}
    (hopen : k ∈ (w.opens c').toList) :
    (World.setPlatform { w with disconnected := k.id :: w.disconnected } c'
      ((w.platform c').giveUp k)).Agrees c made ∧
    (World.setPlatform { w with disconnected := k.id :: w.disconnected } c'
      ((w.platform c').giveUp k)).record c = w.record c := by
  obtain ⟨hlt, hno⟩ := h.apart c' hc k hopen
  have hplatform : (World.setPlatform { w with disconnected := k.id :: w.disconnected } c'
      ((w.platform c').giveUp k)).platform c = w.platform c :=
    platform_setPlatform.trans (if_neg (Ne.symm hc))
  refine ⟨{ toRecorded := h.toRecorded.of_platform hplatform fun _ => id,
            made_of_open := fun o ho => ?_, distinct := h.distinct, lt := h.lt,
            apart := fun c'' hc'' o ho => ?_, flag_lt := fun i hi => ?_,
            flag := fun o ho => ?_ }, record_eq hplatform⟩
  · rw [opens_setPlatform] at ho
    exact h.made_of_open o ho
  · rw [opens_setPlatform] at ho
    exact h.apart c'' hc'' o ho
  · rcases isDisconnected_mark.1 hi with hi | rfl
    · exact h.flag_lt i hi
    · exact hlt
  · -- The handle was made elsewhere, so it is not this one.
    have hne : o.id ≠ k.id := fun heq => hno (heq ▸ List.mem_map_of_mem ho)
    rw [isDisconnected_mark, or_iff_left hne, record_eq hplatform]
    exact h.flag o ho

end Agrees
end World

namespace Records

variable {c : ContextId} {w w₁ w₂ w₃ : World κ τ} {ns ms : List Notice}

theorem refl (w : World κ τ) : Records c w [] w where
  lasting _ := id
  agrees made hw := by
    rw [show opened c [] = [] from rfl, show disconnects c [] = [] from rfl, List.append_nil,
      List.append_nil]
    exact ⟨hw, rfl⟩

theorem trans (h₁ : Records c w₁ ns w₂) (h₂ : Records c w₂ ms w₃) :
    Records c w₁ (ns ++ ms) w₃ where
  lasting k hk := h₂.lasting k (h₁.lasting k hk)
  agrees made hw := by
    obtain ⟨hw₂, hrec₂⟩ := h₁.agrees made hw
    obtain ⟨hw₃, hrec₃⟩ := h₂.agrees _ hw₂
    rw [opened_append, disconnects_append, ← List.append_assoc, ← List.append_assoc, ← hrec₂]
    exact ⟨hw₃, hrec₃⟩

/-- Where no handle is opened or disconnected and none is listed anew, the record
stays as it is. -/
theorem of_same (hplatform : w₂.platform c = w₁.platform c)
    (hopens : ∀ c', ∀ o ∈ (w₂.opens c').toList, o ∈ (w₁.opens c').toList)
    (hnext : w₂.nextOpen = w₁.nextOpen) (hflag : w₂.disconnected = w₁.disconnected)
    (hopened : opened c ns = []) (hns : disconnects c ns = []) : Records c w₁ ns w₂ where
  lasting k hk := by
    rw [World.isDisconnected, hflag]
    exact hk
  agrees made hw := by
    rw [hopened, hns, List.append_nil, List.append_nil]
    exact ⟨hw.of_same hplatform hopens hnext hflag, by rw [World.record_eq hplatform]⟩

end Records

instance {c : ContextId} : Law.OfBuses (Records (κ := κ) (τ := τ) c) where
  refl := .refl
  trans := .trans
  still h := .of_same (h.platform _) (fun c' _ ho => h.opens c' ▸ ho) h.nextOpen h.disconnected
    (opened_silent h.silent) (disconnects_silent h.silent)

namespace Act

variable {host : Host κ τ} {b : BusId} {c c' : ContextId} {d : Device} {i : DeviceId}
variable {w : World κ τ} {h : OpenHandle}

/-! ## Devices and the list of open handles -/

theorem records_attach : (attach c' d : Act κ τ Unit).Obeys (Records c) := by
  intro w
  rw [run_attach]
  refine .of_same World.platform_setRoster (fun c'' o ho => ?_) rfl rfl rfl rfl
  rwa [World.opens_setRoster] at ho

theorem records_detach : (detach c' i : Act κ τ _).Obeys (Records c) := by
  refine obeys_detach fun w d rest _ => ?_
  refine .of_same World.platform_setRoster (fun c'' o ho => ?_) rfl rfl rfl rfl
  rwa [World.opens_setRoster] at ho

theorem records_closeHandle : (closeHandle c' h : Act κ τ Bool).Obeys (Records c) := by
  refine obeys_closeHandle fun w rest hclose => ?_
  refine .of_same World.platform_setOpens (fun c'' o ho => ?_) rfl rfl rfl rfl
  rw [World.opens_setOpens] at ho
  split at ho
  next heq =>
    obtain ⟨o', -, hperm⟩ := OpenList.close?_eq_some hclose
    rw [heq]
    exact hperm.mem_iff.2 (List.mem_cons_of_mem _ ho)
  next => exact ho

theorem records_openHandle : (openHandle c' d : Act κ τ OpenHandle).Obeys (Records c) := by
  intro w
  rw [run_openHandle]
  refine ⟨fun _ => id, fun made hw => ?_⟩
  have hrecord : (World.setOpens { w with nextOpen := w.nextOpen + 1 } c'
      ((w.opens c').push ⟨⟨w.nextOpen⟩, d⟩)).record c = w.record c :=
    World.record_eq World.platform_setOpens
  have hns : disconnects c [Notice.opened c' ⟨⟨w.nextOpen⟩, d⟩] = [] := rfl
  rw [hrecord, hns, List.append_nil]
  refine ⟨?_, rfl⟩
  by_cases hc : c' = c
  · subst hc
    have hopened : opened c' [Notice.opened c' ⟨⟨w.nextOpen⟩, d⟩] = [⟨⟨w.nextOpen⟩, d⟩] := by
      simp [opened]
    rw [hopened]
    exact hw.openHere
  · have hopened : opened c [Notice.opened c' ⟨⟨w.nextOpen⟩, d⟩] = [] := by simp [opened, hc]
    rw [hopened, List.append_nil]
    exact hw.openElsewhere hc

/-! ## Disconnecting -/

/-- A handle that is open is disconnected, unless that has happened before. -/
theorem records_disconnect (hopen : h ∈ (w.opens c').toList) :
    Records c w ((disconnect c' h).run w).notices ((disconnect c' h).run w).world := by
  rw [run_disconnect]
  split
  next => exact .refl w
  next hk =>
    rw [Bool.not_eq_true] at hk
    refine ⟨fun k hk => World.isDisconnected_mark.2 (Or.inl hk), fun made hw => ?_⟩
    by_cases hc : c' = c
    · subst hc
      obtain ⟨hagrees, hrecord⟩ := hw.giveUpHere hopen hk
      obtain ⟨hotplug, ds, hp⟩ := hw.simulated
      have hopened : opened c' (givenUp c' h (w.platform c')) = [] := by
        rw [hp]
        rfl
      have hns : disconnects c' (givenUp c' h (w.platform c')) = [h.id] := by
        rw [hp]
        simp [givenUp, disconnects]
      rw [hopened, hns, List.append_nil, hrecord, List.map_append]
      exact ⟨hagrees, rfl⟩
    · obtain ⟨hagrees, hrecord⟩ := hw.giveUpElsewhere hc hopen
      have hnone : opened c (givenUp c' h (w.platform c')) = [] ∧
          disconnects c (givenUp c' h (w.platform c')) = [] := by
        rcases w.platform c' with _ | _
        · exact ⟨rfl, rfl⟩
        · exact ⟨rfl, by simp [givenUp, disconnects, hc]⟩
      rw [hnone.1, hnone.2, List.append_nil, List.append_nil, hrecord]
      exact ⟨hagrees, rfl⟩

theorem opens_disconnect : ((disconnect c' h).run w).world.opens c = w.opens c := by
  rw [run_disconnect]
  split
  · rfl
  · exact World.opens_setPlatform

theorem records_disconnectAll {hs : List OpenHandle} (hopen : ∀ h ∈ hs, h ∈ (w.opens c').toList) :
    Records c w ((disconnectAll c' hs).run w).notices ((disconnectAll c' hs).run w).world := by
  induction hs generalizing w with
  | nil => exact .refl w
  | cons h rest ih =>
    obtain ⟨hworld, hnotices⟩ : ((disconnectAll c' (h :: rest)).run w).world = _ ∧ _ :=
      run_disconnectAll_cons
    rw [hworld, hnotices]
    refine (records_disconnect (hopen h List.mem_cons_self)).trans (ih fun o ho => ?_)
    rw [opens_disconnect]
    exact hopen o (List.mem_cons_of_mem h ho)

theorem records_disconnectOn : (disconnectOn c' d : Act κ τ _).Obeys (Records c) :=
  fun _ => records_disconnectAll fun _ ho => (OpenList.mem_on.1 ho).1

/-! ## Runs -/

/-- **Every run keeps the record in agreement with the marks**, whatever its
callbacks do and whether or not they panic. -/
theorem Within.records {x : Act κ τ α} (hx : x.Within Repertoire.Any) : x.Obeys (Records c) := by
  refine hx.obeys_of_parts (still_parts ?buses (fun _ _ => records_attach)
    (fun _ _ => records_detach) (fun _ _ => records_openHandle) (fun _ _ => records_closeHandle)
    fun _ _ => records_disconnectOn) fun w f => still_remember f w
  case buses => exact fun w _ => .of_same rfl (fun _ _ => id) rfl rfl rfl rfl

end Act
end DeviceWatch
