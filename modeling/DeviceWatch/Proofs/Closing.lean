import DeviceWatch.Proofs.Departure
/-!
# Closed handles

A handle that was closed is in no list, and only handles in a list are ever
disconnected. So a closing is the last that happens to a handle, and whether it
is disconnected can be read off the notices before it. The platform of the
context has to keep a record of disconnected handles for this, as the platform
of a bus does.
-/

namespace DeviceWatch

variable {κ τ α : Type}

/-- The handles of a context that the notices tell to be disconnected. -/
def disconnects (c : ContextId) (ns : List Notice) : List OpenId :=
  ns.filterMap fun
    | .disconnected c' h => if c' = c then some h.id else none
    | _ => none

theorem disconnects_append {c : ContextId} {ns ms : List Notice} :
    disconnects c (ns ++ ms) = disconnects c ns ++ disconnects c ms :=
  List.filterMap_append

theorem disconnects_silent {c : ContextId} {ns : List Notice} (h : ∀ n ∈ ns, n.ofBus = false) :
    disconnects c ns = [] := by
  refine List.filterMap_eq_nil_iff.2 fun n hn => ?_
  have hbus := h n hn
  cases n <;> first | rfl | cases hbus

namespace World

/-- The handles of a context are listed once each, under numbers given before,
and its platform keeps a record of those disconnected. -/
structure Listed (w : World κ τ) (c : ContextId) : Prop where
  distinct : ((w.opens c).toList.map OpenHandle.id).Nodup
  lt : ∀ h ∈ (w.opens c).toList, h.id.val < w.nextOpen
  simulated : ∃ hotplug ds, w.platform c = .simulated hotplug ds

/-- The number was given to a handle, and the context has no such handle open. -/
structure Settled (w : World κ τ) (c : ContextId) (k : OpenId) : Prop where
  lt : k.val < w.nextOpen
  absent : k ∉ (w.opens c).toList.map OpenHandle.id

end World

/-- **What becomes of handles**, in a context that lists them. -/
structure Tells (c : ContextId) (w : World κ τ) (ns : List Notice) (w' : World κ τ) : Prop where
  listed : w'.Listed c
  /-- Whoever is disconnected afterwards was so before, or it was noted. -/
  flag (k : OpenId) : w'.isDisconnected k = true ↔ w.isDisconnected k = true ∨ k ∈ disconnects c ns
  /-- Nothing happens to settled handles. -/
  settled (k : OpenId) : w.Settled c k → w'.Settled c k ∧ k ∉ disconnects c ns
  /-- A closed handle is settled. -/
  closed (k : OpenId) (before after : List Notice) : ns = before ++ .closed c k :: after →
    w'.Settled c k ∧ k ∉ disconnects c after

/-- A bus's context tells of its handles. -/
def TellsOf (b : BusId) (c : ContextId) : Law κ τ :=
  fun w ns w' => w.contextOf b = c → w.Listed c → w'.contextOf b = c ∧ Tells c w ns w'

namespace Tells

variable {c : ContextId} {w w₁ w₂ w₃ : World κ τ} {ns ms : List Notice}

theorem refl (hw : w.Listed c) : Tells c w [] w where
  listed := hw
  flag k := by simp [disconnects]
  settled k hk := ⟨hk, List.not_mem_nil⟩
  closed k before after h := by simp at h

theorem trans (h₁ : Tells c w₁ ns w₂) (h₂ : Tells c w₂ ms w₃) : Tells c w₁ (ns ++ ms) w₃ where
  listed := h₂.listed
  flag k := by rw [h₂.flag, h₁.flag, disconnects_append, List.mem_append, or_assoc]
  settled k hk := by
    obtain ⟨hk₂, hno₁⟩ := h₁.settled k hk
    obtain ⟨hk₃, hno₂⟩ := h₂.settled k hk₂
    rw [disconnects_append, List.mem_append, not_or]
    exact ⟨hk₃, hno₁, hno₂⟩
  closed k before after h := by
    rcases List.append_eq_append_iff.1 h with ⟨l, rfl, hl⟩ | ⟨l, hl, hms⟩
    · exact h₂.closed k l after hl
    · rcases l with _ | ⟨n, l⟩
      · exact h₂.closed k [] after hms.symm
      · -- closed in the first part, so settled along the second
        obtain ⟨rfl, hafter⟩ : _ ∧ after = l ++ ms := List.cons.inj hms
        obtain ⟨hk₂, hno₁⟩ := h₁.closed k before l hl
        obtain ⟨hk₃, hno₂⟩ := h₂.settled k hk₂
        refine ⟨hk₃, ?_⟩
        rw [hafter, disconnects_append, List.mem_append, not_or]
        exact ⟨hno₁, hno₂⟩

/-- Where the open handles stay what they are and none is disconnected, nothing
happens to handles. -/
theorem of_same (hw : w₁.Listed c) (hopens : w₂.opens c = w₁.opens c)
    (hplatform : w₂.platform c = w₁.platform c) (hnext : w₂.nextOpen = w₁.nextOpen)
    (hflag : w₂.disconnected = w₁.disconnected) (hns : disconnects c ns = [])
    (hclosed : ∀ k, .closed c k ∉ ns) : Tells c w₁ ns w₂ where
  listed := by
    refine ⟨?_, ?_, ?_⟩
    · rw [hopens]
      exact hw.distinct
    · rw [hopens, hnext]
      exact hw.lt
    · rw [hplatform]
      exact hw.simulated
  flag k := by
    rw [World.isDisconnected, World.isDisconnected, hflag, hns]
    simp
  settled k hk := by
    rw [hns]
    refine ⟨⟨?_, ?_⟩, List.not_mem_nil⟩
    · rw [hnext]
      exact hk.lt
    · rw [hopens]
      exact hk.absent
  closed k before after h := by
    refine absurd ?_ (hclosed k)
    rw [h]
    exact List.mem_append_right _ List.mem_cons_self

end Tells

instance {b : BusId} {c : ContextId} : Law.OfBuses (TellsOf (κ := κ) (τ := τ) b c) where
  refl _ hc hw := ⟨hc, .refl hw⟩
  trans h₁ h₂ hc hw := by
    obtain ⟨hc₁, ht₁⟩ := h₁ hc hw
    obtain ⟨hc₂, ht₂⟩ := h₂ hc₁ ht₁.listed
    exact ⟨hc₂, ht₁.trans ht₂⟩
  still {w w' ns} h hc hw := by
    refine ⟨?_, ?_⟩
    · rw [World.contextOf, World.bus, h.buses]
      exact hc
    · refine .of_same hw (h.opens c) (h.platform c) h.nextOpen h.disconnected
        (disconnects_silent h.silent) fun k hk => ?_
      exact absurd (h.silent _ hk) nofun

namespace Act

variable {host : Host κ τ} {b : BusId} {c : ContextId} {d : Device} {i : DeviceId}
variable {w : World κ τ} {h : OpenHandle}

/-! ## Devices -/

theorem tells_attach : (attach c d : Act κ τ Unit).Obeys (TellsOf b c) := by
  intro w hc hw
  rw [run_attach]
  exact ⟨hc, .of_same hw World.opens_setRoster World.platform_setRoster rfl rfl rfl (by simp)⟩

theorem tells_detach : (detach c i : Act κ τ _).Obeys (TellsOf b c) := by
  refine obeys_detach fun w d rest _ hc hw => ?_
  exact ⟨hc, .of_same hw World.opens_setRoster World.platform_setRoster rfl rfl rfl (by simp)⟩

/-! ## Handles -/

theorem tells_openHandle : (openHandle c d : Act κ τ OpenHandle).Obeys (TellsOf b c) := by
  intro w hc hw
  refine ⟨hc, ?_⟩
  have hopens : (((openHandle c d).run w).world.opens c).toList =
      (w.opens c).toList ++ [⟨⟨w.nextOpen⟩, d⟩] := by
    rw [run_openHandle, World.opens_setOpens, if_pos rfl]
    rfl
  have hids : (((openHandle c d).run w).world.opens c).toList.map OpenHandle.id =
      (w.opens c).toList.map OpenHandle.id ++ [⟨w.nextOpen⟩] := by
    rw [hopens, List.map_append]
    rfl
  refine ⟨⟨?_, ?_, ?_⟩, ?_, ?_, ?_⟩
  · rw [hopens]
    exact OpenHandle.nodup_concat hw.distinct hw.lt
  · rw [hopens]
    exact OpenHandle.lt_of_mem_concat hw.lt
  · rw [run_openHandle, World.platform_setOpens]
    exact hw.simulated
  · exact fun k => (or_iff_left List.not_mem_nil).symm
  · intro k hk
    refine ⟨⟨Nat.lt_succ_of_lt hk.lt, ?_⟩, List.not_mem_nil⟩
    rw [hids, List.mem_append, not_or]
    refine ⟨hk.absent, fun hmem => ?_⟩
    have hlt := hk.lt
    rw [List.mem_singleton.1 hmem] at hlt
    exact Nat.lt_irrefl _ hlt
  · intro k before after h
    have hmem : .closed c k ∈ [Notice.opened c ⟨⟨w.nextOpen⟩, d⟩] := by
      rw [show [Notice.opened c ⟨⟨w.nextOpen⟩, d⟩] = _ from h]
      exact List.mem_append_right _ List.mem_cons_self
    cases List.mem_singleton.1 hmem

theorem tells_closeHandle : (closeHandle c h : Act κ τ Bool).Obeys (TellsOf b c) := by
  refine obeys_closeHandle fun w l hclose hc hw => ?_
  obtain ⟨o, ho, hperm⟩ := OpenList.close?_eq_some hclose
  have hopens : (w.setOpens c l).opens c = l := World.opens_setOpens.trans (if_pos rfl)
  have hids := hperm.map OpenHandle.id
  have hnodup := hids.nodup_iff.1 hw.distinct
  refine ⟨hc, ⟨⟨?_, ?_, ?_⟩, ?_, ?_, ?_⟩⟩
  · rw [hopens]
    exact nodup_map_of_perm_cons _ hw.distinct hperm
  · rw [hopens]
    exact fun x hx => hw.lt x (hperm.mem_iff.2 (List.mem_cons_of_mem o hx))
  · rw [World.platform_setOpens]
    exact hw.simulated
  · exact fun k => (or_iff_left List.not_mem_nil).symm
  · intro k hk
    refine ⟨⟨hk.lt, ?_⟩, List.not_mem_nil⟩
    rw [hopens]
    exact fun hmem => hk.absent (hids.mem_iff.2 (List.mem_cons_of_mem _ hmem))
  · -- The handle that was closed was open under a number drawn before.
    intro k before after hns
    rcases before with _ | ⟨n, before⟩
    · obtain ⟨hk, rfl⟩ := List.cons.inj hns
      obtain ⟨-, rfl⟩ := Notice.closed.inj hk
      refine ⟨⟨?_, ?_⟩, List.not_mem_nil⟩
      · rw [← ho]
        exact hw.lt o (hperm.mem_iff.2 List.mem_cons_self)
      · rw [hopens, ← ho]
        exact (List.nodup_cons.1 hnodup).1
    · have hnil := (List.cons.inj hns).2
      simp at hnil

/-! ## Disconnecting -/

/-- Handles are disconnected, among those with certain numbers, and nothing else
happens. -/
structure Loses (c : ContextId) (among : OpenId → Prop) (w : World κ τ) (ns : List Notice)
    (w' : World κ τ) : Prop where
  buses : w'.buses = w.buses
  opens : w'.opens c = w.opens c
  nextOpen : w'.nextOpen = w.nextOpen
  flag : (∃ hotplug ds, w.platform c = .simulated hotplug ds) →
    (∃ hotplug ds, w'.platform c = .simulated hotplug ds) ∧
    ∀ k, w'.isDisconnected k = true ↔ w.isDisconnected k = true ∨ k ∈ disconnects c ns
  among : ∀ k ∈ disconnects c ns, among k
  unclosed : ∀ k, .closed c k ∉ ns

instance {among : OpenId → Prop} : Law.Composes (Loses (κ := κ) (τ := τ) c among) where
  refl w := ⟨rfl, rfl, rfl, fun h => ⟨h, by simp [disconnects]⟩, nofun, nofun⟩
  trans h₁ h₂ := by
    refine ⟨h₂.buses.trans h₁.buses, h₂.opens.trans h₁.opens, h₂.nextOpen.trans h₁.nextOpen,
      fun hsim => ?_, fun k hk => ?_, fun k hk => ?_⟩
    · obtain ⟨hsim₁, hflag₁⟩ := h₁.flag hsim
      obtain ⟨hsim₂, hflag₂⟩ := h₂.flag hsim₁
      refine ⟨hsim₂, fun k => ?_⟩
      rw [hflag₂, hflag₁, disconnects_append, List.mem_append, or_assoc]
    · rw [disconnects_append, List.mem_append] at hk
      exact hk.elim (h₁.among k) (h₂.among k)
    · exact (List.mem_append.1 hk).elim (h₁.unclosed k) (h₂.unclosed k)

theorem disconnect_loses {among : OpenId → Prop} (hk : among h.id) :
    (disconnect c h : Act κ τ Bool).Obeys (Loses c among) := by
  refine obeys_disconnect fun w _ => ⟨rfl, World.opens_setPlatform, rfl, ?_, ?_, ?_⟩
  · rintro ⟨hotplug, ds, hp⟩
    refine ⟨⟨hotplug, ds ++ [⟨h.id, h.device.id⟩], ?_⟩, fun k => ?_⟩
    · rw [World.platform_setPlatform, if_pos rfl, hp]
      rfl
    · rw [World.isDisconnected_mark, hp]
      simp [givenUp, disconnects]
  · intro k hmem
    rcases hp : w.platform c with _ | _
    all_goals simp only [hp, givenUp, disconnects] at hmem
    · cases hmem
    · obtain rfl : k = h.id := by simpa using hmem
      exact hk
  · exact fun k hmem => forall_mem_givenUp (P := (· ≠ .closed c k)) nofun _ hmem rfl

theorem tells_disconnectOn : (disconnectOn c d : Act κ τ _).Obeys (TellsOf b c) := by
  intro w hc hw
  have hloses : Loses c (· ∈ (w.opens c).toList.map OpenHandle.id) w
      ((disconnectOn c d).run w).notices ((disconnectOn c d).run w).world := by
    have hall : (disconnectAll c ((w.opens c).on d.id) : Act κ τ _).Obeys
        (Loses c (· ∈ (w.opens c).toList.map OpenHandle.id)) :=
      closed_obeys.disconnectAll fun h hh =>
        disconnect_loses (List.mem_map_of_mem (OpenList.mem_on.1 hh).1)
    exact hall w
  -- Only open handles are disconnected here, and settled ones are not open.
  generalize ((disconnectOn c d).run w).notices = ns at hloses
  generalize ((disconnectOn c d).run w).world = w' at hloses
  obtain ⟨hsim, hflag⟩ := hloses.flag hw.simulated
  refine ⟨?_, ⟨⟨?_, ?_, hsim⟩, hflag, ?_, ?_⟩⟩
  · rw [World.contextOf, World.bus, hloses.buses]
    exact hc
  · rw [hloses.opens]
    exact hw.distinct
  · rw [hloses.opens, hloses.nextOpen]
    exact hw.lt
  · intro k hk
    refine ⟨⟨?_, ?_⟩, fun hmem => hk.absent (hloses.among k hmem)⟩
    · rw [hloses.nextOpen]
      exact hk.lt
    · rw [hloses.opens]
      exact hk.absent
  · intro k before after hns
    refine absurd ?_ (hloses.unclosed k)
    rw [hns]
    exact List.mem_append_right _ List.mem_cons_self

/-! ## The acts on a bus -/

/-- An act on a bus acts on the context of the bus. -/
theorem tells_get_bind {f : World κ τ → Act κ τ α}
    (hf : ∀ w, w.contextOf b = c → (f w).Obeys (TellsOf b c)) :
    (get >>= f).Obeys (TellsOf b c) :=
  fun w hc hw => hf w hc w hc hw

variable (hr : ∀ inv, (host.react inv).Obeys (TellsOf b c))
include hr

theorem tells_notify {e : Event} : (notify host c d e).Obeys (TellsOf b c) :=
  still_notify hr tells_disconnectOn

theorem tells_plug {s : DeviceSpec} : (plug host b s).Obeys (TellsOf b c) := by
  refine tells_get_bind fun w hc => Obeys.bind ?number fun _ => ?rest
  case number =>
    refine obeys_modify fun v _ hv => ⟨?_, .of_same hv rfl rfl rfl rfl rfl nofun⟩
    simp only [World.contextOf, World.bus, Store.get_set_self]
    exact hc
  case rest =>
    rw [show (w.bus b).context = c from hc]
    refine tells_attach.bind fun _ => Obeys.bind ?_ fun _ => ?_
    · exact still_note rfl
    · exact (tells_notify hr).bind fun _ => obeys_pure _

theorem tells_unplug : (unplug host b i).Obeys (TellsOf b c) := by
  refine tells_get_bind fun w hc => ?_
  rw [hc]
  refine tells_detach.bind fun found => ?_
  rcases found with _ | d
  · exact obeys_pure _
  · exact (still_note rfl).bind fun _ => (tells_notify hr).bind fun _ => obeys_pure _

theorem tells_transferFailed : (transferFailed host b h).Obeys (TellsOf b c) := by
  refine tells_get_bind fun w hc => ?_
  rw [hc]
  refine tells_detach.bind fun found => ?_
  rcases found with _ | d
  · exact obeys_pure _
  · exact tells_notify hr

omit hr

theorem tells_openDevice : (openDevice b i : Act κ τ _).Obeys (TellsOf b c) := by
  refine tells_get_bind fun w hc => ?_
  rw [hc]
  refine (obeys_context c).bind fun x => ?_
  rcases x.roster.get? i with _ | d
  · exact obeys_pure _
  · exact tells_openHandle.bind fun _ => obeys_pure _

theorem tells_closeDevice : (closeDevice b h : Act κ τ _).Obeys (TellsOf b c) := by
  refine tells_get_bind fun w hc => ?_
  rw [hc]
  exact tells_closeHandle

end Act
end DeviceWatch
