import DeviceWatch.Proofs.Attachment
import DeviceWatch.Proofs.Disconnection
/-!
# Devices that displace others

A roster holds one device for an identity, and every bus numbers its devices on its own,
from 1. So a device plugged in displaces the one under its number, if there is one: the
other is off the roster without a pass over its departure. The number of a bus is never
that of a device that it has plugged in before; it can be in use only by a device of another
bus of the context or by one that was added without a bus.

What becomes of a roster is traced along the traffic on it: a device that is gone was taken
off by a departure, with its pass, or by hand, or another one came under its number.
-/

namespace DeviceWatch

variable {κ τ : Type}

/-! ## Callbacks that leave a context's devices alone -/

/-- **The devices of a context stay what they are**, and so do the numbers that its buses
give next. -/
structure Stationary (c : ContextId) (w : World κ τ) (ns : List Notice) (w' : World κ τ) :
    Prop where
  roster : w'.roster c = w.roster c
  contexts (b : BusId) : w'.contextOf b = w.contextOf b
  buses (b : BusId) : w.contextOf b = c → w'.bus b = w.bus b

instance {c : ContextId} : Law.OfBuses (Stationary (κ := κ) (τ := τ) c) where
  refl _ := ⟨rfl, fun _ => rfl, fun _ _ => rfl⟩
  trans h₁ h₂ :=
    ⟨h₂.roster.trans h₁.roster, fun b => (h₂.contexts b).trans (h₁.contexts b),
      fun b hb => (h₂.buses b ((h₁.contexts b).trans hb)).trans (h₁.buses b hb)⟩
  still h := by
    refine ⟨h.roster _, fun b => ?_, fun b _ => ?_⟩
    · rw [World.contextOf, World.bus, h.buses]
      rfl
    · rw [World.bus, h.buses]
      rfl

namespace Act

variable {host : Host κ τ} {b : BusId} {c : ContextId} {d : Device} {e : Event} {h : OpenHandle}
variable {w : World κ τ}

theorem stationary_disconnect : (disconnect c h : Act κ τ Bool).Obeys (Stationary c) :=
  obeys_disconnect fun _ _ => ⟨World.roster_setPlatform, fun _ => rfl, fun _ _ => rfl⟩

theorem stationary_notify (hr : ∀ inv, (host.react inv).Obeys (Stationary c)) :
    (notify host c d e).Obeys (Stationary c) :=
  still_notify hr (closed_obeys.disconnectOn fun _ => stationary_disconnect)

/-- A bus has attached its new device by the time its callbacks hear of it. -/
theorem stationary_plug {s : DeviceSpec} (hr : ∀ inv, (host.react inv).Obeys (Stationary c))
    (hb : w.contextOf b = c) : Stationary c (w.withNew b s) [] ((plug host b s).run w).world := by
  have hpass : (notify host c (Bus.device (w.bus b).nextDevice s) .arrived).Obeys
    (Stationary c) := stationary_notify hr
  obtain ⟨hroster, hcontexts, hbuses⟩ := hpass (w.withNew b s)
  rw [run_plug, hb]
  exact ⟨hroster, hcontexts, hbuses⟩

/-- A pass notes its beginning first. -/
theorem passBegan_mem_notify (host : Host κ τ) (c : ContextId) (d : Device) (e : Event)
    (w : World κ τ) : .passBegan c d e ∈ ((notify host c d e).run w).notices := by
  rw [notify, run_bind, run_note, Effect.andThen_some]
  exact List.mem_append_left _ (List.mem_singleton_self _)

end Act

/-! ## Traffic -/

/-- A device comes to a context or goes. -/
inductive Traffic where
  /-- A device was added without a bus. -/
  | added (d : Device)
  /-- A bus plugged a device in. -/
  | plugged (b : BusId) (d : Device)
  /-- The device with an identity was taken off without a bus. -/
  | removed (i : DeviceId)
  /-- A bus was told that the device with an identity leaves. -/
  | left (i : DeviceId)

/-- The worlds that traffic on a context leads to, by any number of buses and without, and
what was noted. Buses are attached at any time; in between, anything may happen that leaves
the devices of the context alone. -/
inductive Along (host : Host κ τ) (c : ContextId) (start : World κ τ) :
    List Traffic → List Notice → World κ τ → Prop
  | start : Along host c start [] [] start
  | add {ts : List Traffic} {ns : List Notice} {w : World κ τ} (d : Device) :
      Along host c start ts ns w →
      Along host c start (ts ++ [.added d]) (ns ++ ((Act.attach c d).run w).notices)
        ((Act.attach c d).run w).world
  | remove {ts : List Traffic} {ns : List Notice} {w : World κ τ} (i : DeviceId) :
      Along host c start ts ns w →
      Along host c start (ts ++ [.removed i]) (ns ++ ((Act.detach c i).run w).notices)
        ((Act.detach c i).run w).world
  | plug {ts : List Traffic} {ns : List Notice} {w : World κ τ} (b : BusId) (s : DeviceSpec) :
      Along host c start ts ns w → w.contextOf b = c →
      Along host c start (ts ++ [.plugged b (Bus.device (w.bus b).nextDevice s)])
        (ns ++ ((Act.plug host b s).run w).notices) ((Act.plug host b s).run w).world
  | unplug {ts : List Traffic} {ns : List Notice} {w : World κ τ} (b : BusId) (i : DeviceId) :
      Along host c start ts ns w → w.contextOf b = c →
      Along host c start (ts ++ [.left i]) (ns ++ ((Act.unplug host b i).run w).notices)
        ((Act.unplug host b i).run w).world
  | transferFailed {ts : List Traffic} {ns : List Notice} {w : World κ τ} (b : BusId)
      (h : OpenHandle) : Along host c start ts ns w → w.contextOf b = c →
      Along host c start (ts ++ [.left h.device.id])
        (ns ++ ((Act.transferFailed host b h).run w).notices)
        ((Act.transferFailed host b h).run w).world
  /-- A new bus is none that the context has. -/
  | bus {ts : List Traffic} {ns : List Notice} {w : World κ τ} (c' : ContextId) :
      Along host c start ts ns w → w.contextOf ⟨w.nextBus⟩ ≠ c →
      Along host c start ts ns (w.addBus c').1
  | meanwhile {ts : List Traffic} {ns ms : List Notice} {w w' : World κ τ} :
      Along host c start ts ns w → Stationary c w ms w' → Along host c start ts (ns ++ ms) w'

/-- What happened to a device that was on the roster under an identity: a pass over its
departure, or it was taken off by hand, or another one came under the identity. -/
def Accounted (c : ContextId) (i : DeviceId) (ts : List Traffic) (ns : List Notice) : Prop :=
  (∃ d, d.id = i ∧ .passBegan c d .left ∈ ns) ∨ .removed i ∈ ts ∨
    ∃ d, d.id = i ∧ (.added d ∈ ts ∨ ∃ b, .plugged b d ∈ ts)

/-- **What traffic makes of a roster** and of the numbers of the context's buses. -/
structure Traced (c : ContextId) (w : World κ τ) (ts : List Traffic) (ns : List Notice)
    (w' : World κ τ) : Prop where
  /-- Buses stay on the context, and no number is given back. -/
  rises (b : BusId) : w.contextOf b = c →
    w'.contextOf b = c ∧ (w.bus b).nextDevice ≤ (w'.bus b).nextDevice
  /-- A bus plugs a device in under a number that it had not given. -/
  drawn (b : BusId) (d : Device) : .plugged b d ∈ ts →
    w'.contextOf b = c ∧ d.id.val < (w'.bus b).nextDevice ∧
      (w.contextOf b = c → (w.bus b).nextDevice ≤ d.id.val)
  /-- Whoever is there was there or came. -/
  came (d : Device) : d ∈ (w'.roster c).toList →
    d ∈ (w.roster c).toList ∨ .added d ∈ ts ∨ ∃ b, .plugged b d ∈ ts
  /-- Whoever was there is there or accounted for. -/
  gone (d : Device) : d ∈ (w.roster c).toList →
    d ∈ (w'.roster c).toList ∨ Accounted c d.id ts ns

variable {host : Host κ τ} {b : BusId} {c : ContextId} {w w₁ w₂ w₃ w' : World κ τ}
variable {ts us : List Traffic} {ns ms : List Notice} {d : Device} {i : DeviceId}

theorem Accounted.mono (h : Accounted c i ts ns) (hts : ts ⊆ us) (hns : ns ⊆ ms) :
    Accounted c i us ms := by
  obtain ⟨d, hd, hmem⟩ | hmem | ⟨d, hd, hmem | ⟨b, hmem⟩⟩ := h
  · exact Or.inl ⟨d, hd, hns hmem⟩
  · exact Or.inr (Or.inl (hts hmem))
  · exact Or.inr (Or.inr ⟨d, hd, Or.inl (hts hmem)⟩)
  · exact Or.inr (Or.inr ⟨d, hd, Or.inr ⟨b, hts hmem⟩⟩)

namespace Traced

theorem trans (h₁ : Traced c w₁ ts ns w₂) (h₂ : Traced c w₂ us ms w₃) :
    Traced c w₁ (ts ++ us) (ns ++ ms) w₃ where
  rises b hb := by
    obtain ⟨hb₂, hle₁⟩ := h₁.rises b hb
    obtain ⟨hb₃, hle₂⟩ := h₂.rises b hb₂
    exact ⟨hb₃, Nat.le_trans hle₁ hle₂⟩
  drawn b d hmem := by
    rcases List.mem_append.1 hmem with hmem | hmem
    · obtain ⟨hb₂, hlt, hge⟩ := h₁.drawn b d hmem
      obtain ⟨hb₃, hle⟩ := h₂.rises b hb₂
      exact ⟨hb₃, by omega, hge⟩
    · obtain ⟨hb₃, hlt, hge⟩ := h₂.drawn b d hmem
      refine ⟨hb₃, hlt, fun hb => ?_⟩
      obtain ⟨hb₂, hle⟩ := h₁.rises b hb
      exact Nat.le_trans hle (hge hb₂)
  came d hd := by
    rcases h₂.came d hd with hd | hadded | ⟨b, hplugged⟩
    · rcases h₁.came d hd with hd | hadded | ⟨b, hplugged⟩
      · exact Or.inl hd
      · exact Or.inr (Or.inl (List.mem_append_left _ hadded))
      · exact Or.inr (Or.inr ⟨b, List.mem_append_left _ hplugged⟩)
    · exact Or.inr (Or.inl (List.mem_append_right _ hadded))
    · exact Or.inr (Or.inr ⟨b, List.mem_append_right _ hplugged⟩)
  gone d hd := by
    rcases h₁.gone d hd with hd | haccounted
    · refine (h₂.gone d hd).imp_right fun h => ?_
      exact h.mono (List.subset_append_right _ _) (List.subset_append_right _ _)
    · exact Or.inr (haccounted.mono (List.subset_append_left _ _) (List.subset_append_left _ _))

/-- Where the buses stay what they are and none plugs a device in, it comes down to the
roster. -/
theorem of_buses (hbuses : w'.buses = w.buses) (hts : ∀ b d, .plugged b d ∉ ts)
    (hcame : ∀ d ∈ (w'.roster c).toList, d ∈ (w.roster c).toList ∨ .added d ∈ ts)
    (hgone : ∀ d ∈ (w.roster c).toList, d ∈ (w'.roster c).toList ∨ Accounted c d.id ts ns) :
    Traced c w ts ns w' where
  rises b hb := by
    rw [World.contextOf, World.bus, hbuses]
    exact ⟨hb, Nat.le_refl _⟩
  drawn b d hmem := absurd hmem (hts b d)
  came d hd := (hcame d hd).imp_right Or.inl
  gone := hgone

theorem stationary (h : Stationary c w ns w') : Traced c w [] ns w' where
  rises b hb := by
    rw [h.contexts, h.buses b hb]
    exact ⟨hb, Nat.le_refl _⟩
  drawn b d hmem := by cases hmem
  came d hd := Or.inl (h.roster ▸ hd)
  gone d hd := Or.inl (h.roster.symm ▸ hd)

/-- Whoever is on a roster that was empty came. -/
theorem came_of_empty (h : Traced c w₁ ts ns w) (hstart : (w₁.roster c).toList = [])
    (hd : d ∈ (w.roster c).toList) : .added d ∈ ts ∨ ∃ b, .plugged b d ∈ ts := by
  refine (h.came d hd).resolve_left fun hin => ?_
  rw [hstart] at hin
  cases hin

/-- The number that a bus gives next is of none that came by this bus. -/
theorem ne_of_plugged (h : Traced c w₁ ts ns w) (hplugged : .plugged b d ∈ ts) :
    d.id ≠ ⟨(w.bus b).nextDevice⟩ := by
  intro hid
  obtain ⟨-, hlt, -⟩ := h.drawn b d hplugged
  rw [hid] at hlt
  exact Nat.lt_irrefl _ hlt

/-- A bus gives a number once: a device that it plugs in later has another one. -/
theorem ne_of_plugged_later {d' : Device} (h : Traced c w₁ ts ns w) (hlater : Traced c w us ms w')
    (hplugged : .plugged b d ∈ ts) (hplugged' : .plugged b d' ∈ us) : d'.id ≠ d.id := by
  intro hid
  obtain ⟨hb, hlt, -⟩ := h.drawn b d hplugged
  obtain ⟨-, -, hge⟩ := hlater.drawn b d' hplugged'
  have hle := hge hb
  rw [hid] at hle
  omega

/-- What leaves the devices alone adds its notices. -/
theorem still {v : World κ τ} (h : Traced c w ts ns v) (hstill : Stationary c v ms w') :
    Traced c w ts (ns ++ ms) w' := by
  have htraced := h.trans (.stationary hstill)
  rwa [List.append_nil] at htraced

/-- A new bus has nothing to do with those of the context. -/
theorem addBus (c' : ContextId) (hfree : w.contextOf ⟨w.nextBus⟩ ≠ c) :
    Traced c w [] [] (w.addBus c').1 where
  rises b hb := by
    have hne : b.val ≠ w.nextBus := by
      intro heq
      obtain rfl : b = ⟨w.nextBus⟩ := by rw [← heq]
      exact hfree hb
    have hbus : (w.addBus c').1.bus b = w.bus b := Store.get_set_of_ne _ hne _
    rw [World.contextOf, hbus]
    exact ⟨hb, Nat.le_refl _⟩
  drawn b d hmem := by cases hmem
  came d hd := Or.inl hd
  gone d hd := Or.inl hd

/-- A device comes on the roster, by itself or over another. -/
theorem add (d : Device) :
    Traced c w [.added d] ((Act.attach c d).run w).notices ((Act.attach c d).run w).world := by
  have hroster : ((Act.attach c d).run w).world.roster c = (w.roster c).attach d := by
    rw [Act.run_attach, World.roster_setRoster, if_pos rfl]
  refine .of_buses rfl (by simp) (fun x hx => ?_) fun x hx => ?_
  · rw [hroster, Roster.mem_attach] at hx
    rcases hx with ⟨hx, -⟩ | rfl
    · exact Or.inl hx
    · exact Or.inr (List.mem_singleton_self _)
  · rw [hroster, Roster.mem_attach]
    by_cases hid : x.id = d.id
    · exact Or.inr (Or.inr (Or.inr ⟨d, hid.symm, Or.inl (List.mem_singleton_self _)⟩))
    · exact Or.inl (Or.inl ⟨hx, hid⟩)

/-- Nobody goes. -/
theorem none (hts : ∀ b d, .plugged b d ∉ ts) : Traced c w ts ns w :=
  .of_buses rfl hts (fun _ hx => Or.inl hx) fun _ hx => Or.inl hx

/-- A device goes, and is accounted for. -/
theorem off {rest : Roster} (hdetach : (w.roster c).detach? i = some (d, rest))
    (hts : ∀ b d, .plugged b d ∉ ts) (haccounted : Accounted c i ts ns) :
    Traced c w ts ns (w.setRoster c rest) := by
  have hroster : (w.setRoster c rest).roster c = rest := World.roster_setRoster.trans (if_pos rfl)
  refine .of_buses rfl hts (fun x hx => Or.inl ?_) fun x hx => ?_
  · rw [hroster] at hx
    exact Roster.mem_of_detach? hdetach hx
  · rw [hroster]
    by_cases hid : x.id = i
    · exact Or.inr (hid ▸ haccounted)
    · exact Or.inl (Roster.mem_detach?_of_ne hdetach hx hid)

theorem remove (i : DeviceId) :
    Traced c w [.removed i] ((Act.detach c i).run w).notices ((Act.detach c i).run w).world := by
  rw [Act.run_detach]
  split
  · exact .none (by simp)
  next d rest hdetach =>
    exact .off hdetach (by simp) (Or.inr (Or.inl (List.mem_singleton_self _)))

section Callbacks

variable (hr : ∀ inv, (host.react inv).Obeys (Stationary c))
include hr

/-- A device goes, and a pass is made over its departure. -/
theorem depart {rest : Roster} {e : Device} (hdetach : (w.roster c).detach? i = some (d, rest))
    (he : e.id = i) (hns : ((Act.notify host c e .left).run (w.setRoster c rest)).notices ⊆ ns) :
    Traced c w [.left i] ns ((Act.notify host c e .left).run (w.setRoster c rest)).world := by
  have hpass : (Act.notify host c e .left).Obeys (Stationary c) := Act.stationary_notify hr
  obtain ⟨hroster, hcontexts, hbuses⟩ := hpass (w.setRoster c rest)
  have hbegan := hns (Act.passBegan_mem_notify host c e .left (w.setRoster c rest))
  have hoff : Traced c w [.left i] ns (w.setRoster c rest) :=
    .off hdetach (by simp) (Or.inl ⟨e, he, hbegan⟩)
  have hstill : Stationary c (w.setRoster c rest) [] _ := ⟨hroster, hcontexts, hbuses⟩
  have htraced := hoff.still hstill
  rwa [List.append_nil] at htraced

theorem unplug (i : DeviceId) (hb : w.contextOf b = c) :
    Traced c w [.left i] ((Act.unplug host b i).run w).notices
      ((Act.unplug host b i).run w).world := by
  rw [Act.run_unplug, hb]
  split
  · exact .none (by simp)
  next d rest hdetach =>
    obtain ⟨hid, -⟩ := Roster.detach?_eq_some hdetach
    exact depart hr hdetach hid fun n hn => List.mem_cons_of_mem _ (List.mem_cons_of_mem _ hn)

theorem transferFailed (h : OpenHandle) (hb : w.contextOf b = c) :
    Traced c w [.left h.device.id] ((Act.transferFailed host b h).run w).notices
      ((Act.transferFailed host b h).run w).world := by
  rw [Act.run_transferFailed, hb]
  split
  · exact .none (by simp)
  next d rest hdetach =>
    exact depart hr hdetach rfl fun n hn => List.mem_cons_of_mem _ hn

/-- A device comes under the next number of its bus, by itself or over another. -/
theorem plug (s : DeviceSpec) (hb : w.contextOf b = c) :
    Traced c w [.plugged b (Bus.device (w.bus b).nextDevice s)]
      ((Act.plug host b s).run w).notices ((Act.plug host b s).run w).world := by
  have hstill : Stationary c (w.withNew b s) [] ((Act.plug host b s).run w).world :=
    Act.stationary_plug hr hb
  have hroster := World.roster_withNew (s := s) hb
  have hnew : Traced c w [.plugged b (Bus.device (w.bus b).nextDevice s)]
      ((Act.plug host b s).run w).notices (w.withNew b s) := by
    refine ⟨fun b' hb' => ?rises, fun b' x hmem => ?drawn, fun x hx => ?came, fun x hx => ?gone⟩
    case rises =>
      rw [World.contextOf_withNew]
      refine ⟨hb', ?_⟩
      by_cases heq : b' = b
      · rw [heq, World.bus_withNew]
        exact Nat.le_succ _
      · have hsame : ((w.withNew b s).bus b').nextDevice = (w.bus b').nextDevice :=
          congrArg Bus.nextDevice (World.bus_withNew_of_ne heq)
        exact Nat.le_of_eq hsame.symm
    case drawn =>
      obtain ⟨rfl, rfl⟩ := Traffic.plugged.inj (List.mem_singleton.1 hmem)
      rw [World.contextOf_withNew, World.bus_withNew]
      exact ⟨hb, Nat.lt_succ_self _, fun _ => Nat.le_refl _⟩
    case came =>
      rw [hroster, Roster.mem_attach] at hx
      rcases hx with ⟨hx, -⟩ | rfl
      · exact Or.inl hx
      · exact Or.inr (Or.inr ⟨b, List.mem_singleton_self _⟩)
    case gone =>
      rw [hroster, Roster.mem_attach]
      by_cases hid : x.id = (Bus.device (w.bus b).nextDevice s).id
      · exact Or.inr (Or.inr (Or.inr ⟨_, hid.symm, Or.inr ⟨b, List.mem_singleton_self _⟩⟩))
      · exact Or.inl (Or.inl ⟨hx, hid⟩)
  have htraced := hnew.still hstill
  rwa [List.append_nil] at htraced

end Callbacks

end Traced

/-- **Traffic is traced**, whatever its order. -/
theorem Along.traced (hr : ∀ inv, (host.react inv).Obeys (Stationary c))
    (h : Along host c w ts ns w') : Traced c w ts ns w' := by
  induction h with
  | start => exact .none (by simp)
  | add d _ ih => exact ih.trans (.add d)
  | remove i _ ih => exact ih.trans (.remove i)
  | plug b s _ hb ih => exact ih.trans (.plug hr s hb)
  | unplug b i _ hb ih => exact ih.trans (.unplug hr i hb)
  | transferFailed b h _ hb ih => exact ih.trans (.transferFailed hr h hb)
  | bus c' _ hfree ih =>
    have htraced := ih.trans (.addBus c' hfree)
    rw [List.append_nil, List.append_nil] at htraced
    exact htraced
  | meanwhile _ hbetween ih => exact ih.still hbetween

/-! ## One more device -/

/-- **What plugging a device in comes to**, after traffic on the context of the bus. -/
structure Plugs (host : Host κ τ) (b : BusId) (c : ContextId) (s : DeviceSpec)
    (ts : List Traffic) (w : World κ τ) : Prop where
  /-- Unless a callback panics, it answers the new device, made under the next number. -/
  answer : (∀ inv, (host.react inv).Returns) → ∃ tally,
    ((Act.plug host b s).run w).result = some (Bus.device (w.bus b).nextDevice s, tally)
  /-- The new device is last. Of the others, one that has its number goes. -/
  roster : (((Act.plug host b s).run w).world.roster c).toList =
    (w.roster c).toList.filter (·.id != ⟨(w.bus b).nextDevice⟩) ++
      [Bus.device (w.bus b).nextDevice s]
  /-- All devices stay, and the new one is another besides them, if and only if none has the
  number that the bus gives. -/
  stay_iff : (∀ d ∈ (w.roster c).toList, d.id ≠ ⟨(w.bus b).nextDevice⟩ ∧
      d ∈ (((Act.plug host b s).run w).world.roster c).toList) ↔
    (⟨(w.bus b).nextDevice⟩ : DeviceId) ∉ (w.roster c).ids
  /-- A device that has the number did not come by this bus. -/
  foreign (d : Device) : d ∈ (w.roster c).toList → d.id = ⟨(w.bus b).nextDevice⟩ →
    .added d ∈ ts ∨ ∃ b', b' ≠ b ∧ .plugged b' d ∈ ts
  /-- A device that leaves later is accounted for. -/
  leaves {ts' : List Traffic} {ns' : List Notice} {w' : World κ τ} :
    Along host c w ts' ns' w' → ∀ d ∈ (w.roster c).toList, d ∉ (w'.roster c).toList →
      Accounted c d.id ts' ns'
  /-- If all devices come by one bus, no device that is not taken off by hand leaves without
  a pass over its departure. -/
  leaves_sole {ts' : List Traffic} {ns' : List Notice} {w' : World κ τ} :
    Along host c w ts' ns' w' → (∀ d, .added d ∉ ts ++ ts') →
      (∀ b' d, .plugged b' d ∈ ts ++ ts' → b' = b) →
      ∀ d ∈ (w.roster c).toList, d ∉ (w'.roster c).toList → .removed d.id ∉ ts' →
        ∃ e, e.id = d.id ∧ .passBegan c e .left ∈ ns'

/-- **A device plugged in displaces the one that has its number, and no other**; the other
is one that did not come by the same bus. -/
theorem Along.plug_displaces (hr : ∀ inv, (host.react inv).Obeys (Stationary c))
    (hstart : (w₁.roster c).toList = []) (h : Along host c w₁ ts ns w) (hb : w.contextOf b = c)
    (s : DeviceSpec) : Plugs host b c s ts w := by
  have htraced := h.traced hr
  have hcame : ∀ d ∈ (w.roster c).toList, .added d ∈ ts ∨ ∃ b, .plugged b d ∈ ts :=
    fun d hd => htraced.came_of_empty hstart hd
  have hstill : Stationary c (w.withNew b s) [] ((Act.plug host b s).run w).world :=
    Act.stationary_plug hr hb
  have hroster : ((Act.plug host b s).run w).world.roster c =
      (w.roster c).attach (Bus.device (w.bus b).nextDevice s) :=
    hstill.roster.trans (World.roster_withNew hb)
  refine ⟨fun hret => ?answer, congrArg Roster.toList hroster,
    ⟨fun hstay => ?taken, fun hfree d hd => ?free⟩, fun d hd hid => ?foreign,
    fun hlater d hd hgone => ?leaves, fun hlater hadded hsole d hd hgone hkept => ?sole⟩
  case answer =>
    obtain ⟨tally, hpass⟩ : ∃ tally, ((Act.notify host (w.contextOf b)
        (Bus.device (w.bus b).nextDevice s) .arrived).run (w.withNew b s)).result = some tally :=
      Act.parts_returns.calm hret (.notify _ _ _) _
    rw [Act.run_plug]
    exact ⟨tally, Option.map_eq_some_iff.2 ⟨tally, hpass, rfl⟩⟩
  case taken =>
    intro hmem
    obtain ⟨d, hd, hid⟩ := List.mem_map.1 hmem
    exact (hstay d hd).1 hid
  case free =>
    have hid : d.id ≠ ⟨(w.bus b).nextDevice⟩ := fun heq => hfree (heq ▸ List.mem_map_of_mem hd)
    refine ⟨hid, ?_⟩
    rw [hroster, Roster.mem_attach]
    exact Or.inl ⟨hd, hid⟩
  case foreign =>
    refine (hcame d hd).imp_right fun ⟨b', hplugged⟩ => ⟨b', ?_, hplugged⟩
    rintro rfl
    exact htraced.ne_of_plugged hplugged hid
  case leaves => exact ((hlater.traced hr).gone d hd).resolve_left hgone
  case sole =>
    rcases ((hlater.traced hr).gone d hd).resolve_left hgone with hpass | hremoved |
      ⟨e, hid, hcame'⟩
    · exact hpass
    · exact absurd hremoved hkept
    · -- The number of a device that came later was not given when this one came.
      rcases hcame' with hadded' | ⟨b', hplugged'⟩
      · exact absurd (List.mem_append_right _ hadded') (hadded e)
      obtain rfl := hsole b' e (List.mem_append_right _ hplugged')
      rcases hcame d hd with hadded' | ⟨b, hplugged⟩
      · exact absurd (List.mem_append_left _ hadded') (hadded d)
      obtain rfl := hsole b d (List.mem_append_left _ hplugged)
      exact absurd hid (htraced.ne_of_plugged_later (hlater.traced hr) hplugged hplugged')

/-- Two buses give the same numbers: the second one plugs in its first device besides the
second one of the first bus, and displaces that with its next. -/
theorem plug_displaces_of_two_buses :
    ∃ ts ns w, Along Host.idle ⟨1⟩ Act.oneBus ts ns w ∧
      Plugs Host.idle ⟨2⟩ ⟨1⟩ { vendor := 7, product := 7 } ts w ∧
      (w.roster ⟨1⟩).toList = [⟨⟨2⟩, 1, 3, ⟨1, 1, 0⟩⟩, ⟨⟨1⟩, 1, 2, ⟨5, 5, 0⟩⟩] ∧
      (((Act.plug Host.idle ⟨2⟩ { vendor := 7, product := 7 }).run w).world.roster ⟨1⟩).toList =
        [⟨⟨1⟩, 1, 2, ⟨5, 5, 0⟩⟩, ⟨⟨2⟩, 1, 3, ⟨7, 7, 0⟩⟩] := by
  have hidle : ∀ inv, (Host.idle.react inv : Act Unit Unit Wish).Obeys (Stationary ⟨1⟩) :=
    fun _ => Act.obeys_pure _
  have hstart : Along Host.idle ⟨1⟩ Act.oneBus [] [] Act.oneBus := .start
  have hone : Along Host.idle ⟨1⟩ Act.oneBus _ _ _ :=
    hstart.plug ⟨1⟩ { vendor := 1, product := 1 } rfl
  have htwo : Along Host.idle ⟨1⟩ Act.oneBus _ _ _ :=
    hone.plug ⟨1⟩ { vendor := 1, product := 1 } rfl
  have hleft : Along Host.idle ⟨1⟩ Act.oneBus _ _ _ := htwo.unplug ⟨1⟩ ⟨1⟩ rfl
  have hbuses : Along Host.idle ⟨1⟩ Act.oneBus _ _ _ := hleft.bus ⟨1⟩ (by decide)
  have hother : Along Host.idle ⟨1⟩ Act.oneBus _ _ _ :=
    hbuses.plug ⟨2⟩ { vendor := 5, product := 5 } rfl
  exact ⟨_, _, _, hother, hother.plug_displaces hidle rfl rfl _, rfl, rfl⟩

/-- A device that was added without a bus, under a number that the bus has yet to give, is
off the roster when the bus gives it, and there is no pass over a departure. -/
theorem not_stays_of_added :
    ∃ ts ns w, Along Host.idle ⟨1⟩ Act.oneBus ts ns w ∧ w.contextOf ⟨1⟩ = ⟨1⟩ ∧
      ∃ d ∈ (w.roster ⟨1⟩).toList,
        d ∉ (((Act.plug Host.idle ⟨1⟩ { vendor := 1, product := 1 }).run w).world.roster
          ⟨1⟩).toList ∧
        ∀ e, .passBegan ⟨1⟩ e .left ∉
          ((Act.plug Host.idle ⟨1⟩ { vendor := 1, product := 1 }).run w).notices := by
  have hadded : Along Host.idle ⟨1⟩ Act.oneBus _ _ _ := Along.start.add ⟨⟨1⟩, 1, 5, ⟨7, 7, 0⟩⟩
  refine ⟨_, _, _, hadded, rfl, ⟨⟨1⟩, 1, 5, ⟨7, 7, 0⟩⟩, List.mem_singleton_self _, ?_,
    fun e he => ?_⟩
  · have hroster : (((Act.plug Host.idle ⟨1⟩ { vendor := 1, product := 1 }).run
        ((Act.attach ⟨1⟩ ⟨⟨1⟩, 1, 5, ⟨7, 7, 0⟩⟩).run Act.oneBus).world).world.roster ⟨1⟩).toList =
        [⟨⟨1⟩, 1, 2, ⟨1, 1, 0⟩⟩] := rfl
    rw [hroster]
    decide
  · have hnotices : ((Act.plug Host.idle ⟨1⟩ { vendor := 1, product := 1 }).run
        ((Act.attach ⟨1⟩ ⟨⟨1⟩, 1, 5, ⟨7, 7, 0⟩⟩).run Act.oneBus).world).notices =
        [.attached ⟨1⟩ ⟨⟨1⟩, 1, 2, ⟨1, 1, 0⟩⟩, .plugged ⟨⟨1⟩, 1, 2, ⟨1, 1, 0⟩⟩ "",
          .passBegan ⟨1⟩ ⟨⟨1⟩, 1, 2, ⟨1, 1, 0⟩⟩ .arrived,
          .passEnded ⟨1⟩ ⟨⟨1⟩, 1, 2, ⟨1, 1, 0⟩⟩ .arrived {}] := rfl
    rw [hnotices] at he
    simp at he

end DeviceWatch
