import Mathlib.Data.List.Perm.Subperm
import Mathlib.Data.Nat.ModEq
import DeviceWatch.Proofs.Recounting
/-!
# Addresses

A bus numbers its devices without end and has 127 addresses for them: the address of a
device is its number, folded. So two devices that are attached at the same time share an
address exactly if they were plugged in a multiple of 127 plugs apart, however many others
have left in between, and an address that is free is not looked for. While all attached
devices are among the last 127 that were plugged in, their addresses tell them apart.
-/

namespace DeviceWatch

variable {κ τ α β : Type}

namespace Bus

/-- An address is kept whole in a byte. -/
theorem toNat_address (n : Nat) : (address n).toNat = n % 127 + 1 := by
  rw [address, UInt8.toNat_ofNat']
  omega

theorem address_eq_iff {n m : Nat} : address n = address m ↔ n ≡ m [MOD 127] := by
  rw [← UInt8.toNat_inj, toNat_address, toNat_address, Nat.add_right_cancel_iff]
  rfl

end Bus

/-- **How devices of a bus are addressed** that are attached when the bus gives this number
next. -/
structure Addressed (ds : List Device) (next : Nat) : Prop where
  bus : ∀ d ∈ ds, d.bus = 1
  /-- Nothing of the number is lost but the multiple of 127. -/
  address : ∀ d ∈ ds, d.address.toNat = d.id.val % 127 + 1
  range : ∀ d ∈ ds, 1 ≤ d.address.toNat ∧ d.address.toNat ≤ 127
  /-- Two devices share their place on the bus if and only if their numbers are congruent. -/
  shared : ∀ d ∈ ds, ∀ d' ∈ ds,
    (d.bus, d.address) = (d'.bus, d'.address) ↔ d.id.val ≡ d'.id.val [MOD 127]
  /-- So no two do if and only if no two numbers are. -/
  apart : (ds.map fun d => (d.bus, d.address)).Nodup ↔
    ds.Pairwise fun d d' => ¬ d.id.val ≡ d'.id.val [MOD 127]
  /-- None do among the last 127 devices. -/
  recent : (∀ d ∈ ds, next ≤ d.id.val + 127) → (ds.map fun d => (d.bus, d.address)).Nodup
  /-- Some do among more than 127. -/
  crowded : 127 < ds.length → ¬ (ds.map fun d => (d.bus, d.address)).Nodup
  /-- The next device shares the place of one that is there if and only if their numbers are
  congruent. -/
  comes : ∀ s, ∀ d ∈ ds,
    (Bus.device next s).address = d.address ↔ next ≡ d.id.val [MOD 127]

/-- Devices are addressed so if the bus made them, under numbers of their own. -/
theorem Addressed.of_made {ds : List Device} {next : Nat}
    (hmade : ∀ d ∈ ds, ∃ n s, d = Bus.device n s) (hids : (ds.map Device.id).Nodup)
    (hlt : ∀ d ∈ ds, d.id.val < next) : Addressed ds next := by
  have hbus : ∀ d ∈ ds, d.bus = 1 := by
    intro d hd
    obtain ⟨n, s, rfl⟩ := hmade d hd
    rfl
  have haddress : ∀ d ∈ ds, d.address = Bus.address d.id.val := by
    intro d hd
    obtain ⟨n, s, rfl⟩ := hmade d hd
    rfl
  have hshared : ∀ d ∈ ds, ∀ d' ∈ ds,
      (d.bus, d.address) = (d'.bus, d'.address) ↔ d.id.val ≡ d'.id.val [MOD 127] := by
    intro d hd d' hd'
    rw [hbus d hd, hbus d' hd', haddress d hd, haddress d' hd', Prod.mk.injEq,
      and_iff_right rfl, Bus.address_eq_iff]
  have hapart : (ds.map fun d => (d.bus, d.address)).Nodup ↔
      ds.Pairwise fun d d' => ¬ d.id.val ≡ d'.id.val [MOD 127] := by
    rw [List.Nodup, List.pairwise_map]
    exact List.Pairwise.iff_of_mem fun hd hd' => not_congr (hshared _ hd _ hd')
  refine ⟨hbus, ?address, ?range, hshared, hapart, ?recent, ?crowded, ?comes⟩
  case address =>
    intro d hd
    rw [haddress d hd, Bus.toNat_address]
  case range =>
    intro d hd
    rw [haddress d hd, Bus.toNat_address]
    omega
  case recent =>
    intro hrecent
    refine hapart.2 ((List.pairwise_map.1 hids).imp_of_mem fun {d d'} hd hd' hne hmod => hne ?_)
    have hd₁ := hrecent d hd
    have hd₂ := hlt d hd
    have hd₁' := hrecent d' hd'
    have hd₂' := hlt d' hd'
    have hval : d.id.val = d'.id.val := by
      rw [Nat.ModEq] at hmod
      omega
    exact congrArg DeviceId.mk hval
  case crowded =>
    intro hlong hnodup
    -- There are only so many remainders.
    have hrest : (ds.map fun d => d.id.val % 127).Nodup := List.pairwise_map.2 (hapart.1 hnodup)
    have hsub : (ds.map fun d => d.id.val % 127) ⊆ List.range 127 := by
      intro r hr
      obtain ⟨d, -, rfl⟩ := List.mem_map.1 hr
      exact List.mem_range.2 (Nat.mod_lt _ (by decide))
    have hle := (hrest.subperm hsub).length_le
    rw [List.length_map, List.length_range] at hle
    omega
  case comes =>
    intro s d hd
    rw [haddress d hd, Bus.device, Bus.address_eq_iff]

/-! ## Devices made by buses -/

/-- Whoever comes to a context was made by a bus. -/
def Made (c : ContextId) : Law κ τ :=
  fun w _ w' => ∀ d ∈ (w'.roster c).toList, d ∈ (w.roster c).toList ∨ ∃ n s, d = Bus.device n s

theorem Made.of_roster {c : ContextId} {w w' : World κ τ} {ns : List Notice}
    (h : w'.roster c = w.roster c) : Made c w ns w' := by
  intro d hd
  rw [h] at hd
  exact Or.inl hd

instance {c : ContextId} : Law.OfBuses (Made (κ := κ) (τ := τ) c) where
  refl _ _ hd := Or.inl hd
  trans h₁ h₂ d hd := (h₂ d hd).elim (h₁ d) Or.inr
  still h := .of_roster (h.roster c)

namespace Act

variable {host : Host κ τ} {b : BusId} {c c' : ContextId} {d : Device} {e : Event}
variable {i : DeviceId} {h : OpenHandle} {s : DeviceSpec} {x : Act κ τ α} {w : World κ τ}

theorem made_detach : (detach c' i : Act κ τ _).Obeys (Made c) := by
  refine obeys_detach fun w _ rest hdetach d hd => Or.inl ?_
  rw [World.roster_setRoster] at hd
  split at hd
  next hc => exact hc ▸ Roster.mem_of_detach? hdetach hd
  next => exact hd

theorem made_openHandle : (openHandle c' d : Act κ τ OpenHandle).Obeys (Made c) :=
  fun _ => .of_roster World.roster_setOpens

theorem made_closeHandle : (closeHandle c' h : Act κ τ Bool).Obeys (Made c) :=
  obeys_closeHandle fun _ _ _ => .of_roster World.roster_setOpens

theorem made_disconnect : (disconnect c' h : Act κ τ Bool).Obeys (Made c) :=
  obeys_disconnect fun _ _ => .of_roster World.roster_setPlatform

section Callbacks

variable (hr : ∀ inv, (host.react inv).Obeys (Made c))
include hr

theorem made_notify : (notify host c' d e).Obeys (Made c) :=
  still_notify hr (closed_obeys.disconnectOn fun _ => made_disconnect)

/-- A bus attaches what it made. -/
theorem made_plug : (plug host b s).Obeys (Made c) := by
  intro w d hd
  rw [run_plug] at hd
  have hpass : (notify host (w.contextOf b) (Bus.device (w.bus b).nextDevice s) .arrived).Obeys
    (Made c) := made_notify hr
  obtain hd | hd := hpass _ d hd
  · rw [World.withNew, World.roster_setRoster] at hd
    split at hd
    next hc =>
      obtain ⟨hd, -⟩ | rfl := Roster.mem_attach.1 hd
      · exact Or.inl (hc ▸ hd)
      · exact Or.inr ⟨_, s, rfl⟩
    next => exact Or.inl hd
  · exact Or.inr hd

end Callbacks

/-- **All that comes in a run on a bus is made by the bus.** -/
theorem Within.made (hx : x.Within (Repertoire.Cut (Repertoire.OnBus b))) : x.Obeys (Made c) := by
  refine hx.obeys (fun w f => still_remember f w) fun {γ host y} _ hr hop => ?_
  cases hop with
  | panic => exact obeys_panic
  | op hop =>
    cases hop with
    | plug => exact made_plug hr
    | unplug =>
      exact closed_obeys.unplug (fun _ => made_detach) (fun _ => still_note rfl)
        fun _ _ => made_notify hr
    | openDevice => exact closed_obeys.openDevice fun _ _ => made_openHandle
    | closeDevice => exact closed_obeys.closeDevice fun _ => made_closeHandle
    | transferFailed =>
      exact closed_obeys.transferFailed (fun _ => made_detach) fun _ => made_notify hr
    | register => exact still_register hr
    | deregister => exact still_deregister
    | teardown => exact still_teardown

/-! ## Runs -/

/-- **The addresses of attached devices are their numbers, folded**, after every run on a
fresh bus and wherever it is cut short. -/
theorem Within.addressed (hx : x.Within (Repertoire.Cut (Repertoire.OnBus b)))
    (hw : w.FreshBus b) (hc : w.contextOf b = c) :
    Addressed ((x.run w).world.roster c).toList ((x.run w).world.bus b).nextDevice := by
  have hpast := hx.past hw hc
  refine .of_made (fun d hd => ?made) ?ids fun d hd => ?lt
  case made =>
    subst hc
    obtain hd | hmade := hx.made w d hd
    · rw [hw.devices] at hd
      cases hd
    · exact hmade
  case ids =>
    rw [hpast.roster]
    exact nodup_rosterAfter
  case lt =>
    rw [hpast.roster] at hd
    have hcount := List.count_pos_iff.2 (mem_changes_of_mem_ids (List.mem_map_of_mem hd))
    rw [hpast.arrived] at hcount
    split at hcount
    next hin => exact hin.2
    next => exact absurd hcount (Nat.lt_irrefl 0)

/-! ## A bus that is refilled -/

/-- A device like any other. -/
def plain : DeviceSpec := { vendor := 1, product := 1 }

/-- Plugs in devices, one after the other. -/
def plugMany (b : BusId) : Nat → Act Unit Unit Unit
  | 0 => pure ()
  | n + 1 => do
    plugMany b n
    let _ ← plug .idle b plain

/-- Plugs in 127 devices, and takes the second one off again. -/
def fillUp (b : BusId) : Act Unit Unit Unit := do
  plugMany b 127
  let _ ← unplug .idle b ⟨2⟩

/-- Plugs in another device in its place. -/
def refill (b : BusId) : Act Unit Unit Unit := do
  fillUp b
  let _ ← plug .idle b plain

theorem plugMany_within {n : Nat} : (plugMany b n).Within (Repertoire.OnBus b) := by
  induction n with
  | zero => exact .pure _
  | succ n ih =>
    exact .bind ih fun _ => .bind (.op .idle Host.idle_within (.plug plain)) fun _ => .pure _

theorem fillUp_within : (fillUp b).Within (Repertoire.OnBus b) :=
  .bind plugMany_within fun _ =>
    .bind (.op .idle Host.idle_within (.unplug ⟨2⟩)) fun _ => .pure _

/-- What comes after an act that returns goes on in the world that it leaves. -/
theorem world_andThen {y : Act κ τ α} {z : Act κ τ β} (hy : y.Returns) :
    ((y >>= fun _ => z >>= fun _ => pure ()).run w).world = (z.run (y.run w).world).world := by
  obtain ⟨a, ha⟩ := hy w
  rw [run_bind_of_result ha, run_bind_pure]

/-- The devices of a bus that they are plugged in to, with the numbers that follow. -/
theorem plugMany_attaches {w : World Unit Unit} {n : Nat} (hw : (w.devices b).toList = []) :
    (((plugMany b n).run w).world.bus b).nextDevice = (w.bus b).nextDevice + n ∧
      (((plugMany b n).run w).world.devices b).toList =
        (List.range n).map fun k => Bus.device ((w.bus b).nextDevice + k) plain := by
  induction n with
  | zero => exact ⟨rfl, hw⟩
  | succ n ih =>
    obtain ⟨hnext, hdevices⟩ := ih
    have hworld : ((plugMany b (n + 1)).run w).world =
        ((plug .idle b plain).run ((plugMany b n).run w).world).world :=
      world_andThen plugMany_within.returns_onBus
    obtain ⟨hbus, hattach, -⟩ := plug_attaches (s := plain) (w := ((plugMany b n).run w).world)
      (Host.idle_obeys (L := SameDevices b))
    rw [hworld, hbus, hattach, hnext]
    refine ⟨rfl, ?_⟩
    rw [Roster.attach_of_not_mem, hdevices, List.range_succ, List.map_append]
    · rfl
    · -- The numbers before are lower.
      intro hmem
      obtain ⟨d, hd, hid⟩ := List.mem_map.1 hmem
      rw [hdevices] at hd
      obtain ⟨k, hk, rfl⟩ := List.mem_map.1 hd
      have hlt := List.mem_range.1 hk
      have hval : (w.bus b).nextDevice + k = (w.bus b).nextDevice + n := congrArg DeviceId.val hid
      omega

/-- All but the second of the first 127 devices are there. -/
theorem fillUp_attaches :
    (((fillUp ⟨1⟩).run oneBus).world.bus ⟨1⟩).nextDevice = 128 ∧
      ((List.range 127).map fun k => Bus.device (1 + k) plain).Perm
        (Bus.device 2 plain :: (((fillUp ⟨1⟩).run oneBus).world.devices ⟨1⟩).toList) := by
  obtain ⟨hnext, hdevices⟩ := plugMany_attaches (b := ⟨1⟩) (w := oneBus) (n := 127) rfl
  have hworld : ((fillUp ⟨1⟩).run oneBus).world =
      ((unplug .idle ⟨1⟩ ⟨2⟩).run ((plugMany ⟨1⟩ 127).run oneBus).world).world :=
    world_andThen plugMany_within.returns_onBus
  generalize ((plugMany ⟨1⟩ 127).run oneBus).world = w at hnext hdevices hworld
  have hfirst : (oneBus.bus ⟨1⟩).nextDevice = 1 := rfl
  rw [hfirst] at hnext hdevices
  rcases hdetach : (w.devices ⟨1⟩).detach? ⟨2⟩ with _ | ⟨d, rest⟩
  · refine absurd ?_ (Roster.detach?_eq_none_iff.1 hdetach)
    rw [Roster.ids, hdevices]
    exact List.mem_map_of_mem (List.mem_map.2 ⟨1, List.mem_range.2 (by decide), rfl⟩)
  obtain ⟨hbus, hrest, -⟩ := unplug_detaches (Host.idle_obeys (L := SameDevices ⟨1⟩)) hdetach
  obtain ⟨hid, hperm⟩ := Roster.detach?_eq_some hdetach
  rw [hdevices] at hperm
  obtain ⟨k, -, rfl⟩ := List.mem_map.1 (hperm.mem_iff.2 List.mem_cons_self)
  obtain rfl : k = 1 := by
    have hval : 1 + k = 2 := congrArg DeviceId.val hid
    omega
  rw [hworld, hbus, hrest]
  exact ⟨hnext, hperm⟩

/-- The first device is there. -/
theorem first_mem_fillUp :
    Bus.device 1 plain ∈ (((fillUp ⟨1⟩).run oneBus).world.devices ⟨1⟩).toList := by
  have hmem := fillUp_attaches.2.mem_iff.1
    (List.mem_map.2 ⟨0, List.mem_range.2 (by decide), rfl⟩)
  exact (List.mem_cons.1 hmem).resolve_left (by decide)

/-- The addresses on a bus that was filled up are apart, and yet the next device is to
share one of them. -/
theorem addressed_of_fillUp :
    Addressed (((fillUp ⟨1⟩).run oneBus).world.roster ⟨1⟩).toList 128 ∧
      ((((fillUp ⟨1⟩).run oneBus).world.roster ⟨1⟩).toList.map
        fun d => (d.bus, d.address)).Nodup ∧
      (Bus.device 128 plain).address = (Bus.device 1 plain).address := by
  have hx : (fillUp ⟨1⟩).Within (Repertoire.Cut (Repertoire.OnBus ⟨1⟩)) :=
    fillUp_within.mono fun _ _ _ => .op
  have hc : oneBus.contextOf ⟨1⟩ = ⟨1⟩ := rfl
  have hroster : ((fillUp ⟨1⟩).run oneBus).world.roster ⟨1⟩ =
      ((fillUp ⟨1⟩).run oneBus).world.devices ⟨1⟩ :=
    congrArg _ (hx.past oneBus_fresh hc).context.symm
  have haddressed := hx.addressed oneBus_fresh hc
  obtain ⟨hnext, hperm⟩ := fillUp_attaches
  rw [hnext] at haddressed
  rw [hroster] at haddressed ⊢
  refine ⟨haddressed, haddressed.recent fun d hd => ?_, ?_⟩
  · obtain ⟨k, -, rfl⟩ := List.mem_map.1 (hperm.mem_iff.2 (List.mem_cons_of_mem _ hd))
    have hval : (Bus.device (1 + k) plain).id.val = 1 + k := rfl
    omega
  · exact (haddressed.comes plain _ first_mem_fillUp).2 rfl

/-- **Attached devices may share an address**, with no more than 127 devices attached at
any time. -/
theorem not_apart_of_refill :
    (∀ n, (((plugMany ⟨1⟩ n).run oneBus).world.devices ⟨1⟩).size = n) ∧
      (((fillUp ⟨1⟩).run oneBus).world.devices ⟨1⟩).size = 126 ∧
      (((refill ⟨1⟩).run oneBus).world.devices ⟨1⟩).size ≤ 127 ∧
      ∃ d ∈ (((refill ⟨1⟩).run oneBus).world.devices ⟨1⟩).toList,
        ∃ d' ∈ (((refill ⟨1⟩).run oneBus).world.devices ⟨1⟩).toList,
          d.id ≠ d'.id ∧ d.bus = d'.bus ∧ d.address = d'.address := by
  obtain ⟨hnext, hperm⟩ := fillUp_attaches
  have hsize := hperm.length_eq
  rw [List.length_map, List.length_range, List.length_cons] at hsize
  have hworld : ((refill ⟨1⟩).run oneBus).world =
      ((plug .idle ⟨1⟩ plain).run ((fillUp ⟨1⟩).run oneBus).world).world :=
    world_andThen fillUp_within.returns_onBus
  obtain ⟨-, hattach, -⟩ := plug_attaches (s := plain) (w := ((fillUp ⟨1⟩).run oneBus).world)
    (Host.idle_obeys (L := SameDevices ⟨1⟩))
  rw [← hworld, hnext] at hattach
  rw [hattach]
  have hfirst : Bus.device 1 plain ∈ ((((fillUp ⟨1⟩).run oneBus).world.devices ⟨1⟩).attach
      (Bus.device 128 plain)).toList :=
    Roster.mem_attach.2 (Or.inl ⟨first_mem_fillUp, by decide⟩)
  refine ⟨fun n => ?many, ?filled, ?refilled, _, hfirst, Bus.device 128 plain,
    Roster.mem_attach.2 (Or.inr rfl), by decide, rfl, by decide⟩
  case many =>
    obtain ⟨-, hdevices⟩ := plugMany_attaches (b := ⟨1⟩) (w := oneBus) (n := n) rfl
    rw [Roster.size, hdevices, List.length_map, List.length_range]
  case filled =>
    rw [Roster.size]
    omega
  case refilled =>
    have hfilter := List.length_filter_le (fun x : Device => x.id != (Bus.device 128 plain).id)
      (((fillUp ⟨1⟩).run oneBus).world.devices ⟨1⟩).toList
    rw [Roster.size, Roster.attach, List.length_append, List.length_singleton]
    omega

end Act
end DeviceWatch
