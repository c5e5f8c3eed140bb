import DeviceWatch.Ports
import DeviceWatch.Proofs.Attachment
/-!
# Ports and their devices

A watcher has one device on the bus for every port that it has attached. Where
nobody else attaches or detaches devices, this stays so from act to act: a port is
taken off with its device and added with a new one. So the device of an attached
port can always be unplugged.
-/

namespace DeviceWatch

variable {κ τ : Type}

/-- A text stands within another if its characters do, in a row. -/
theorem occursIn_iff {pattern text : List Char} : occursIn pattern text = true ↔ pattern <:+: text := by
  induction text with
  | nil => rw [occursIn, List.isEmpty_iff, List.infix_nil]
  | cons c rest ih =>
    rw [occursIn, Bool.or_eq_true, List.isPrefixOf_iff_prefix, ih, List.infix_cons_iff]

namespace SerialPort

variable {p q : SerialPort} {x : ListedPort}

theorem sameDevice_iff :
    p.sameDevice q = true ↔ p.vendor = q.vendor ∧ p.product = q.product ∧ p.serial = q.serial := by
  simp [sameDevice, and_assoc]

theorem sameDevice_self : p.sameDevice p = true :=
  sameDevice_iff.2 ⟨rfl, rfl, rfl⟩

/-- A serial port comes from an entry under its name that tells of its device. -/
theorem ofListed?_eq_some_iff :
    ofListed? x = some p ↔
      x.name = p.name ∧ x.kind = .usb p.vendor p.product p.serial p.productName := by
  obtain ⟨name, kind⟩ := x
  rcases kind with ⟨vendor, product, serial, productName⟩ | _
  · constructor
    · intro h
      cases h
      exact ⟨rfl, rfl⟩
    · rintro ⟨rfl, h⟩
      cases h
      rfl
  · exact iff_of_false nofun fun h => nomatch h.2

end SerialPort

namespace Watcher

variable {m m' : Watcher} {p : SerialPort} {i : DeviceId} {name : String}
variable {listed : List ListedPort} {ports : List SerialPort} {e : SerialPort × DeviceId}

/-- The names of the attached ports. -/
def named (m : Watcher) : List String :=
  m.attached.map fun e => e.1.name

/-- The devices of the attached ports. -/
def held (m : Watcher) : List DeviceId :=
  m.attached.map Prod.snd

theorem isAttached_iff : m.isAttached name = true ↔ name ∈ m.named := by
  simp [isAttached, named]

/-- The names that are skipped are those with a pattern in them. -/
theorem skips_eq_false_iff :
    m.skips p = false ↔ ∀ pattern ∈ m.skipPatterns, ¬ pattern.toList <:+: p.name.toList := by
  simp only [skips, List.any_eq_false, occursIn_iff]

theorem mem_choose :
    p ∈ m.choose listed ↔
      (∃ x ∈ listed, x.name = p.name ∧ x.kind = .usb p.vendor p.product p.serial p.productName) ∧
        ∀ pattern ∈ m.skipPatterns, ¬ pattern.toList <:+: p.name.toList := by
  rw [choose, List.mem_filter, List.mem_filterMap, Bool.not_eq_true', skips_eq_false_iff]
  simp only [SerialPort.ofListed?_eq_some_iff]

theorem mem_departed :
    e ∈ m.departed ports ↔
      e ∈ m.attached ∧ ∀ p ∈ ports, p.name = e.1.name → p.sameDevice e.1 = false := by
  simp [departed]

/-- One port is taken off, and no other. -/
theorem attached_perm (hn : m.named.Nodup) (he : e ∈ m.attached) :
    m.attached.Perm (e :: (m.remove e.1.name).attached) := by
  have hremove : (m.remove e.1.name).attached = m.attached.erase e := by
    rw [remove, (hn.of_map _).erase_eq_filter]
    refine List.filter_congr fun x hx => ?_
    have hinj : x.1.name = e.1.name ↔ x = e :=
      ⟨List.inj_on_of_nodup_map hn hx he, fun heq => heq ▸ rfl⟩
    rw [Bool.eq_iff_iff, bne_iff_ne, bne_iff_ne]
    exact not_congr hinj
  rw [hremove]
  exact List.perm_cons_erase he

/-! ## One device for each port -/

/-- **A watcher keeps its devices on the bus**: for each attached port there is one,
made for the port, and there are no others. -/
structure Keeps (m : Watcher) (b : BusId) (w : World κ τ) : Prop where
  /-- No two attached ports share a name. -/
  distinct : m.named.Nodup
  devices : (m.attached.map fun e => (e.2, e.1.spec.descriptor)).Perm
    ((w.devices b).toList.map fun d => (d.id, d.descriptor))
  /-- No two devices share an identity. -/
  nodup : (w.devices b).ids.Nodup
  /-- The number of the next device is new. -/
  lt : ∀ i ∈ (w.devices b).ids, i.val < (w.bus b).nextDevice

namespace Keeps

variable {host : Host κ τ} {b : BusId} {w w' : World κ τ} {ns : List Notice}

theorem of_same (h : m.Keeps b w) (hsame : SameDevices b w ns w') : m.Keeps b w' where
  distinct := h.distinct
  devices := hsame.devices ▸ h.devices
  nodup := hsame.devices ▸ h.nodup
  lt := hsame.bus ▸ hsame.devices ▸ h.lt

/-- The ports may stand in any order. -/
theorem of_perm (h : m.Keeps b w) {attached : List (SerialPort × DeviceId)}
    (hperm : attached.Perm m.attached) : Keeps { m with attached } b w where
  distinct := (hperm.map _).nodup_iff.2 h.distinct
  devices := (hperm.map _).trans h.devices
  nodup := h.nodup
  lt := h.lt

theorem held_perm (h : m.Keeps b w) : m.held.Perm (w.devices b).ids := by
  have hids := h.devices.map Prod.fst
  rw [List.map_map, List.map_map] at hids
  exact hids

/-- The device of an attached port is on the bus, made for the port. -/
theorem exists_device (h : m.Keeps b w) (he : e ∈ m.attached) :
    ∃ d ∈ (w.devices b).toList, d.id = e.2 ∧ d.descriptor = e.1.spec.descriptor := by
  have hmem := h.devices.mem_iff.1 (List.mem_map_of_mem he)
  obtain ⟨d, hd, heq⟩ := List.mem_map.1 hmem
  exact ⟨d, hd, (Prod.mk.inj heq).1, (Prod.mk.inj heq).2⟩

variable (hr : ∀ inv, (host.react inv).Obeys (SameDevices b))
variable (hret : ∀ inv, (host.react inv).Returns)
include hr hret

/-- **The device of an attached port can be unplugged**, and the port taken off. -/
theorem unplug (h : m.Keeps b w) (he : e ∈ m.attached) :
    ∃ d tally, ((Act.unplug host b e.2).run w).result = some (.ok (d, tally)) ∧
      (m.remove e.1.name).Keeps b ((Act.unplug host b e.2).run w).world := by
  obtain ⟨d, hd, hid, hdesc⟩ := h.exists_device he
  obtain ⟨rest, hdetach, hperm⟩ := Roster.detach?_of_mem h.nodup hd
  rw [hid] at hdetach
  obtain ⟨hbus, hdevices, hanswer⟩ := Act.unplug_detaches hr hdetach
  obtain ⟨a, ha⟩ := Act.returns_unplug hret w
  obtain ⟨tally, rfl⟩ := hanswer a ha
  refine ⟨d, tally, ha, ?_, ?_, ?_, ?_⟩
  · exact h.distinct.sublist (List.filter_sublist.map _)
  · rw [hdevices]
    have hports := (attached_perm h.distinct he).map fun e => (e.2, e.1.spec.descriptor)
    have hroster := hperm.map fun d => (d.id, d.descriptor)
    have hboth := hports.symm.trans (h.devices.trans hroster)
    rw [List.map_cons, List.map_cons, hid, hdesc] at hboth
    exact hboth.cons_inv
  · rw [hdevices]
    exact Roster.nodup_of_detach? h.nodup hdetach
  · rw [hdevices, hbus]
    exact fun i hi => h.lt i ((Roster.mem_ids_of_detach? h.nodup hdetach).1 hi).1

/-- A device is plugged in for a port whose name is free, and the port added. -/
theorem plug (h : m.Keeps b w) (hfree : m.isAttached p.name = false) :
    ∃ d tally, ((Act.plug host b p.spec).run w).result = some (d, tally) ∧
      (m.add p d.id).Keeps b ((Act.plug host b p.spec).run w).world := by
  obtain ⟨hbus, hdevices, hanswer⟩ : ((Act.plug host b p.spec).run w).world.bus b = _ ∧ _ :=
    Act.plug_attaches hr
  obtain ⟨⟨d, tally⟩, ha⟩ := Act.returns_plug hret (b := b) (s := p.spec) w
  obtain rfl := hanswer d tally ha
  have hnew : (Bus.device (w.bus b).nextDevice p.spec).id ∉ (w.devices b).ids := fun hmem =>
    Nat.lt_irrefl _ (h.lt _ hmem)
  refine ⟨_, tally, ha, ?_, ?_, ?_, ?_⟩
  · rw [named, add, List.map_append]
    refine h.distinct.append (List.nodup_singleton _) (List.disjoint_singleton.2 fun hmem => ?_)
    rw [isAttached_iff.2 hmem] at hfree
    cases hfree
  · rw [hdevices, Roster.attach_of_not_mem hnew, add, List.map_append, List.map_append]
    exact h.devices.append_right _
  · rw [hdevices, Roster.ids_attach_of_not_mem hnew]
    exact h.nodup.append (List.nodup_singleton _) (List.disjoint_singleton.2 hnew)
  · rw [hdevices, hbus, Roster.ids_attach_of_not_mem hnew]
    intro i hi
    rcases List.mem_append.1 hi with hi | hi
    · exact Nat.lt_succ_of_lt (h.lt i hi)
    · rw [List.mem_singleton.1 hi]
      exact Nat.lt_succ_self _

end Keeps
end Watcher
end DeviceWatch
