import Mathlib.Data.List.Range
import DeviceWatch.Proofs.Watching
/-!
# Ports taken off and added

What happens while a watcher takes off ports and adds others, told as the list of
those ports, each with its device and with the one pass that it has. A listing may
bear a name any number of times, with one device or with several: a name is taken
by the first entry that bears it, and the entries after it add nothing.
-/

namespace DeviceWatch

variable {κ τ : Type}

/-- What tells of a port that it is the one seen before. -/
def SerialPort.identity (p : SerialPort) : String × UInt16 × UInt16 × Option String :=
  (p.name, p.vendor, p.product, p.serial)

theorem SerialPort.identity_eq_iff {p q : SerialPort} :
    p.identity = q.identity ↔ p.name = q.name ∧ p.sameDevice q = true := by
  rw [sameDevice_iff, identity, identity, Prod.mk.injEq, Prod.mk.injEq, Prod.mk.injEq]

/-- A port that a poll took off or added, with its device and the pass over it. -/
structure Shift (κ τ : Type) where
  port : SerialPort
  device : Device
  /-- The world in which the pass began. -/
  begun : World κ τ
  pass : Effect κ τ Tally

namespace Shift

/-- The port with its device's identity. -/
def entry (x : Shift κ τ) : SerialPort × DeviceId :=
  (x.port, x.device.id)

/-- The pass told the callbacks of the bus's context of the event at the device, which
was on the bus only if it arrived. -/
structure Passes (host : Host κ τ) (b : BusId) (e : Event) (x : Shift κ τ) : Prop where
  run : x.pass = (Act.notify host (x.begun.contextOf b) x.device e).run x.begun
  there : x.device ∈ (x.begun.devices b).toList ↔ e = .arrived

/-- All that happens when a port is taken off: one pass, in which callbacks may begin
others. -/
def toldLeft (c : ContextId) (x : Shift κ τ) : List Notice :=
  .detached c x.device :: .unplugged x.device ::
    (x.pass.notices ++ [.portRemoved x.port.name])

/-- All that happens when a port is added. -/
def toldArrived (c : ContextId) (x : Shift κ τ) : List Notice :=
  .attached c x.device :: .plugged x.device x.port.name ::
    (x.pass.notices ++ [.portAdded x.port.name x.port.productName])

end Shift

namespace Watcher

variable {host : Host κ τ} {b : BusId} {w w' : World κ τ} {m m' : Watcher} {p : SerialPort}
variable {e : SerialPort × DeviceId} {l : List (SerialPort × DeviceId)} {ports : List SerialPort}
variable {ns : List Notice} {gone new : List (Shift κ τ)}

/-! ## Which ports stay -/

theorem mem_departed_iff :
    e ∈ m.departed ports ↔
      e ∈ m.attached ∧ e.1.identity ∉ ports.map SerialPort.identity := by
  rw [mem_departed, List.mem_map]
  refine and_congr_right fun _ => ?_
  simp only [not_exists, not_and, SerialPort.identity_eq_iff, Bool.not_eq_true]

/-- The ports that stay are those listed with their devices. -/
theorem mem_removeAll_departed (hn : m.named.Nodup) :
    e ∈ (m.removeAll (m.departed ports)).attached ↔
      e ∈ m.attached ∧ e.1.identity ∈ ports.map SerialPort.identity := by
  rw [mem_removeAll]
  refine and_congr_right fun he => ⟨fun hstay => ?_, fun hlisted x hx heq => ?_⟩
  · by_contra hno
    exact hstay e (mem_departed_iff.2 ⟨he, hno⟩) rfl
  · -- Two attached ports of one name are one port.
    obtain ⟨hin, hno⟩ := mem_departed_iff.1 hx
    obtain rfl : e = x := List.inj_on_of_nodup_map hn he hin heq
    exact hno hlisted

/-! ## Taking ports off -/

/-- The ports of a list were taken off, one after the other, with their devices. -/
structure Departures (host : Host κ τ) (b : BusId) (l : List (SerialPort × DeviceId))
    (gone : List (Shift κ τ)) (w : World κ τ) (ns : List Notice) (w' : World κ τ) : Prop where
  entries : gone.map Shift.entry = l
  passes : ∀ x ∈ gone, x.Passes host b .left
  told : ns = gone.flatMap (Shift.toldLeft (w.contextOf b))
  devices : (w.devices b).toList.Perm (gone.map Shift.device ++ (w'.devices b).toList)
  bus : w'.bus b = w.bus b

theorem unplugAll_cons_notices {a : Device × Tally}
    (h : ((Act.unplug host b e.2).run w).result = some (.ok a)) :
    ((unplugAll host b (e :: l) m).run w).notices =
      ((Act.unplug host b e.2).run w).notices ++ .portRemoved e.1.name ::
        ((unplugAll host b l (m.remove e.1.name)).run
          ((Act.unplug host b e.2).run w).world).notices := by
  rw [unplugAll, Act.run_bind_of_result h]
  simp only [Act.run_bind, Act.run_note, Effect.andThen_some]
  rw [← Act.run_bind, Act.run_bind_pure]
  rfl

/-- The device of an attached port is on the bus, to be detached. -/
theorem Keeps.detach? (h : m.Keeps b w) (he : e ∈ m.attached) :
    ∃ d rest, (w.devices b).detach? e.2 = some (d, rest) ∧ d.id = e.2 ∧
      (w.devices b).toList.Perm (d :: rest.toList) ∧ d ∉ rest.toList := by
  obtain ⟨d, hd, hid, -⟩ := h.exists_device he
  obtain ⟨rest, hdetach, hperm⟩ := Roster.detach?_of_mem h.nodup hd
  refine ⟨d, rest, hid ▸ hdetach, hid, hperm, fun hmem => ?_⟩
  exact ((mem_rest_iff Device.id h.nodup hperm).1 hmem).2 rfl

section Callbacks

variable (hr : ∀ inv, (host.react inv).Obeys (SameDevices b))
variable (hret : ∀ inv, (host.react inv).Returns)
include hr hret

/-- **Taking off ports tells of them in order**, each with one pass of its own. -/
theorem Keeps.departures (h : m.Keeps b w) (hl : ∀ e ∈ l, e ∈ m.attached)
    (hn : (l.map fun e => e.1.name).Nodup) :
    ∃ gone, Departures host b l gone w ((Watcher.unplugAll host b l m).run w).notices
      ((Watcher.unplugAll host b l m).run w).world := by
  induction l generalizing m w with
  | nil => exact ⟨[], rfl, List.forall_mem_nil _, rfl, .refl _, rfl⟩
  | cons e rest ih =>
    obtain ⟨d, tally, hresult, hkeeps⟩ := h.unplug hr hret (hl e List.mem_cons_self)
    obtain ⟨x, roster, hdetach, hid, hperm, hoff⟩ := h.detach? (hl e List.mem_cons_self)
    obtain ⟨hno, hrest⟩ := List.nodup_cons.1 hn
    have hstay : ∀ y ∈ rest, y ∈ (m.remove e.1.name).attached := by
      intro y hy
      refine List.mem_filter.2 ⟨hl y (List.mem_cons_of_mem e hy), bne_iff_ne.2 fun heq => hno ?_⟩
      exact List.mem_map.2 ⟨y, hy, heq⟩
    obtain ⟨gone, hgone⟩ := ih hkeeps hstay hrest
    obtain ⟨hworld, -⟩ : ((Watcher.unplugAll host b (e :: rest) m).run w).world = _ ∧ _ :=
      run_unplugAll_cons hresult
    have hnotices : ((Watcher.unplugAll host b (e :: rest) m).run w).notices = _ :=
      unplugAll_cons_notices hresult
    obtain ⟨hbus, hdevices, -⟩ := Act.unplug_detaches hr hdetach
    have hcontext : ((Act.unplug host b e.2).run w).world.contextOf b = w.contextOf b := by
      rw [World.contextOf, hbus]
      rfl
    have htold := hgone.told
    rw [hcontext] at htold
    -- The pass begins where the device has just been detached.
    refine ⟨⟨e.1, x, w.setRoster (w.contextOf b) roster,
      (Act.notify host (w.contextOf b) x .left).run (w.setRoster (w.contextOf b) roster)⟩ :: gone,
      ?entries, ?passes, ?told, ?devices, ?bus⟩
    case entries =>
      rw [List.map_cons, hgone.entries, Shift.entry, hid]
    case passes =>
      refine List.forall_mem_cons.2 ⟨⟨rfl, ?_⟩, hgone.passes⟩
      rw [World.devices_setRoster]
      exact iff_of_false hoff nofun
    case told =>
      have hfound : (w.roster (w.contextOf b)).detach? e.2 = _ := hdetach
      rw [hnotices, htold, Act.run_unplug, hfound]
      simp [Shift.toldLeft]
    case devices =>
      rw [hworld, List.map_cons, List.cons_append]
      refine hperm.trans (List.Perm.cons x ?_)
      rw [← hdevices]
      exact hgone.devices
    case bus => rw [hworld, hgone.bus, hbus]

omit hr hret

/-! ## Adding ports -/

/-- For each name of a listing that is not attached a device was plugged in, for the
first entry of that name. -/
structure Arrivals (host : Host κ τ) (b : BusId) (m : Watcher) (ports : List SerialPort)
    (new : List (Shift κ τ)) (w : World κ τ) (ns : List Notice) (w' : World κ τ) : Prop where
  /-- They were added in the order of the listing. -/
  listed : (new.map Shift.port).Sublist ports
  distinct : (new.map fun x => x.port.name).Nodup
  first : ∀ x ∈ new, ports.find? (fun p => p.name == x.port.name) = some x.port
  named (name : String) : name ∈ (new.map fun x => x.port.name) ↔
    name ∈ ports.map SerialPort.name ∧ name ∉ m.named
  passes : ∀ x ∈ new, x.Passes host b .arrived
  made : ∀ x ∈ new, x.device = Bus.device x.device.id.val x.port.spec
  /-- The numbers of the devices follow one another. -/
  numbers : (new.map fun x => x.device.id.val) = List.range' (w.bus b).nextDevice new.length
  told : ns = new.flatMap (Shift.toldArrived (w.contextOf b))
  devices : (w'.devices b).toList = (w.devices b).toList ++ new.map Shift.device
  bus : w'.bus b = { w.bus b with nextDevice := (w.bus b).nextDevice + new.length }

theorem plugAll_cons_notices {d : Device} {tally : Tally} (hfree : m.isAttached p.name = false)
    (h : ((Act.plug host b p.spec).run w).result = some (d, tally)) :
    ((plugAll host b (p :: ports) m).run w).notices =
      ((Act.plug host b p.spec).run w).notices ++ .portAdded p.name p.productName ::
        ((plugAll host b ports (m.add p d.id)).run
          ((Act.plug host b p.spec).run w).world).notices := by
  rw [plugAll, if_neg (by rw [hfree]; exact Bool.false_ne_true), Act.run_bind_of_result h]
  simp only [Act.run_bind, Act.run_note, Effect.andThen_some]
  rw [← Act.run_bind, Act.run_bind_pure]
  rfl

namespace Arrivals

variable {x : Shift κ τ}

theorem nil : Arrivals host b m [] [] w [] w where
  listed := .slnil
  distinct := List.nodup_nil
  first := List.forall_mem_nil _
  named name := by simp
  passes := List.forall_mem_nil _
  made := List.forall_mem_nil _
  numbers := rfl
  told := rfl
  devices := (List.append_nil _).symm
  bus := rfl

/-- An entry whose name is taken adds nothing. -/
theorem skip (h : Arrivals host b m ports new w ns w') (htaken : p.name ∈ m.named) :
    Arrivals host b m (p :: ports) new w ns w' where
  listed := h.listed.cons p
  distinct := h.distinct
  first x hx := by
    have hfree := ((h.named x.port.name).1 (List.mem_map_of_mem hx)).2
    have hne : (p.name == x.port.name) = false :=
      beq_eq_false_iff_ne.2 fun heq => hfree (heq ▸ htaken)
    rw [List.find?_cons, hne]
    exact h.first x hx
  named name := by
    rw [h.named, List.map_cons, List.mem_cons]
    constructor
    · exact fun ⟨hin, hfree⟩ => ⟨Or.inr hin, hfree⟩
    · rintro ⟨rfl | hin, hfree⟩
      · exact absurd htaken hfree
      · exact ⟨hin, hfree⟩
  passes := h.passes
  made := h.made
  numbers := h.numbers
  told := h.told
  devices := h.devices
  bus := h.bus

/-- An entry whose name is free takes it from all entries after it. -/
theorem take (hport : x.port = p) (hfree : p.name ∉ m.named) (hpass : x.Passes host b .arrived)
    (hdevice : x.device = Bus.device (w.bus b).nextDevice p.spec) {v : World κ τ}
    (hbus : v.bus b = { w.bus b with nextDevice := (w.bus b).nextDevice + 1 })
    (hdevices : (v.devices b).toList = (w.devices b).toList ++ [x.device])
    (h : Arrivals host b (m.add p x.device.id) ports new v ns w') :
    Arrivals host b m (p :: ports) (x :: new) w (x.toldArrived (w.contextOf b) ++ ns) w' := by
  have hcontext : v.contextOf b = w.contextOf b := by
    rw [World.contextOf, hbus]
    rfl
  have hnamed : ∀ name, name ∈ (m.add p x.device.id).named ↔ name ∈ m.named ∨ name = p.name := by
    intro name
    simp [add, Watcher.named]
  subst hport
  refine ⟨?listed, ?distinct, ?first, ?named, ?passes, ?made, ?numbers, ?told, ?devices, ?bus⟩
  case listed => exact h.listed.cons_cons x.port
  case distinct =>
    rw [List.map_cons, List.nodup_cons]
    refine ⟨fun hmem => ?_, h.distinct⟩
    exact ((h.named x.port.name).1 hmem).2 ((hnamed _).2 (Or.inr rfl))
  case first =>
    refine List.forall_mem_cons.2 ⟨?_, fun y hy => ?_⟩
    · rw [List.find?_cons, beq_self_eq_true]
    · have hother := ((h.named y.port.name).1 (List.mem_map_of_mem hy)).2
      have hne : (x.port.name == y.port.name) = false :=
        beq_eq_false_iff_ne.2 fun heq => hother ((hnamed _).2 (Or.inr heq.symm))
      rw [List.find?_cons, hne]
      exact h.first y hy
  case named =>
    intro name
    rw [List.map_cons, List.mem_cons, h.named, hnamed, List.map_cons, List.mem_cons, not_or]
    constructor
    · rintro (rfl | ⟨hin, hother, -⟩)
      · exact ⟨Or.inl rfl, hfree⟩
      · exact ⟨Or.inr hin, hother⟩
    · rintro ⟨rfl | hin, hother⟩
      · exact Or.inl rfl
      · by_cases heq : name = x.port.name
        · exact Or.inl heq
        · exact Or.inr ⟨hin, hother, heq⟩
  case passes => exact List.forall_mem_cons.2 ⟨hpass, h.passes⟩
  case made =>
    refine List.forall_mem_cons.2 ⟨?_, h.made⟩
    rw [hdevice]
    rfl
  case numbers =>
    have hnumber : x.device.id.val = (w.bus b).nextDevice := by
      rw [hdevice]
      rfl
    rw [List.map_cons, h.numbers, hbus, hnumber, List.length_cons, List.range'_succ]
  case told => rw [h.told, hcontext, List.flatMap_cons]
  case devices =>
    rw [h.devices, hdevices, List.map_cons, List.append_assoc, List.singleton_append]
  case bus =>
    rw [h.bus, hbus, List.length_cons, Nat.add_assoc, Nat.add_comm 1]

end Arrivals

include hr hret

/-- **Adding ports tells of them in the order of the listing**, each with one pass of
its own. -/
theorem Keeps.arrivals (h : m.Keeps b w) :
    ∃ m' new, ((Watcher.plugAll host b ports m).run w).result =
        some (m', new.map fun x => x.device.id) ∧
      m'.attached = m.attached ++ new.map Shift.entry ∧
      Arrivals host b m ports new w ((Watcher.plugAll host b ports m).run w).notices
        ((Watcher.plugAll host b ports m).run w).world := by
  induction ports generalizing m w with
  | nil => exact ⟨m, [], rfl, (List.append_nil _).symm, .nil⟩
  | cons p rest ih =>
    rcases hfree : m.isAttached p.name with _ | _
    · have hnamed : p.name ∉ m.named := by
        rw [← isAttached_iff, hfree]
        exact Bool.false_ne_true
      obtain ⟨d, tally, hresult, hkeeps⟩ := h.plug hr hret hfree
      obtain ⟨hbus, hdevices, hanswer⟩ : ((Act.plug host b p.spec).run w).world.bus b = _ ∧ _ :=
        Act.plug_attaches hr
      obtain rfl := hanswer d tally hresult
      have hnew : (Bus.device (w.bus b).nextDevice p.spec).id ∉ (w.devices b).ids := fun hmem =>
        Nat.lt_irrefl _ (h.lt _ hmem)
      obtain ⟨m', new, hrun, hattached, hnews⟩ := ih hkeeps
      obtain ⟨hworld, hresult'⟩ : ((Watcher.plugAll host b (p :: rest) m).run w).world = _ ∧ _ :=
        run_plugAll_cons hfree hresult
      have hnotices : ((Watcher.plugAll host b (p :: rest) m).run w).notices = _ :=
        plugAll_cons_notices hfree hresult
      -- The pass begins where the device has just been attached.
      let x : Shift κ τ :=
        ⟨p, Bus.device (w.bus b).nextDevice p.spec, w.withNew b p.spec,
          (Act.notify host (w.contextOf b) (Bus.device (w.bus b).nextDevice p.spec) .arrived).run
            (w.withNew b p.spec)⟩
      have hattach := Roster.attach_of_not_mem hnew
      have hpass : x.Passes host b .arrived := by
        refine ⟨?_, ?_⟩
        · rw [World.contextOf_withNew]
        · rw [World.devices_withNew, hattach]
          exact iff_of_true (List.mem_append_right _ (List.mem_singleton_self _)) rfl
      refine ⟨m', x :: new, ?_, ?_, ?_⟩
      · rw [hresult', hrun]
        rfl
      · rw [hattached, add, List.map_cons, List.append_assoc]
        rfl
      · have htold : ((Act.plug host b p.spec).run w).notices ++
              [.portAdded p.name p.productName] = x.toldArrived (w.contextOf b) := by
          rw [Act.run_plug]
          rfl
        rw [hworld, hnotices, List.append_cons, htold]
        exact .take rfl hnamed hpass rfl hbus (by rw [hdevices, hattach]) hnews
    · rw [plugAll_cons_of_attached hfree]
      obtain ⟨m', new, hrun, hattached, hnews⟩ := ih h
      exact ⟨m', new, hrun, hattached, hnews.skip (isAttached_iff.1 hfree)⟩

end Callbacks

end Watcher
end DeviceWatch
