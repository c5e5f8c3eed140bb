import DeviceWatch.Proofs.Disconnection
import DeviceWatch.Proofs.Ports
/-!
# Watched ports

A watcher that nobody interferes with mirrors the latest listing: the ports that it
has attached are those listed under the same name with the same device behind
them, less those it is told to skip, and each has a device of its own on the bus.
This holds whatever the listing before was, also if a listing tells of a name
twice or of another device under a name, and in whatever order the attached ports
are looked at.
-/

namespace DeviceWatch

variable {κ τ : Type}

namespace Watcher

variable {host : Host κ τ} {b : BusId} {w : World κ τ} {m m' : Watcher} {p : SerialPort}
variable {e : SerialPort × DeviceId} {l : List (SerialPort × DeviceId)} {ports : List SerialPort}

/-! ## One poll -/

/-- The watcher without the ports of a list. -/
def removeAll (m : Watcher) : List (SerialPort × DeviceId) → Watcher
  | [] => m
  | e :: rest => (m.remove e.1.name).removeAll rest

theorem skipPatterns_removeAll : (m.removeAll l).skipPatterns = m.skipPatterns := by
  induction l generalizing m with
  | nil => rfl
  | cons x rest ih => exact ih

theorem mem_removeAll :
    e ∈ (m.removeAll l).attached ↔ e ∈ m.attached ∧ ∀ x ∈ l, e.1.name ≠ x.1.name := by
  induction l generalizing m with
  | nil => simp [removeAll]
  | cons x rest ih =>
    rw [removeAll, ih, remove, List.mem_filter, bne_iff_ne, List.forall_mem_cons, and_assoc]

theorem run_unplugAll_cons {a : Device × Tally}
    (h : ((Act.unplug host b e.2).run w).result = some (.ok a)) :
    ((unplugAll host b (e :: l) m).run w).world =
        ((unplugAll host b l (m.remove e.1.name)).run ((Act.unplug host b e.2).run w).world).world ∧
      ((unplugAll host b (e :: l) m).run w).result =
        ((unplugAll host b l (m.remove e.1.name)).run
          ((Act.unplug host b e.2).run w).world).result.map fun out => (out.1, e.2 :: out.2) := by
  rw [unplugAll, Act.run_bind_of_result h]
  simp only [Act.run_bind, Act.run_note, Effect.andThen_some]
  rw [← Act.run_bind, Act.run_bind_pure]
  exact ⟨rfl, rfl⟩

theorem plugAll_cons_of_attached (h : m.isAttached p.name = true) :
    plugAll host b (p :: ports) m = plugAll host b ports m := by
  rw [plugAll, if_pos h]

theorem run_plugAll_cons {d : Device} {tally : Tally} (hfree : m.isAttached p.name = false)
    (h : ((Act.plug host b p.spec).run w).result = some (d, tally)) :
    ((plugAll host b (p :: ports) m).run w).world =
        ((plugAll host b ports (m.add p d.id)).run ((Act.plug host b p.spec).run w).world).world ∧
      ((plugAll host b (p :: ports) m).run w).result =
        ((plugAll host b ports (m.add p d.id)).run
          ((Act.plug host b p.spec).run w).world).result.map fun out => (out.1, d.id :: out.2) := by
  rw [plugAll, if_neg (by rw [hfree]; exact Bool.false_ne_true), Act.run_bind_of_result h]
  simp only [Act.run_bind, Act.run_note, Effect.andThen_some]
  rw [← Act.run_bind, Act.run_bind_pure]
  exact ⟨rfl, rfl⟩

section Callbacks

variable (hr : ∀ inv, (host.react inv).Obeys (SameDevices b))
variable (hret : ∀ inv, (host.react inv).Returns)
include hr hret

/-- **Every port of the list is taken off with its device**: none of the devices
has vanished from the bus. -/
theorem Keeps.unplugAll (h : m.Keeps b w) (hl : ∀ e ∈ l, e ∈ m.attached)
    (hn : (l.map fun e => e.1.name).Nodup) :
    ((Watcher.unplugAll host b l m).run w).result = some (m.removeAll l, l.map Prod.snd) ∧
      (m.removeAll l).Keeps b ((Watcher.unplugAll host b l m).run w).world := by
  induction l generalizing m w with
  | nil => exact ⟨rfl, h⟩
  | cons x rest ih =>
    obtain ⟨d, tally, hresult, hkeeps⟩ := h.unplug hr hret (hl x List.mem_cons_self)
    obtain ⟨hno, hrest⟩ := List.nodup_cons.1 hn
    -- The ports that are left have other names.
    have hstay : ∀ e ∈ rest, e ∈ (m.remove x.1.name).attached := by
      intro e he
      refine List.mem_filter.2 ⟨hl e (List.mem_cons_of_mem x he), bne_iff_ne.2 fun heq => hno ?_⟩
      exact List.mem_map.2 ⟨e, he, heq⟩
    obtain ⟨hrun, hkeeps'⟩ := ih hkeeps hstay hrest
    obtain ⟨hworld, hresult'⟩ : ((Watcher.unplugAll host b (x :: rest) m).run w).world = _ ∧ _ :=
      run_unplugAll_cons hresult
    rw [hworld, hresult', hrun]
    exact ⟨rfl, hkeeps'⟩

/-- The ports whose names are free are added, each with a device. -/
theorem Keeps.plugAll (h : m.Keeps b w) :
    ∃ m' arrived, ((Watcher.plugAll host b ports m).run w).result = some (m', arrived) ∧
      m'.Keeps b ((Watcher.plugAll host b ports m).run w).world ∧
      m'.skipPatterns = m.skipPatterns ∧ (∀ e ∈ m.attached, e ∈ m'.attached) ∧
      (∀ e ∈ m'.attached, e ∈ m.attached ∨ e.1 ∈ ports) ∧ ∀ p ∈ ports, p.name ∈ m'.named := by
  induction ports generalizing m w with
  | nil => exact ⟨m, [], rfl, h, rfl, fun _ => id, fun _ => Or.inl, nofun⟩
  | cons p rest ih =>
    rcases hfree : m.isAttached p.name with _ | _
    · obtain ⟨d, tally, hresult, hkeeps⟩ := h.plug hr hret hfree
      obtain ⟨m', arrived, hrun, hkeeps', hskip, hold, hnew, hnamed⟩ := ih hkeeps
      obtain ⟨hworld, hresult'⟩ : ((Watcher.plugAll host b (p :: rest) m).run w).world = _ ∧ _ :=
        run_plugAll_cons hfree hresult
      rw [hworld, hresult', hrun]
      refine ⟨m', d.id :: arrived, rfl, hkeeps', hskip,
        fun e he => hold e (List.mem_append_left _ he), fun e he => ?_, ?_⟩
      · rcases hnew e he with he | he
        · refine (List.mem_append.1 he).imp_right fun he => ?_
          rw [List.mem_singleton.1 he]
          exact List.mem_cons_self
        · exact Or.inr (List.mem_cons_of_mem p he)
      · refine List.forall_mem_cons.2 ⟨?_, hnamed⟩
        exact List.mem_map_of_mem
          (hold (p, d.id) (List.mem_append_right _ (List.mem_singleton_self _)))
    · rw [plugAll_cons_of_attached hfree]
      obtain ⟨m', arrived, hrun, hkeeps', hskip, hold, hnew, hnamed⟩ := ih h
      refine ⟨m', arrived, hrun, hkeeps', hskip, hold,
        fun e he => (hnew e he).imp_right (List.mem_cons_of_mem p), ?_⟩
      refine List.forall_mem_cons.2 ⟨?_, hnamed⟩
      obtain ⟨e, he, heq⟩ := List.mem_map.1 (isAttached_iff.1 hfree)
      exact List.mem_map.2 ⟨e, hold e he, heq⟩

/-- **A watcher is brought in line with the listed ports**, whatever it had attached
before. -/
theorem Keeps.update (h : m.Keeps b w) :
    ∃ m' arrived, ((Watcher.update host b ports m).run w).result =
        some (m', ⟨arrived, (m.departed ports).map Prod.snd⟩) ∧
      m'.Keeps b ((Watcher.update host b ports m).run w).world ∧
      m'.skipPatterns = m.skipPatterns ∧
      (∀ e ∈ m'.attached, ∃ p ∈ ports, p.name = e.1.name ∧ p.sameDevice e.1 = true) ∧
      ∀ p ∈ ports, p.name ∈ m'.named := by
  have hsub : (m.departed ports).Sublist m.attached := List.filter_sublist
  have hnodup : ((m.departed ports).map fun e => e.1.name).Nodup :=
    h.distinct.sublist (hsub.map _)
  obtain ⟨hunplug, hkeeps⟩ := h.unplugAll hr hret (fun e he => hsub.subset he) hnodup
  obtain ⟨m', arrived, hplug, hkeeps', hskip, -, hnew, hnamed⟩ :
    ∃ m' arrived, ((Watcher.plugAll host b ports (m.removeAll (m.departed ports))).run _).result =
      some (m', arrived) ∧ _ := hkeeps.plugAll hr hret
  rw [Watcher.update, Act.run_bind_of_result hunplug, Act.run_bind_of_result hplug]
  refine ⟨m', arrived, rfl, hkeeps', hskip.trans skipPatterns_removeAll, fun e he => ?_, hnamed⟩
  rcases hnew e he with he | he
  · -- A port that stays is listed with its device.
    obtain ⟨hin, hstay⟩ := mem_removeAll.1 he
    by_contra hno
    refine hstay e (mem_departed.2 ⟨hin, fun p hp heq => ?_⟩) rfl
    rw [← Bool.not_eq_true]
    exact fun hsame => hno ⟨p, hp, heq, hsame⟩
  · exact ⟨e.1, he, rfl, SerialPort.sameDevice_self⟩

end Callbacks

/-! ## Polls -/

/-- **A watcher mirrors a listing** on the devices of its bus. -/
structure Reflects (m : Watcher) (patterns : List String) (listed : List ListedPort)
    (devices : Roster) : Prop where
  /-- No port is attached twice. -/
  distinct : m.named.Nodup
  /-- The attached ports are the USB ports of the listing whose names contain none of
  the patterns. -/
  named (name : String) : name ∈ m.named ↔
    (∃ x ∈ listed, x.name = name ∧ x.kind ≠ .other) ∧
      ∀ pattern ∈ patterns, ¬ pattern.toList <:+: name.toList
  /-- No device belongs to two ports. -/
  single : m.held.Nodup
  /-- The devices of the ports are those on the bus. -/
  held : m.held.Perm devices.ids
  /-- The device behind a port is one that is listed under the port's name. -/
  behind : ∀ e ∈ m.attached, ∃ x ∈ listed, x.name = e.1.name ∧
    ∃ productName, x.kind = .usb e.1.vendor e.1.product e.1.serial productName
  /-- The device on the bus is made like the one behind the port. -/
  device : ∀ e ∈ m.attached, ∃ d ∈ devices.toList, d.id = e.2 ∧
    d.vendor = e.1.vendor ∧ d.product = e.1.product ∧ d.deviceClass = 0

/-- The watchers that polls lead to, and the worlds that they leave. The attached
ports have no order of their own, and between polls anything may happen that leaves
the devices of the bus alone. -/
inductive Reached (host : Host κ τ) (b : BusId) (patterns : List String) (start : World κ τ) :
    Watcher → World κ τ → Prop
  | start : Reached host b patterns start { skipPatterns := patterns } start
  | poll {m m' : Watcher} {w : World κ τ} {answer : Except ListingError PortChanges}
      (listing : Listing) : Reached host b patterns start m w →
      ((Watcher.poll host b listing m).run w).result = some (m', answer) →
      Reached host b patterns start m' ((Watcher.poll host b listing m).run w).world
  | reorder {m : Watcher} {w : World κ τ} {attached : List (SerialPort × DeviceId)} :
      Reached host b patterns start m w → attached.Perm m.attached →
      Reached host b patterns start { m with attached } w
  | meanwhile {m : Watcher} {w w' : World κ τ} {ns : List Notice} :
      Reached host b patterns start m w → SameDevices b w ns w' →
      Reached host b patterns start m w'

section Callbacks

variable {patterns : List String} {start : World κ τ}
variable (hr : ∀ inv, (host.react inv).Obeys (SameDevices b))
variable (hret : ∀ inv, (host.react inv).Returns)
include hr hret

/-- A poll brings the watcher in line with the listing. -/
theorem Keeps.poll (h : m.Keeps b w) (listed : List ListedPort) :
    ∃ m' changes, ((Watcher.poll host b (.ok listed) m).run w).result = some (m', .ok changes) ∧
      changes.left = (m.departed (m.choose listed)).map Prod.snd ∧
      m'.Keeps b ((Watcher.poll host b (.ok listed) m).run w).world ∧
      m'.skipPatterns = m.skipPatterns ∧
      m'.Reflects m.skipPatterns listed
        (((Watcher.poll host b (.ok listed) m).run w).world.devices b) := by
  obtain ⟨m', arrived, hupdate, hkeeps, hskip, hlisted, hnamed⟩ :
    ∃ m' arrived, ((Watcher.update host b (m.choose listed) m).run w).result =
      some (m', PortChanges.mk arrived _) ∧ _ := h.update hr hret
  rw [Watcher.poll, Act.run_bind_of_result hupdate]
  refine ⟨m', _, rfl, rfl, hkeeps, hskip, hkeeps.distinct, fun name => ?named, ?single,
    hkeeps.held_perm, fun e he => ?behind, fun e he => ?device⟩
  case named =>
    constructor
    · intro hname
      obtain ⟨e, he, rfl⟩ := List.mem_map.1 hname
      obtain ⟨p, hp, heq, -⟩ := hlisted e he
      obtain ⟨⟨x, hx, hxname, hkind⟩, hno⟩ := mem_choose.1 hp
      rw [heq] at hno hxname
      refine ⟨⟨x, hx, hxname, ?_⟩, hno⟩
      rw [hkind]
      exact nofun
    · rintro ⟨⟨⟨name', kind⟩, hx, rfl, hkind⟩, hno⟩
      rcases kind with ⟨vendor, product, serial, productName⟩ | _
      · exact hnamed ⟨name', vendor, product, serial, productName⟩
          (mem_choose.2 ⟨⟨_, hx, rfl, rfl⟩, hno⟩)
      · exact absurd rfl hkind
  case single => exact hkeeps.held_perm.nodup_iff.2 hkeeps.nodup
  case behind =>
    obtain ⟨p, hp, heq, hsame⟩ := hlisted e he
    obtain ⟨⟨x, hx, hxname, hkind⟩, -⟩ := mem_choose.1 hp
    obtain ⟨hvendor, hproduct, hserial⟩ := SerialPort.sameDevice_iff.1 hsame
    rw [hvendor, hproduct, hserial] at hkind
    exact ⟨x, hx, hxname.trans heq, _, hkind⟩
  case device =>
    obtain ⟨d, hd, hid, hdesc⟩ := hkeeps.exists_device he
    refine ⟨d, hd, hid, ?_, ?_, ?_⟩
    · exact congrArg Descriptor.vendor hdesc
    · exact congrArg Descriptor.product hdesc
    · exact congrArg Descriptor.deviceClass hdesc

theorem Reached.keeps (hstart : (start.devices b).toList = [])
    (h : Reached host b patterns start m w) : m.Keeps b w ∧ m.skipPatterns = patterns := by
  induction h with
  | start =>
    refine ⟨⟨List.nodup_nil, ?_, ?_, ?_⟩, rfl⟩
    all_goals simp [hstart, Roster.ids]
  | poll listing _ hok ih =>
    obtain ⟨hkeeps, hskip⟩ := ih
    rcases listing with error | listed
    · -- A listing that failed changes nothing.
      cases hok
      exact ⟨hkeeps, hskip⟩
    · obtain ⟨m', changes, hresult, -, hkeeps', hskip', -⟩ := hkeeps.poll hr hret listed
      cases hresult.symm.trans hok
      exact ⟨hkeeps', hskip'.trans hskip⟩
  | reorder _ hperm ih => exact ⟨ih.1.of_perm hperm, ih.2⟩
  | meanwhile _ hsame ih => exact ⟨ih.1.of_same hsame, ih.2⟩

/-- **After every poll the watcher mirrors the listing.** The poll answers with the
devices of all ports that departed: each of them could be unplugged. -/
theorem Reached.reflects (hstart : (start.devices b).toList = [])
    (h : Reached host b patterns start m w) (listed : List ListedPort) :
    ∃ m' changes, ((Watcher.poll host b (.ok listed) m).run w).result = some (m', .ok changes) ∧
      m'.Reflects patterns listed
        (((Watcher.poll host b (.ok listed) m).run w).world.devices b) ∧
      changes.left = (m.departed (m.choose listed)).map Prod.snd := by
  obtain ⟨hkeeps, rfl⟩ := h.keeps hr hret hstart
  obtain ⟨m', changes, hresult, hleft, -, -, hreflects⟩ := hkeeps.poll hr hret listed
  exact ⟨m', changes, hresult, hreflects, hleft⟩

end Callbacks

/-- A port that is listed twice with two devices, one that is skipped, and one that
has no USB device behind it. -/
def doubled : List ListedPort :=
  [⟨"tty0", .usb 1 1 none none⟩, ⟨"tty0", .usb 2 2 none none⟩, ⟨"ttyS0", .usb 3 3 none none⟩,
    ⟨"tty1", .other⟩]

/-- The second device of that port, and a new one. -/
def swapped : List ListedPort :=
  [⟨"tty1", .usb 1 1 none none⟩, ⟨"tty0", .usb 2 2 none none⟩]

/-- The device behind a port is swapped between two polls. -/
theorem reflects_after_swap :
    ∃ m w m' w', Reached Host.idle ⟨1⟩ ["ttyS"] Act.oneBus m w ∧
      m.attached = [(⟨"tty0", 1, 1, none, none⟩, ⟨1⟩)] ∧
      ((Watcher.poll .idle ⟨1⟩ (.ok swapped) m).run w).result =
        some (m', .ok ⟨[⟨2⟩, ⟨3⟩], [⟨1⟩]⟩) ∧
      ((Watcher.poll .idle ⟨1⟩ (.ok swapped) m).run w).world = w' ∧
      m'.Reflects ["ttyS"] swapped (w'.devices ⟨1⟩) := by
  have hidle : ∀ inv, (Host.idle.react inv : Act Unit Unit Wish).Obeys (SameDevices ⟨1⟩) :=
    fun _ => Act.obeys_pure _
  have hret : ∀ inv, (Host.idle.react inv : Act Unit Unit Wish).Returns :=
    fun _ => Act.returns_pure _
  have hreached : Reached Host.idle ⟨1⟩ ["ttyS"] Act.oneBus _ _ :=
    Reached.start.poll (.ok doubled) rfl
  obtain ⟨m', changes, hresult, hreflects, -⟩ := hreached.reflects hidle hret rfl swapped
  refine ⟨_, _, m', _, hreached, rfl, ?_, rfl, hreflects⟩
  rw [hresult]
  cases hresult
  rfl

end Watcher
end DeviceWatch
