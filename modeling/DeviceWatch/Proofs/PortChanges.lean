import DeviceWatch.Proofs.Shifts
/-!
# What a poll changes

A poll makes the least of the changes that bring a bus in line with a listing. An
attached port stays, with its device and without a word, if the listing has an
entry for it; all others go first, each with a pass over the departure of its
device. Then each name that is free is taken, under the next number. What a listing
has of a name and what it has of a device are two questions, as it may tell of a
name more than once. Applying another listing of the same entries changes nothing.
-/

namespace DeviceWatch

variable {κ τ : Type}

namespace Watcher

variable {host : Host κ τ} {b : BusId} {w w' : World κ τ} {m m' : Watcher} {p : SerialPort}
variable {ports : List SerialPort} {ns : List Notice} {new : List (Shift κ τ)}

/-! ## One poll -/

/-- Two attached ports have two names and two devices. -/
theorem Keeps.eq_of_same (h : m.Keeps b w) {e e' : SerialPort × DeviceId} (he : e ∈ m.attached)
    (he' : e' ∈ m.attached) (hsame : e.1.name = e'.1.name ∨ e.2 = e'.2) : e = e' := by
  have hheld : m.held.Nodup := h.held_perm.nodup_iff.2 h.nodup
  rcases hsame with heq | heq
  · exact List.inj_on_of_nodup_map h.distinct he he' heq
  · exact List.inj_on_of_nodup_map hheld he he' heq

/-- A port that is listed with its device shares neither name nor device with one that
goes. -/
theorem Keeps.apart_of_departed (h : m.Keeps b w) {e e' : SerialPort × DeviceId}
    (he : e ∈ m.attached) (hlisted : e.1.identity ∈ ports.map SerialPort.identity)
    (he' : e' ∈ m.departed ports) : e'.1.name ≠ e.1.name ∧ e'.2 ≠ e.2 := by
  obtain ⟨hin, hno⟩ := mem_departed_iff.1 he'
  constructor
  · rintro heq
    exact hno (h.eq_of_same hin he (Or.inl heq) ▸ hlisted)
  · rintro heq
    exact hno (h.eq_of_same hin he (Or.inr heq) ▸ hlisted)

/-- **What one poll changes**, given the devices that arrived before it: it takes these
ports off and adds those. -/
structure PollAccount (host : Host κ τ) (b : BusId) (past : List DeviceId)
    (ports : List SerialPort) (m : Watcher) (w : World κ τ) (m' : Watcher)
    (gone new : List (Shift κ τ)) (out : Effect κ τ (Watcher × PortChanges)) : Prop where
  /-- It answers with the devices of these ports, and of no others. -/
  result : out.result =
    some (m', ⟨new.map fun x => x.device.id, gone.map fun x => x.device.id⟩)
  /-- An attached port that is listed with its device stays with it, and nothing is told
  of it. -/
  stays : ∀ e ∈ m.attached, e.1.identity ∈ ports.map SerialPort.identity →
    e ∈ m'.attached ∧ e.2 ∈ (out.world.devices b).ids ∧
      ∀ x ∈ gone ++ new, x.port.name ≠ e.1.name ∧ x.device.id ≠ e.2
  /-- Every other attached port is taken off. -/
  goes (e : SerialPort × DeviceId) : e ∈ gone.map Shift.entry ↔
    e ∈ m.attached ∧ e.1.identity ∉ ports.map SerialPort.identity
  /-- Each is taken off once, with its own device, and its device leaves in one pass. -/
  goesOnce : (gone.map fun x => x.device.id).Nodup
  goesOff : ∀ x ∈ gone, x.device ∈ (w.devices b).toList ∧ x.Passes host b .left
  /-- A name is taken anew if it is listed and no port of that name stays. -/
  comes (name : String) : name ∈ (new.map fun x => x.port.name) ↔
    name ∈ ports.map SerialPort.name ∧
      ∀ e ∈ m.attached, e.1.name = name → e.1.identity ∉ ports.map SerialPort.identity
  /-- It is taken once, by the first entry that bears it, in the order of the listing. -/
  comesOnce : (new.map fun x => x.port.name).Nodup
  comesFirst : ∀ x ∈ new, ports.find? (fun p => p.name == x.port.name) = some x.port
  comesInOrder : (new.map Shift.port).Sublist ports
  /-- The device is made for the entry and arrives in one pass. -/
  comesOn : ∀ x ∈ new, x.device = Bus.device x.device.id.val x.port.spec ∧
    x.Passes host b .arrived
  /-- The new devices have greater numbers than all before, and follow one another. -/
  greater : ∀ x ∈ new, ∀ i ∈ past, i.val < x.device.id.val
  numbers : (new.map fun x => x.device.id.val) = List.range' (w.bus b).nextDevice new.length
  /-- Nothing happens but these passes, and departures come before arrivals. -/
  order : out.notices = gone.flatMap (Shift.toldLeft (w.contextOf b)) ++
    new.flatMap (Shift.toldArrived (w.contextOf b))
  /-- Attached afterwards are the ports that stay and those added. -/
  attached (e : SerialPort × DeviceId) : e ∈ m'.attached ↔
    (e ∈ m.attached ∧ e.1.identity ∈ ports.map SerialPort.identity) ∨ e ∈ new.map Shift.entry
  /-- The bus loses the devices of the ports taken off and gains those of the ports added;
  it has no other business. -/
  devices : ∃ rest, (w.devices b).toList.Perm (gone.map Shift.device ++ rest) ∧
    (out.world.devices b).toList = rest ++ new.map Shift.device
  bus : out.world.bus b = { w.bus b with nextDevice := (w.bus b).nextDevice + new.length }
  /-- Another listing of the same entries, in any order and any number of times, changes
  nothing, wherever it is applied. -/
  again : ∀ (ports' : List SerialPort) (attached : List (SerialPort × DeviceId)) (v : World κ τ),
    (∀ k, k ∈ ports'.map SerialPort.identity ↔ k ∈ ports.map SerialPort.identity) →
    attached.Perm m'.attached →
    (Watcher.update host b ports' { m' with attached }).run v =
      { result := some ({ m' with attached }, {}), world := v }

/-- A name is free once the ports that go are gone if no port of that name stays. -/
theorem not_mem_named_removeAll (hn : m.named.Nodup) {name : String} :
    name ∉ (m.removeAll (m.departed ports)).named ↔
      ∀ e ∈ m.attached, e.1.name = name → e.1.identity ∉ ports.map SerialPort.identity := by
  rw [named, List.mem_map]
  constructor
  · exact fun h e he heq hlisted => h ⟨e, (mem_removeAll_departed hn).2 ⟨he, hlisted⟩, heq⟩
  · rintro h ⟨e, he, heq⟩
    obtain ⟨hin, hlisted⟩ := (mem_removeAll_departed hn).1 he
    exact h e hin heq hlisted

/-- New devices have numbers from the next one on. -/
theorem Arrivals.next_le (h : Arrivals host b m ports new w ns w') {x : Shift κ τ}
    (hx : x ∈ new) : (w.bus b).nextDevice ≤ x.device.id.val := by
  have hmem : x.device.id.val ∈ new.map fun x => x.device.id.val := List.mem_map_of_mem hx
  rw [h.numbers] at hmem
  exact (List.mem_range'_1.1 hmem).1

/-- Every name of the listing is attached in the end. -/
theorem Arrivals.mem_named (h : Arrivals host b m ports new w ns w')
    (hattached : m'.attached = m.attached ++ new.map Shift.entry) (hp : p ∈ ports) :
    p.name ∈ m'.named := by
  have hnames : m'.named = m.named ++ new.map fun x => x.port.name := by
    rw [Watcher.named, hattached, List.map_append, List.map_map]
    rfl
  rw [hnames, List.mem_append]
  by_cases htaken : p.name ∈ m.named
  · exact Or.inl htaken
  · exact Or.inr ((h.named p.name).2 ⟨List.mem_map_of_mem hp, htaken⟩)

/-- A poll takes off what departed, and then adds what is new. -/
theorem run_update_of {m₁ m₂ : Watcher} {left arrived : List DeviceId}
    (hleft : ((unplugAll host b (m.departed ports) m).run w).result = some (m₁, left))
    (harrived : ((plugAll host b ports m₁).run
      ((unplugAll host b (m.departed ports) m).run w).world).result = some (m₂, arrived)) :
    (update host b ports m).run w =
      { result := some (m₂, ⟨arrived, left⟩)
        world := ((plugAll host b ports m₁).run
          ((unplugAll host b (m.departed ports) m).run w).world).world
        notices := ((unplugAll host b (m.departed ports) m).run w).notices ++
          ((plugAll host b ports m₁).run
            ((unplugAll host b (m.departed ports) m).run w).world).notices } := by
  rw [update, Act.run_bind_of_result hleft, Act.run_bind_of_result harrived]
  simp only [Act.run_pure, List.append_nil]

/-- A listing of what is attached changes nothing. -/
theorem run_update_of_listed (hlisted : ∀ e ∈ m.attached,
      e.1.identity ∈ ports.map SerialPort.identity)
    (hnamed : ∀ p ∈ ports, p.name ∈ m.named) :
    (update host b ports m).run w = { result := some (m, {}), world := w } := by
  have hnone : m.departed ports = [] := by
    refine List.eq_nil_iff_forall_not_mem.2 fun e he => ?_
    obtain ⟨hin, hno⟩ := mem_departed_iff.1 he
    exact hno (hlisted e hin)
  have hplug : (plugAll host b ports m).run w = { result := some (m, []), world := w } := by
    clear hlisted hnone
    induction ports with
    | nil => rfl
    | cons p rest ih =>
      obtain ⟨hp, hrest⟩ := List.forall_mem_cons.1 hnamed
      rw [plugAll_cons_of_attached (isAttached_iff.2 hp)]
      exact ih hrest
  have hunplug : (unplugAll host b (m.departed ports) m).run w =
      { result := some (m, []), world := w } := by
    rw [hnone]
    rfl
  have hleft : ((unplugAll host b (m.departed ports) m).run w).result = some (m, []) := by
    rw [hunplug]
  have harrived : ((plugAll host b ports m).run
      ((unplugAll host b (m.departed ports) m).run w).world).result = some (m, []) := by
    rw [hunplug, hplug]
  rw [run_update_of hleft harrived, hunplug, hplug]
  rfl

/-- Another listing of what a poll has left changes nothing. -/
theorem run_update_again (h : Arrivals host b m ports new w ns w')
    (hattached : m'.attached = m.attached ++ new.map Shift.entry)
    (hkept : ∀ e ∈ m.attached, e.1.identity ∈ ports.map SerialPort.identity)
    {ports' : List SerialPort} {attached : List (SerialPort × DeviceId)} {v : World κ τ}
    (hsame : ∀ k, k ∈ ports'.map SerialPort.identity ↔ k ∈ ports.map SerialPort.identity)
    (hperm : attached.Perm m'.attached) :
    (update host b ports' { m' with attached }).run v =
      { result := some ({ m' with attached }, {}), world := v } := by
  refine run_update_of_listed (fun e he => (hsame _).2 ?listed) fun p hp => ?named
  case listed =>
    have hin := hperm.mem_iff.1 he
    rw [hattached, List.mem_append] at hin
    rcases hin with hin | hadded
    · exact hkept e hin
    · obtain ⟨x, hx, rfl⟩ := List.mem_map.1 hadded
      exact List.mem_map_of_mem (h.listed.subset (List.mem_map_of_mem hx))
  case named =>
    obtain ⟨q, hq, heq⟩ := List.mem_map.1 ((hsame _).1 (List.mem_map_of_mem hp))
    obtain ⟨hname, -⟩ := SerialPort.identity_eq_iff.1 heq
    rw [← hname]
    exact (hperm.map _).mem_iff.2 (h.mem_named hattached hq)

section Callbacks

variable (hr : ∀ inv, (host.react inv).Obeys (SameDevices b))
variable (hret : ∀ inv, (host.react inv).Returns)
include hr hret

/-- The watcher that a poll leads to keeps its devices on the bus. -/
theorem Keeps.of_update (h : m.Keeps b w) {changes : PortChanges}
    (hok : ((Watcher.update host b ports m).run w).result = some (m', changes)) :
    m'.Keeps b ((Watcher.update host b ports m).run w).world := by
  obtain ⟨k, arrived, hresult, hkeeps, -⟩ :
    ∃ k arrived, ((Watcher.update host b ports m).run w).result = some (k, ⟨arrived, _⟩) ∧ _ :=
      h.update hr hret
  cases hresult.symm.trans hok
  exact hkeeps

/-- **Every poll has its account**, if its watcher keeps its devices on the bus. -/
theorem Keeps.pollAccount (h : m.Keeps b w) {past : List DeviceId}
    (hpast : ∀ i ∈ past, i.val < (w.bus b).nextDevice) (ports : List SerialPort) :
    ∃ m' gone new, PollAccount host b past ports m w m' gone new
      ((Watcher.update host b ports m).run w) := by
  have hsub : (m.departed ports).Sublist m.attached := List.filter_sublist
  have hnodup : ((m.departed ports).map fun e => e.1.name).Nodup :=
    h.distinct.sublist (hsub.map _)
  obtain ⟨hunplug, hkeeps⟩ := h.unplugAll hr hret (fun e he => hsub.subset he) hnodup
  obtain ⟨gone, hgone⟩ := h.departures hr hret (fun e he => hsub.subset he) hnodup
  obtain ⟨m', new, hplug, hattached, hnew⟩ :
    ∃ m' new, ((Watcher.plugAll host b ports (m.removeAll (m.departed ports))).run _).result =
      some (m', _) ∧ _ := hkeeps.arrivals hr hret
  have hentries := hgone.entries
  have hids : (gone.map fun x => x.device.id) = (m.departed ports).map Prod.snd := by
    rw [← hentries, List.map_map]
    rfl
  have hheld : m.held.Nodup := h.held_perm.nodup_iff.2 h.nodup
  have hlt : ∀ e ∈ m.attached, e.2.val < (w.bus b).nextDevice := fun e he =>
    h.lt _ (h.held_perm.mem_iff.1 (List.mem_map_of_mem he))
  have hnext : ∀ x ∈ new, (w.bus b).nextDevice ≤ x.device.id.val := by
    intro x hx
    have hle := hnew.next_le hx
    rwa [hgone.bus] at hle
  have hafter : ∀ e, e ∈ m'.attached ↔
      (e ∈ m.attached ∧ e.1.identity ∈ ports.map SerialPort.identity) ∨
        e ∈ new.map Shift.entry := by
    intro e
    rw [hattached, List.mem_append, mem_removeAll_departed h.distinct]
  rw [run_update_of hunplug hplug]
  refine ⟨m', gone, new, ?result, ?stays, ?goes, ?goesOnce, ?goesOff, ?comes, hnew.distinct,
    hnew.first, hnew.listed, fun x hx => ⟨hnew.made x hx, hnew.passes x hx⟩, ?greater,
    ?numbers, ?order, hafter, ?devices, ?bus, ?again⟩
  case result => rw [hids]
  case stays =>
    intro e he hlisted
    have hkept := (mem_removeAll_departed h.distinct).2 ⟨he, hlisted⟩
    obtain ⟨d, hd, hid, -⟩ := hkeeps.exists_device hkept
    refine ⟨(hafter e).2 (Or.inl ⟨he, hlisted⟩), ?_, fun x hx => ?_⟩
    · rw [← hid]
      refine List.mem_map_of_mem ?_
      rw [hnew.devices]
      exact List.mem_append_left _ hd
    · rcases List.mem_append.1 hx with hx | hx
      · have hentry : x.entry ∈ m.departed ports := hentries ▸ List.mem_map_of_mem hx
        exact h.apart_of_departed he hlisted hentry
      · refine ⟨fun heq => ?_, fun heq => ?_⟩
        · obtain ⟨-, hfree⟩ := (hnew.named _).1 (List.mem_map_of_mem hx)
          exact (not_mem_named_removeAll h.distinct).1 hfree e he heq.symm hlisted
        · have hge := hnext x hx
          have hlt := hlt e he
          rw [heq] at hge
          omega
  case goes =>
    intro e
    rw [hentries]
    exact mem_departed_iff
  case goesOnce =>
    rw [hids]
    exact hheld.sublist (hsub.map _)
  case goesOff =>
    refine fun x hx => ⟨?_, hgone.passes x hx⟩
    exact hgone.devices.mem_iff.2 (List.mem_append_left _ (List.mem_map_of_mem hx))
  case comes =>
    intro name
    rw [hnew.named, not_mem_named_removeAll h.distinct]
  case greater => exact fun x hx i hi => Nat.lt_of_lt_of_le (hpast i hi) (hnext x hx)
  case numbers => rw [hnew.numbers, hgone.bus]
  case order =>
    have hcontext : ((Watcher.unplugAll host b (m.departed ports) m).run w).world.contextOf b =
        w.contextOf b := by
      rw [World.contextOf, hgone.bus]
      rfl
    rw [← hgone.told, ← hcontext, ← hnew.told]
  case devices => exact ⟨_, hgone.devices, hnew.devices⟩
  case bus =>
    rw [hnew.bus, hgone.bus]
  case again =>
    intro ports' attached v hsame hperm
    have hkept : ∀ e ∈ (m.removeAll (m.departed ports)).attached,
        e.1.identity ∈ ports.map SerialPort.identity := fun e he =>
      ((mem_removeAll_departed h.distinct).1 he).2
    exact run_update_again hnew hattached hkept hsame hperm

end Callbacks

/-! ## Polls -/

/-- The devices that polls of a bus have added so far, with the watchers that they lead
to and the worlds that they leave. The attached ports have no order of their own, and
between polls anything may happen that leaves the devices of the bus alone. -/
inductive Polled (host : Host κ τ) (b : BusId) (start : World κ τ) :
    List DeviceId → Watcher → World κ τ → Prop
  | start (patterns : List String) :
      Polled host b start [] { skipPatterns := patterns } start
  | update {past : List DeviceId} {m m' : Watcher} {w : World κ τ} {changes : PortChanges}
      (ports : List SerialPort) : Polled host b start past m w →
      ((Watcher.update host b ports m).run w).result = some (m', changes) →
      Polled host b start (past ++ changes.arrived) m' ((Watcher.update host b ports m).run w).world
  | reorder {past : List DeviceId} {m : Watcher} {w : World κ τ}
      {attached : List (SerialPort × DeviceId)} :
      Polled host b start past m w → attached.Perm m.attached →
      Polled host b start past { m with attached } w
  | meanwhile {past : List DeviceId} {m : Watcher} {w w' : World κ τ} {ns : List Notice} :
      Polled host b start past m w → SameDevices b w ns w' → Polled host b start past m w'

section Callbacks

variable {start : World κ τ} {past : List DeviceId}
variable (hr : ∀ inv, (host.react inv).Obeys (SameDevices b))
variable (hret : ∀ inv, (host.react inv).Returns)
include hr hret

/-- After polls the watcher keeps its devices on the bus, under numbers less than the
next. -/
theorem Polled.keeps (hstart : (start.devices b).toList = []) (h : Polled host b start past m w) :
    m.Keeps b w ∧ ∀ i ∈ past, i.val < (w.bus b).nextDevice := by
  induction h with
  | start patterns =>
    refine ⟨⟨List.nodup_nil, ?_, ?_, ?_⟩, List.forall_mem_nil _⟩
    all_goals simp [hstart, Roster.ids]
  | update ports _ hok ih =>
    obtain ⟨hkeeps, hpast⟩ := ih
    obtain ⟨_, gone, new, haccount⟩ := hkeeps.pollAccount hr hret hpast ports
    have hkeeps' := hkeeps.of_update hr hret hok
    obtain ⟨rfl, hchanges⟩ := Prod.mk.inj (Option.some.inj (hok.symm.trans haccount.result))
    refine ⟨hkeeps', fun i hi => ?_⟩
    rw [hchanges] at hi
    rw [haccount.bus]
    rcases List.mem_append.1 hi with hi | hi
    · exact Nat.lt_of_lt_of_le (hpast i hi) (Nat.le_add_right _ _)
    · obtain ⟨x, hx, rfl⟩ := List.mem_map.1 hi
      have hmem : x.device.id.val ∈ new.map fun x => x.device.id.val := List.mem_map_of_mem hx
      rw [haccount.numbers] at hmem
      exact (List.mem_range'_1.1 hmem).2
  | reorder _ hperm ih => exact ⟨ih.1.of_perm hperm, ih.2⟩
  | meanwhile _ hsame ih => exact ⟨ih.1.of_same hsame, by rw [hsame.bus]; exact ih.2⟩

/-- **Every poll applies exactly the difference**, departures first, whatever listings
came before and whatever the listing tells of a name. -/
theorem Polled.applies_difference (hstart : (start.devices b).toList = [])
    (h : Polled host b start past m w) (ports : List SerialPort) :
    ∃ m' gone new, PollAccount host b past ports m w m' gone new
      ((Watcher.update host b ports m).run w) := by
  obtain ⟨hkeeps, hpast⟩ := h.keeps hr hret hstart
  exact hkeeps.pollAccount hr hret hpast ports

end Callbacks

/-- Polls of listings are such polls: what a listing has beside USB ports, and what is
skipped, plays no part. -/
theorem Reached.polled {patterns : List String} {start : World κ τ}
    (h : Reached host b patterns start m w) : ∃ past, Polled host b start past m w := by
  induction h with
  | start => exact ⟨[], .start patterns⟩
  | @poll m m' w answer listing _ hok ih =>
    obtain ⟨past, hpolled⟩ := ih
    rcases listing with error | listed
    · cases hok
      exact ⟨past, hpolled⟩
    · rcases hupdate : ((Watcher.update host b (m.choose listed) m).run w).result with _ | a
      · rw [Watcher.poll, Act.run_bind, Effect.andThen, hupdate] at hok
        cases hok
      · rw [Watcher.poll, Act.run_bind_of_result hupdate] at hok ⊢
        cases hok
        exact ⟨_, hpolled.update _ hupdate⟩
  | reorder _ hperm ih =>
    obtain ⟨past, hpolled⟩ := ih
    exact ⟨past, hpolled.reorder hperm⟩
  | meanwhile _ hsame ih =>
    obtain ⟨past, hpolled⟩ := ih
    exact ⟨past, hpolled.meanwhile hsame⟩

/-- Two ports, the first listed with two devices. -/
def twoPorts : List SerialPort :=
  [⟨"tty0", 1, 1, none, none⟩, ⟨"tty0", 2, 2, none, none⟩, ⟨"tty1", 3, 3, none, none⟩]

/-- Other devices at the first port, another device beside that at the second, and a
third port. -/
def threePorts : List SerialPort :=
  [⟨"tty0", 2, 2, none, none⟩, ⟨"tty1", 4, 4, none, none⟩, ⟨"tty2", 5, 5, none, none⟩,
    ⟨"tty0", 6, 6, none, none⟩, ⟨"tty1", 3, 3, none, none⟩]

/-- The first port is taken off and added with the first of its new devices, the second
stays, and the third is added. -/
theorem difference_of_threePorts :
    ∃ m w m' gone new, Polled Host.idle ⟨1⟩ Act.oneBus [⟨1⟩, ⟨2⟩] m w ∧
      PollAccount .idle ⟨1⟩ [⟨1⟩, ⟨2⟩] threePorts m w m' gone new
        ((Watcher.update .idle ⟨1⟩ threePorts m).run w) ∧
      ((Watcher.update .idle ⟨1⟩ threePorts m).run w).result.map Prod.snd =
        some ⟨[⟨3⟩, ⟨4⟩], [⟨1⟩]⟩ := by
  have hidle : ∀ inv, (Host.idle.react inv : Act Unit Unit Wish).Obeys (SameDevices ⟨1⟩) :=
    fun _ => Act.obeys_pure _
  have hret : ∀ inv, (Host.idle.react inv : Act Unit Unit Wish).Returns :=
    fun _ => Act.returns_pure _
  have hfirst : ((Watcher.update .idle ⟨1⟩ twoPorts {}).run Act.oneBus).result =
      some (_, ⟨[⟨1⟩, ⟨2⟩], []⟩) := rfl
  have hpolled : Polled Host.idle ⟨1⟩ Act.oneBus [⟨1⟩, ⟨2⟩] _ _ :=
    (Polled.start []).update twoPorts hfirst
  obtain ⟨m', gone, new, haccount⟩ := hpolled.applies_difference hidle hret rfl threePorts
  exact ⟨_, _, m', gone, new, hpolled, haccount, rfl⟩

end Watcher
end DeviceWatch
