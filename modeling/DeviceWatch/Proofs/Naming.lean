import DeviceWatch.Proofs.Disconnection
import DeviceWatch.Proofs.Leading
/-!
# Names of a replay

A replay gives names to the devices that it plugs in. The handles that it opens
under a name outlive the device: if the device was unplugged and another one goes
by the name now, the oldest handle of the name may still be one on the device that
left. A transfer that fails on such a stale handle makes no device leave, but the
step gives up the name all the same, and then no name leads to the device that
went by it. Apart from this the names mirror the devices on the bus.
-/

namespace DeviceWatch

variable {κ τ : Type}

namespace Replay

/-- **The names of a replay mirror the devices** on its bus. -/
structure Mirrors (r : Replay) (devices : Roster) : Prop where
  /-- No device goes by two names. -/
  distinct : r.named.Nodup
  /-- The devices that go by a name are those on the bus. -/
  exact (i : DeviceId) : i ∈ r.named ↔ i ∈ devices.ids
  /-- A name leads to every device on the bus. -/
  reachable : ∀ i ∈ devices.ids, ∃ name, r.device? name = some i

/-- Whether the step fails a transfer on a handle that was opened on another device
than the one that goes by the name now. -/
def stale (r : Replay) : Step → Bool
  | .transferFailed name =>
    match r.takeHandle? name, r.device? name with
    | some (h, _), some i => h.device.id != i
    | _, _ => false
  | _ => false

/-- The replays that successful steps on a bus lead to, and the worlds that they
leave. The past is the list of the steps taken, each with the replay that it was
taken from. -/
inductive Reached (host : Host κ τ) (b : BusId) (start : World κ τ) :
    List (Replay × Step) → Replay → World κ τ → Prop
  | start : Reached host b start [] {} start
  | step {past : List (Replay × Step)} {r r' : Replay} {w : World κ τ} (step : Step) :
      Reached host b start past r w → ((apply host b r step).run w).result = some (.ok r') →
      Reached host b start (past ++ [(r, step)]) r' ((apply host b r step).run w).world

end Replay

namespace Bench

/-- **What holds of a bench** as long as no step was stale. -/
structure Sound (s : Bench) : Prop where
  unambiguous : s.replay.Unambiguous
  distinct : s.replay.named.Nodup
  exact (i : DeviceId) : i ∈ s.replay.named ↔ i ∈ s.devices.ids
  /-- No two devices share an identity. -/
  nodup : s.devices.ids.Nodup
  /-- The number of the next device is new. -/
  lt : ∀ i ∈ s.devices.ids, i.val < s.next
  opened_lt : ∀ e ∈ s.replay.handles, e.2.device.id.val < s.next
  /-- If the device of a handle is on the bus, it goes by the handle's name. -/
  own : ∀ e ∈ s.replay.handles, e.2.device.id ∈ s.devices.ids →
    (e.1, e.2.device.id) ∈ s.replay.names

namespace Sound

variable {s s' : Bench} {name : String} {i : DeviceId} {h : OpenHandle} {step : Step}

theorem mirrors (hs : s.Sound) : s.replay.Mirrors s.devices where
  distinct := hs.distinct
  exact := hs.exact
  reachable i hi := by
    obtain ⟨⟨name, j⟩, hmem, rfl⟩ := List.mem_map.1 ((hs.exact i).2 hi)
    exact ⟨name, Replay.device?_of_mem hs.unambiguous hmem⟩

/-- A name leads to one device only, and one name only leads to it. -/
theorem eq_iff (hs : s.Sound) (hname : s.replay.device? name = some i) {e : String × DeviceId}
    (he : e ∈ s.replay.names) : e.1 = name ↔ e.2 = i := by
  have hmem := Replay.mem_of_device? hname
  constructor
  · exact fun heq => congrArg Prod.snd (List.inj_on_of_nodup_map hs.unambiguous he hmem heq)
  · exact fun heq => congrArg Prod.fst (List.inj_on_of_nodup_map hs.distinct he hmem heq)

/-- Names that mirror the devices lead to devices. -/
theorem leads (hs : s.Sound) : s.Leads where
  unambiguous := hs.unambiguous
  distinct := hs.distinct
  attached i := (hs.exact i).1
  nodup := hs.nodup
  lt := hs.lt
  opened_lt := hs.opened_lt
  own e he x hx heq := by
    have hown := hs.own e he (heq ▸ (hs.exact x.2).1 (List.mem_map_of_mem hx))
    exact congrArg Prod.fst (List.inj_on_of_nodup_map hs.distinct hx hown heq)

/-- Names that lead to devices mirror them if every device has one, and every device of a
handle the handle's. -/
theorem of_leads (hl : s.Leads) (hexact : ∀ i ∈ s.devices.ids, i ∈ s.replay.named)
    (hown : ∀ e ∈ s.replay.handles, e.2.device.id ∈ s.devices.ids →
      (e.1, e.2.device.id) ∈ s.replay.names) : s.Sound :=
  ⟨hl.unambiguous, hl.distinct, fun i => ⟨hl.attached i, hexact i⟩, hl.nodup, hl.lt,
    hl.opened_lt, hown⟩

/-- The device of a name leaves, and the name is given up. -/
theorem leave (hs : s.Sound) (hl : s'.Leads) (hname : s.replay.device? name = some i)
    {d : Device} (hdetach : s.devices.detach? i = some (d, s'.devices))
    (hnames : s'.replay.names = (s.replay.dropName name).names)
    (hhandles : ∀ e ∈ s'.replay.handles, e ∈ s.replay.handles) : s'.Sound := by
  have hids : ∀ {j}, j ∈ s'.devices.ids ↔ j ∈ s.devices.ids ∧ j ≠ i :=
    Roster.mem_ids_of_detach? hs.nodup hdetach
  refine of_leads hl (fun j hj => ?_) fun e he hin => ?_
  · obtain ⟨hin, hne⟩ := hids.1 hj
    obtain ⟨e, he, rfl⟩ := List.mem_map.1 ((hs.exact j).2 hin)
    rw [Replay.named, hnames]
    refine List.mem_map_of_mem (Replay.mem_names_dropName.2 ⟨he, fun heq => hne ?_⟩)
    exact (hs.eq_iff hname he).1 heq
  · obtain ⟨hin, hne⟩ := hids.1 hin
    have hown := hs.own e (hhandles e he) hin
    rw [hnames, Replay.mem_names_dropName]
    exact ⟨hown, fun heq => hne ((hs.eq_iff hname hown).1 heq)⟩

/-- The device of a handle goes by the handle's name, if it is on the bus. -/
theorem device?_of_attached (hs : s.Sound) (hh : (name, h) ∈ s.replay.handles)
    (hin : h.device.id ∈ s.devices.ids) : s.replay.device? name = some h.device.id :=
  Replay.device?_of_mem hs.unambiguous (hs.own _ hh hin)

/-- Handles may be used up. -/
theorem of_handles (hs : s.Sound) (hl : s'.Leads) (hdevices : s'.devices = s.devices)
    (hnames : s'.replay.names = s.replay.names)
    (hhandles : ∀ e ∈ s'.replay.handles, e ∈ s.replay.handles) : s'.Sound := by
  refine of_leads hl (fun i hi => ?_) fun e he hin => ?_
  · rw [Replay.named, hnames]
    exact (hs.exact i).2 (hdevices ▸ hi)
  · rw [hnames]
    exact hs.own e (hhandles e he) (hdevices ▸ hin)

/-- A device under the next number gets a name that is free. -/
theorem plug (hs : s.Sound) (hl : s'.Leads) {d : Device} (hd : d.id.val = s.next)
    (hdevices : s'.devices = s.devices.attach d)
    (hnames : s'.replay.names = s.replay.names ++ [(name, d.id)])
    (hhandles : s'.replay.handles = s.replay.handles) : s'.Sound := by
  have hnew : d.id ∉ s.devices.ids := fun hmem => Nat.lt_irrefl _ (hd ▸ hs.lt _ hmem)
  have hids : s'.devices.ids = s.devices.ids ++ [d.id] := by
    rw [hdevices, Roster.ids_attach_of_not_mem hnew]
  refine of_leads hl (fun i hi => ?_) fun e he hin => ?_
  · rw [hids] at hi
    rw [Replay.named, hnames, List.map_append]
    exact List.mem_append.2 ((List.mem_append.1 hi).imp_left (hs.exact i).2)
  · -- A handle opened before is on a device with a lower number.
    rw [hhandles] at he
    rw [hids] at hin
    rw [hnames]
    rcases List.mem_append.1 hin with hin | hin
    · exact List.mem_append_left _ (hs.own e he hin)
    · have hlt := hs.opened_lt e he
      rw [List.mem_singleton.1 hin, hd] at hlt
      exact absurd hlt (Nat.lt_irrefl _)

/-- A handle is opened on the device of a name. -/
theorem openHandle (hs : s.Sound) (hl : s'.Leads) (hname : s.replay.device? name = some i)
    (hget : s.devices.get? i = some h.device) (hdevices : s'.devices = s.devices)
    (hnames : s'.replay.names = s.replay.names)
    (hhandles : s'.replay.handles = s.replay.handles ++ [(name, h)]) : s'.Sound := by
  have hid : h.device.id = i := Roster.id_of_get? hget
  refine of_leads hl (fun j hj => ?_) fun e he hin => ?_
  · rw [Replay.named, hnames]
    exact (hs.exact j).2 (hdevices ▸ hj)
  · rw [hhandles] at he
    rw [hdevices] at hin
    rw [hnames]
    rcases List.mem_append.1 he with he | he
    · exact hs.own e he hin
    · rw [List.mem_singleton.1 he, hid]
      exact Replay.mem_of_device? hname

/-- The failure of a transfer on a handle whose device has left is stale if and only
if another device goes by the name. -/
theorem stale_iff_of_away (hs : s.Sound) {r : Replay}
    (htake : s.replay.takeHandle? name = some (h, r)) (haway : h.device.id ∉ s.devices.ids) :
    s.replay.stale (.transferFailed name) = true ↔ ∃ i, s.replay.device? name = some i := by
  rcases hname : s.replay.device? name with _ | i
  · simp [Replay.stale, htake, hname]
  · have hin : i ∈ s.devices.ids :=
      (hs.exact i).1 (List.mem_map_of_mem (Replay.mem_of_device? hname))
    have hne : h.device.id ≠ i := fun heq => haway (heq ▸ hin)
    simp [Replay.stale, htake, hname, hne]

/-- **A step that is not stale keeps the bench sound.** -/
theorem takes (hs : s.Sound) (h : s.Takes step s') (hstep : s.replay.stale step = false) :
    s'.Sound := by
  have hl : s'.Leads := hs.leads.takes h
  cases h with
  | plug d tally hfree hd => exact hs.plug hl hd rfl rfl rfl
  | unplug tally hname hdetach => exact hs.leave hl hname hdetach rfl fun _ => id
  | openHandle hname hget => exact hs.openHandle hl hname hget rfl rfl rfl
  | closeHandle htake =>
    obtain ⟨-, hnames, hhandles⟩ := Replay.of_takeHandle? htake
    exact hs.of_handles hl rfl hnames hhandles
  | @transferFailed name h r d rest tally htake hdetach =>
    -- The handle's device is there, so the name leads to it.
    obtain ⟨hmem, -, hhandles⟩ := Replay.of_takeHandle? htake
    have hname := hs.device?_of_attached hmem (Roster.mem_ids_of_detach?_eq_some hdetach)
    exact hs.leave hl hname hdetach (Replay.names_dropName_of_take htake name) hhandles
  | @transferFailedAway name h r tally htake hdetach =>
    -- No device goes by the name, so there is nothing to give up.
    obtain ⟨-, -, hhandles⟩ := Replay.of_takeHandle? htake
    have haway := Roster.detach?_eq_none_iff.1 hdetach
    have hfree : s.replay.device? name = none := by
      rw [Option.eq_none_iff_forall_not_mem]
      intro i hi
      rw [(hs.stale_iff_of_away htake haway).2 ⟨i, hi⟩] at hstep
      cases hstep
    refine hs.of_handles hl rfl ?_ hhandles
    exact (Replay.names_dropName_of_take htake name).trans (Replay.names_dropName_of_free hfree)
  | sleep => exact hs.of_handles hl rfl rfl fun _ => id

/-- A failure that is stale leaves a device on the bus to which no name leads any
more. -/
theorem of_stale (hs : s.Sound) (h : s.Takes step s') (hstep : s.replay.stale step = true) :
    ∃ i ∈ s'.devices.ids, i ∉ s'.replay.named := by
  cases h with
  | @transferFailed name h r d rest tally htake hdetach =>
    -- If the handle's device is there the failure is not stale.
    obtain ⟨hmem, -⟩ := Replay.of_takeHandle? htake
    have hname := hs.device?_of_attached hmem (Roster.mem_ids_of_detach?_eq_some hdetach)
    simp [Replay.stale, htake, hname] at hstep
  | @transferFailedAway name h r tally htake hdetach =>
    have haway := Roster.detach?_eq_none_iff.1 hdetach
    obtain ⟨i, hname⟩ := (hs.stale_iff_of_away htake haway).1 hstep
    have hmem := List.mem_map_of_mem (f := Prod.snd) (Replay.mem_of_device? hname)
    refine ⟨i, (hs.exact i).1 hmem, fun hnamed => ?_⟩
    obtain ⟨e, he, heq⟩ := List.mem_map.1 hnamed
    have hdrop := Replay.names_dropName_of_take htake name
    obtain ⟨he, hne⟩ := Replay.mem_names_dropName.1 (hdrop ▸ he)
    exact hne ((hs.eq_iff hname he).2 heq)
  | _ => cases hstep

/-- The device of a name leaves by a failed transfer, unless the failure is stale. -/
theorem leaves_iff (hs : s.Sound) (h : s.Takes (.transferFailed name) s')
    (hname : s.replay.device? name = some i) :
    i ∉ s'.devices.ids ↔ s.replay.stale (.transferFailed name) = false := by
  cases h with
  | @transferFailed name h r d rest tally htake hdetach =>
    obtain ⟨hmem, -⟩ := Replay.of_takeHandle? htake
    have hown := hs.device?_of_attached hmem (Roster.mem_ids_of_detach?_eq_some hdetach)
    obtain rfl : i = h.device.id := Option.some.inj (hname.symm.trans hown)
    refine iff_of_true (fun hin => ?_) (by simp [Replay.stale, htake, hname])
    exact ((Roster.mem_ids_of_detach? hs.nodup hdetach).1 hin).2 rfl
  | @transferFailedAway name h r tally htake hdetach =>
    have haway := Roster.detach?_eq_none_iff.1 hdetach
    have hin : i ∈ s.devices.ids :=
      (hs.exact i).1 (List.mem_map_of_mem (Replay.mem_of_device? hname))
    refine iff_of_false (fun hno => hno hin) ?_
    rw [(hs.stale_iff_of_away htake haway).2 ⟨i, hname⟩]
    exact nofun

end Sound
end Bench

/-! ## Runs -/

namespace Replay

variable {host : Host κ τ} {b : BusId} {start w : World κ τ} {past : List (Replay × Step)}
variable {r : Replay}

theorem Reached.sound (hr : ∀ inv, (host.react inv).Obeys (SameDevices b))
    (hstart : (start.devices b).ids = []) (h : Reached host b start past r w)
    (hpast : ∀ p ∈ past, p.1.stale p.2 = false) : (w.bench b r).Sound := by
  induction h with
  | start =>
    refine ⟨List.nodup_nil, List.nodup_nil, fun i => ?_, ?_, ?_, nofun, nofun⟩
    all_goals simp [World.bench, hstart, named]
  | step _ h hok ih =>
    rw [List.forall_mem_append, List.forall_mem_singleton] at hpast
    exact (ih hpast.1).takes (takes_of_apply hr hok) hpast.2

/-- **The names of a replay mirror the devices on its bus**, as long as no transfer
failed on a stale handle; and the first failure of that kind leaves a device on the
bus that has no name. -/
theorem Reached.names_mirror (hr : ∀ inv, (host.react inv).Obeys (SameDevices b))
    (hstart : (start.devices b).ids = []) (h : Reached host b start past r w)
    (hpast : ∀ p ∈ past, p.1.stale p.2 = false) :
    r.Mirrors (w.devices b) ∧
      ∀ step r', ((apply host b r step).run w).result = some (.ok r') →
        (r'.Mirrors (((apply host b r step).run w).world.devices b) ↔ r.stale step = false) ∧
        ∀ name i, step = .transferFailed name → r.device? name = some i →
          (i ∉ (((apply host b r step).run w).world.devices b).ids ↔ r.stale step = false) := by
  have hs := h.sound hr hstart hpast
  refine ⟨hs.mirrors, fun step r' hok => ⟨⟨fun hmirrors => ?_, fun hstep => ?_⟩, ?_⟩⟩
  · rw [← Bool.not_eq_true]
    intro hstale
    obtain ⟨i, hin, hno⟩ := hs.of_stale (takes_of_apply hr hok) hstale
    exact hno ((hmirrors.exact i).2 hin)
  · exact (hs.takes (takes_of_apply hr hok) hstep).mirrors
  · rintro name i rfl hname
    exact hs.leaves_iff (takes_of_apply hr hok) hname

/-- A name is used again after a transfer failed on the handle that was left on its
former device, and one more transfer fails on the device that has the name now. -/
theorem names_mirror_after_reuse :
    ∃ past r w, Reached Host.idle ⟨1⟩ Act.oneBus past r w ∧
      past.map Prod.snd = [.plug "a" 1 1 0, .openHandle "a", .unplug "a", .transferFailed "a",
        .plug "a" 1 1 0, .plug "b" 1 1 0, .openHandle "a", .transferFailed "a"] ∧
      r.names = [("b", ⟨3⟩)] ∧ r.Mirrors (w.devices ⟨1⟩) := by
  have hidle : ∀ inv, (Host.idle.react inv : Act Unit Unit Wish).Obeys (SameDevices ⟨1⟩) :=
    fun _ => Act.obeys_pure _
  have hleft : Reached Host.idle ⟨1⟩ Act.oneBus _ _ _ :=
    Reached.start.step (.plug "a" 1 1 0) rfl |>.step (.openHandle "a") rfl
      |>.step (.unplug "a") rfl |>.step (.transferFailed "a") rfl
  have hreached : Reached Host.idle ⟨1⟩ Act.oneBus _ _ _ :=
    hleft.step (.plug "a" 1 1 0) rfl |>.step (.plug "b" 1 1 0) rfl |>.step (.openHandle "a") rfl
      |>.step (.transferFailed "a") rfl
  refine ⟨_, _, _, hreached, rfl, rfl, ?_⟩
  obtain ⟨hmirrors, -⟩ := hreached.names_mirror hidle rfl (by decide)
  exact hmirrors

/-- A name is used again while a handle on its former device is left, and a transfer
fails on that handle: the device that went by the name is still on the bus, and
no name leads to it. -/
theorem not_mirrors_of_reuse :
    ∃ past r w, Reached Host.idle ⟨1⟩ Act.oneBus past r w ∧
      past.map Prod.snd = [.plug "a" 1 1 0, .openHandle "a", .unplug "a", .plug "a" 1 1 0,
        .transferFailed "a"] ∧
      ¬ r.Mirrors (w.devices ⟨1⟩) := by
  have hreached : Reached Host.idle ⟨1⟩ Act.oneBus _ _ _ :=
    Reached.start.step (.plug "a" 1 1 0) rfl |>.step (.openHandle "a") rfl
      |>.step (.unplug "a") rfl |>.step (.plug "a" 1 1 0) rfl |>.step (.transferFailed "a") rfl
  refine ⟨_, _, _, hreached, rfl, fun hmirrors => ?_⟩
  have hnamed := (hmirrors.exact ⟨2⟩).2 (List.mem_singleton_self _)
  exact List.not_mem_nil hnamed

end Replay
end DeviceWatch
