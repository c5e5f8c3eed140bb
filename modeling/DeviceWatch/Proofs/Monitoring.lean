import DeviceWatch.Monitor
import DeviceWatch.Proofs.Balance
import DeviceWatch.Proofs.Registration
import DeviceWatch.Proofs.Rehearsal
import DeviceWatch.Proofs.Replay
import DeviceWatch.Proofs.Selection
/-!
# What the monitor reports of a replay

The monitor registers one callback, which only listens, and replays its scenario before
it. So the replay goes as rehearsed: the lines on devices that came or went are those on
the changes that the monitor listens for, in order, and its report counts them. What it
counts besides are the handles that the platform gave up.
-/

namespace DeviceWatch

variable {κ τ : Type}

/-! ## Lines on devices -/

/-- Whether a line begins with a text. -/
def Line.begins (l : Line) (start : String) : Bool :=
  start.toList.isPrefixOf l.message.toList

/-- Whether a line tells of a device that came or went. -/
def Line.ofDevice (l : Line) : Bool :=
  l.begins "Device arrived: " || l.begins "Device left: "

/-- The line on an event at a device. -/
def Line.ofEvent (change : Device × Event) : Line :=
  { message := eventText change.1 change.2 }

namespace Line

theorem begins_append {start rest : String} {level : Level} :
    begins { level, message := start ++ rest } start = true := by
  rw [begins, List.isPrefixOf_iff_prefix, String.toList_append]
  exact List.prefix_append _ _

theorem ofDevice_ofEvent (change : Device × Event) : (ofEvent change).ofDevice = true := by
  obtain ⟨d, e⟩ := change
  rw [ofDevice, Bool.or_eq_true]
  cases e with
  | arrived =>
    have htext : eventText d .arrived = "Device arrived: " ++ d.text ++ " (" ++ vendorText d ++ ", "
      ++ UsbCodes.className d.deviceClass ++ ")" := rfl
    rw [ofEvent, htext, String.append_assoc, String.append_assoc, String.append_assoc,
      String.append_assoc, String.append_assoc]
    exact Or.inl begins_append
  | left =>
    have htext : eventText d .left = "Device left: " ++ d.text ++ " (" ++ vendorText d ++ ")" := rfl
    rw [ofEvent, htext, String.append_assoc, String.append_assoc, String.append_assoc]
    exact Or.inr begins_append

/-- A line that begins with another letter tells of no device. -/
theorem not_ofDevice_of_head {l : Line} (h : l.message.toList.head? ≠ some 'D') :
    l.ofDevice = false := by
  have hno : ∀ rest, l.begins (String.ofList ('D' :: rest)) = false := by
    intro rest
    rw [← Bool.not_eq_true, begins, List.isPrefixOf_iff_prefix, String.toList_ofList]
    rintro ⟨more, hmore⟩
    rw [← hmore] at h
    exact h rfl
  exact Bool.or_eq_false_iff.2 ⟨hno "evice arrived: ".toList, hno "evice left: ".toList⟩

end Line

/-- Remarks that tell of no device. -/
def Notice.Discreet : Notice → Prop
  | .remark l => l.ofDevice = false
  | _ => True

theorem Notice.discreet_of_acted {n : Notice} (h : ∀ l, n ≠ .remark l) : n.Discreet := by
  cases n with
  | remark l => exact absurd rfl (h l)
  | _ => trivial

/-- Only a delivery gives a line on a device. -/
theorem Notice.ofDevice_line? {n : Notice} {l : Line} (hline : n.line? = some l) (hn : n.Discreet)
    (hno : ∀ c o d e, n ≠ .delivered c o d e) : l.ofDevice = false := by
  cases n with
  | delivered c o d e => exact absurd rfl (hno c o d e)
  | remark m =>
    obtain rfl := Option.some.inj hline
    exact hn
  | _ =>
    first
    | cases hline; done
    | obtain rfl := Option.some.inj hline
      refine Line.not_ofDevice_of_head ?_
      simp [String.toList_append]

/-- **The lines on devices are those on what callbacks were told.** -/
theorem lines_ofDevice {ns : List Notice} (h : ∀ n ∈ ns, n.Discreet) :
    (ns.filterMap Notice.line?).filter Line.ofDevice = (heard ns).map Line.ofEvent := by
  rw [heard, List.filter_filterMap, List.map_filterMap]
  refine List.filterMap_congr fun n hn => ?_
  have hother : (∀ c o d e, n ≠ .delivered c o d e) → n.line?.filter Line.ofDevice = none := by
    intro hno
    rcases hline : n.line? with _ | l
    · rfl
    · rw [Option.filter_some, n.ofDevice_line? hline (h n hn) hno]
      rfl
  cases n with
  | delivered c o d e =>
    have hline : (Notice.delivered c o d e).line? = some (Line.ofEvent (d, e)) := rfl
    rw [hline, Option.filter_some, Line.ofDevice_ofEvent]
    rfl
  | _ => exact hother nofun

/-! ## Replays -/

namespace Replay

variable {host : Host κ τ} {b : BusId} {c : ContextId} {r : Replay} {step : Step}
variable {steps : List Step} {place : Nat} {w : World κ τ}

theorem apply_within (hhost : host.Within Repertoire.Calm) :
    (apply host b r step).Within Repertoire.Calm :=
  Act.closed_within.apply fun hx => .op host hhost hx

theorem runFrom_within (hhost : host.Within Repertoire.Calm) :
    (runFrom host b place steps r).Within Repertoire.Calm := by
  induction steps generalizing place r with
  | nil => exact .pure _
  | cons step rest ih =>
    rw [runFrom_cons]
    refine .bind (apply_within hhost) fun answer => ?_
    rcases answer with e | r'
    · exact .pure _
    · exact ih

end Replay

/-- What a context's platform gave up is what the passes over its callbacks count. -/
theorem Act.Within.length_record {α : Type} {c : ContextId} {w : World κ τ} {x : Act κ τ α}
    (hx : x.Within Repertoire.Any) (hw : w.Unopened c) :
    ((x.run w).world.record c).length = tallied c (x.run w).notices := by
  obtain ⟨hotplug, hp⟩ := hw.simulated
  obtain ⟨-, hrecord⟩ := (hx.records w).agrees [] hw.agrees
  obtain ⟨-, htally⟩ : _ ∧ tallied c _ = _ := hx.tallies w ⟨hotplug, [], hp⟩
  have hnil : w.record c = [] := by
    rw [World.record, hp]
    rfl
  rw [hnil, List.map_nil, List.nil_append] at hrecord
  rw [htally, ← hrecord, List.length_map]

/-! ## The monitor -/

namespace Monitor

variable {input : Input} {settings : MonitorSettings} {w : World Unit Unit}

theorem listens_host : host.Listens :=
  fun _ => rfl

theorem check_request : (request settings).check = .ok (settings.filter, ()) := by
  have hselector : (request settings).selector = .ofFilter settings.filter := rfl
  have hprogram : (request settings).program = some () := rfl
  rw [Request.check, hselector, Selector.check_ofFilter, hprogram]

/-- The world of a monitor that has made its context and its bus. -/
def stage (settings : MonitorSettings) : World Unit Unit :=
  ((World.addContext { memory := () } (.simulated true []) settings.context).1.addBus ⟨1⟩).1

/-- The record of the monitor's callback. -/
def listener (settings : MonitorSettings) : Record Unit :=
  ⟨⟨1⟩, ⟨1⟩, settings.events, settings.filter, (), .active⟩

theorem stage_unopened (settings : MonitorSettings) : (stage settings).Unopened ⟨1⟩ := by
  obtain ⟨hsim, hopens, hlt, hflag⟩ :=
    World.unopened_addContext { memory := () } settings.context true nofun nofun
  exact ⟨hsim, hopens, hlt, hflag⟩

theorem context_stage : (stage settings).context ⟨1⟩ =
    .create (.simulated true []) settings.context :=
  Store.get_set_self ..

theorem registry_stage : (stage settings).registry ⟨1⟩ =
    { limit := settings.context.maxCallbacks.map UInt64.toNat } := by
  rw [World.registry, context_stage]
  rfl

/-- There is room for one record unless the limit is none at all. -/
theorem room_stage (hroom : settings.context.maxCallbacks ≠ some 0) :
    ((stage settings).registry ⟨1⟩).isFull = false := by
  rw [registry_stage]
  rcases hmax : settings.context.maxCallbacks with _ | n
  · rfl
  · have hn : n.toNat ≠ 0 := fun hzero =>
      hroom (hmax.trans (congrArg some (UInt64.toNat_inj.1 hzero)))
    simpa [Registry.isFull, Registry.size, Nat.pos_iff_ne_zero] using hn

/-- The monitor's registration succeeds if the context offers any and has room for one. -/
theorem register_stage (hon : settings.context.hotplugEnabled = true)
    (hroom : settings.context.maxCallbacks ≠ some 0) :
    (Act.register host ⟨1⟩ (request settings)).run (stage settings) =
      { result := some (.ok ⟨1⟩)
        world := (stage settings).enrol ⟨1⟩ settings.filter settings.events ()
        notices := [.inserted ⟨1⟩ ⟨1⟩, .registered ⟨1⟩ ⟨1⟩ settings.filter settings.events
          (request settings).flags []] } := by
  have hhot : ((stage settings).context ⟨1⟩).hasHotplug = true := by
    rw [context_stage, Context.hasHotplug]
    simp [Context.create, hon, Platform.hasHotplug]
  have hexisting : (stage settings).existing ⟨1⟩ (request settings).flags = [] := by
    rw [World.existing, World.roster, context_stage]
    split <;> rfl
  rw [Act.run_register_of_check (fun _ => Act.returns_pure _) hhot check_request
    (room_stage hroom), hexisting]
  rfl

/-- After it the monitor's record is all there is. -/
theorem staged_enrol :
    Replay.Staged (listener settings) ⟨1⟩ ⟨1⟩ {}
      ((stage settings).enrol ⟨1⟩ settings.filter settings.events ()) {} where
  rehearsal := by
    have hdevices : ((stage settings).enrol ⟨1⟩ settings.filter settings.events ()).roster ⟨1⟩ =
        {} := by
      rw [World.roster_enrol, World.roster, context_stage]
      rfl
    have hbus : ((stage settings).enrol ⟨1⟩ settings.filter settings.events ()).bus ⟨1⟩ =
        { context := ⟨1⟩ } := Store.get_set_self ..
    exact Replay.rehearsal_eq hbus hdevices rfl
  sole := by
    refine ⟨?_, rfl⟩
    rw [World.enrol, World.registry_setRegistry, if_pos rfl, registry_stage]
    rfl
  context := rfl

theorem enrol_unopened :
    ((stage settings).enrol ⟨1⟩ settings.filter settings.events ()).Unopened ⟨1⟩ := by
  have hplatform : ∀ c, ((stage settings).enrol ⟨1⟩ settings.filter settings.events ()).platform c =
      (stage settings).platform c := fun _ => World.platform_setRegistry
  have hopens : ∀ c, ((stage settings).enrol ⟨1⟩ settings.filter settings.events ()).opens c =
      (stage settings).opens c := fun _ => World.opens_setRegistry
  obtain ⟨hsim, hhandles, hlt, hflag⟩ := stage_unopened settings
  refine ⟨?_, ?_, fun c' => ?_, hflag⟩
  · rwa [hplatform]
  · rwa [hopens]
  · rw [hopens]
    exact hlt c'

/-- **What is to be told of a monitor's replay**, with changes that come and go as the
scenario has it. -/
structure Reports (settings : MonitorSettings) (scenario : Scenario)
    (changes : List (Device × Event)) (report : ReplayReport) (w : World Unit Unit)
    (ns : List Notice) : Prop where
  steps : report.steps = scenario.steps.length
  heard : heard ns = changes.filter fun (d, e) => settings.filter.hears settings.events d e
  invoked : report.invoked = (DeviceWatch.heard ns).length
  disconnected : report.disconnected = (w.record ⟨1⟩).length
  discreet : ∀ n ∈ ns, n.Discreet

namespace Reports

variable {scenario : Scenario} {changes : List (Device × Event)} {report : ReplayReport}
variable {w' : World Unit Unit} {ns ms : List Notice}

/-- Before the replay nobody is told of anything. -/
theorem preceded (h : Reports settings scenario changes report w ns)
    (hquiet : DeviceWatch.heard ms = []) (hsaid : ∀ n ∈ ms, n.Discreet) :
    Reports settings scenario changes report w (ms ++ ns) := by
  have hheard : DeviceWatch.heard (ms ++ ns) = DeviceWatch.heard ns := by
    rw [heard_append, hquiet, List.nil_append]
  exact ⟨h.steps, hheard.trans h.heard, by rw [hheard, h.invoked], h.disconnected,
    List.forall_mem_append.2 ⟨hsaid, h.discreet⟩⟩

/-- After it nobody is told of anything, and no handle is given up. -/
theorem followed (h : Reports settings scenario changes report w ns)
    (hrecord : w'.record ⟨1⟩ = w.record ⟨1⟩) (hquiet : DeviceWatch.heard ms = [])
    (hsaid : ∀ n ∈ ms, n.Discreet) : Reports settings scenario changes report w' (ns ++ ms) := by
  have hheard : DeviceWatch.heard (ns ++ ms) = DeviceWatch.heard ns := by
    rw [heard_append, hquiet, List.append_nil]
  exact ⟨h.steps, hheard.trans h.heard, by rw [hheard, h.invoked], by rw [hrecord, h.disconnected],
    List.forall_mem_append.2 ⟨h.discreet, hsaid⟩⟩

end Reports

/-- The replay of the monitor's scenario goes as rehearsed. -/
theorem work_rehearsed {path : String} {scenario : Scenario}
    (hpath : settings.scenario = some path)
    (hload : input.files.load Scenario.parse? path = .ok scenario)
    (hw : Replay.Staged (listener settings) ⟨1⟩ ⟨1⟩ {} w {}) (hu : w.Unopened ⟨1⟩) :
    match Rehearsal.changes? {} scenario.steps with
    | none => ∃ e, ((work input settings ⟨1⟩).run w).result = some (.error (.replay e))
    | some changes => ∃ report,
        ((work input settings ⟨1⟩).run w).result = some (.ok (.replayed report)) ∧
        ((work input settings ⟨1⟩).run w).world.Sole ⟨1⟩ (listener settings) ∧
        Reports settings scenario changes report ((work input settings ⟨1⟩).run w).world
          ((work input settings ⟨1⟩).run w).notices := by
  have hreplay := Replay.runFrom_rehearsed 1 scenario.steps listens_host hw
  have hx : (Replay.runFrom host ⟨1⟩ 1 scenario.steps {}).Within Repertoire.Any :=
    (Replay.runFrom_within fun _ => .pure _).mono fun _ _ _ => .calm
  have hrecord := hx.length_record hu
  have hdiscreet : (Replay.runFrom host ⟨1⟩ 1 scenario.steps {}).Obeys (Notes Notice.Discreet) :=
    hx.obeys_of_parts (Act.notes_parts fun _ => Notice.discreet_of_acted) fun _ _ =>
      List.forall_mem_nil _
  obtain ⟨ns, hns, hrun⟩ := Replay.run_eq host ⟨1⟩ w scenario
  have hsaid := hdiscreet w
  simp only [work, hpath, hload, Act.run_bind, hrun]
  generalize (Replay.runFrom host ⟨1⟩ 1 scenario.steps {}).run w = out at hreplay hrecord hsaid ⊢
  generalize Rehearsal.changes? {} scenario.steps = rehearsed at hreplay ⊢
  rcases rehearsed with _ | changes
  · obtain ⟨error, herror⟩ := hreplay
    simp only [Effect.andThen, herror, Act.run_pure]
    exact ⟨error, rfl⟩
  · obtain ⟨report, hresult, hsole, hgains⟩ := hreplay
    simp only [Effect.andThen, hresult, Act.run_pure, List.append_nil]
    refine ⟨report, rfl, hsole, ?_⟩
    -- What the replay is about is no news of a device.
    have hquiet : heard ns = [] := heard_of_quiet fun n hn => by
      obtain ⟨_, rfl⟩ := hns n hn
      rfl
    have htold : Reports settings scenario changes report out.world out.notices :=
      ⟨hgains.steps.trans (Nat.zero_add _), hgains.heard,
        by rw [hgains.invoked]; exact Nat.zero_add _,
        by rw [hrecord, hgains.disconnected]; exact Nat.zero_add _, hsaid⟩
    refine htold.preceded hquiet fun n hn => ?_
    obtain ⟨_, rfl⟩ := hns n hn
    trivial

/-- The end of a monitor's run: its callback goes, and so does its record. -/
def conclude (id : CallbackId) : Act Unit Unit Nat := do
  Act.deregister ⟨1⟩ id
  Act.teardown ⟨1⟩

/-- **The last teardown releases one record.** -/
theorem conclude_releases (id : CallbackId) {x : Record Unit} (hw : w.Sole ⟨1⟩ x) :
    ((conclude id).run w).result = some 1 := by
  have hsize : (w.registry ⟨1⟩).size = 1 := by
    rw [Registry.size, hw.records]
    rfl
  rw [conclude, Act.deregister, Act.run_bind, Act.run_bind, Act.run_context, Effect.andThen_some]
  by_cases hhot : (w.context ⟨1⟩).hasHotplug = true
  · rw [if_pos hhot, Act.run_bind, Act.run_markPending, Effect.andThen_some, Act.run_pure,
      Effect.andThen_some, Act.run_teardown, World.registry_setRegistry, if_pos rfl,
      Registry.size_markPending, hsize]
  · rw [if_neg hhot, Act.run_pure, Effect.andThen_some, Act.run_teardown, hsize]

theorem notes_conclude {P : Notice → Prop} {id : CallbackId} (hm : P (.marked ⟨1⟩ id))
    (ht : ∀ ids, P (.toreDown ⟨1⟩ ids)) : (conclude id).Obeys (Notes P) := by
  have hderegister : (Act.deregister ⟨1⟩ id : Act Unit Unit Unit).Obeys (Notes P) :=
    Act.closed_obeys.deregister (Act.notes_markPending hm)
  exact hderegister.bind fun _ => Act.notes_teardown ht

/-- Nobody is told of it, and no handle is given up. -/
theorem conclude_keeps (id : CallbackId) (w : World Unit Unit) :
    ((conclude id).run w).world.record ⟨1⟩ = w.record ⟨1⟩ ∧
      heard ((conclude id).run w).notices = [] ∧
      ∀ n ∈ ((conclude id).run w).notices, n.Discreet := by
  have hstill : (conclude id).Obeys Still := Act.still_deregister.bind fun _ => Act.still_teardown
  refine ⟨World.record_eq ((hstill w).platform ⟨1⟩), heard_of_quiet ?_, ?_⟩
  · exact notes_conclude (P := fun n => n.counts = false) rfl (fun _ => rfl) w
  · exact notes_conclude (P := Notice.Discreet) trivial (fun _ => trivial) w

theorem runOn_eq {b : BusId} : runOn input settings ⟨1⟩ b =
    Act.register host ⟨1⟩ (request settings) >>= fun
      | .error e => pure (.error (.registration e))
      | .ok id => say ("Watching for " ++ settings.events.words ++ " with filter " ++
          settings.filter.text) >>= fun _ => work input settings b >>= fun
        | .error e => Act.teardown ⟨1⟩ >>= fun _ => pure (.error e)
        | .ok work => say work.text >>= fun _ => conclude id >>= fun released =>
          say ("Stopped; released " ++ Text.decimal released ++ " callback(s)") >>= fun _ =>
          pure (.ok { work, released }) := by
  rw [runOn]
  refine bind_congr fun answer => ?_
  rcases answer with e | id
  · rfl
  refine bind_congr fun _ => bind_congr fun answer => ?_
  rcases answer with e | work
  · rfl
  · refine bind_congr fun _ => ?_
    rw [conclude, bind_assoc]

/-- What the monitor says itself tells of no device. -/
theorem discreet_say {message : String} {level : Level}
    (h : message.toList.head? ≠ some 'D') : (Notice.remark { level, message }).Discreet :=
  Line.not_ofDevice_of_head h

theorem discreet_finished {report : ReplayReport} :
    (Notice.remark { message := (Work.replayed report).text }).Discreet := by
  have htext : (Work.replayed report).text = "Scenario finished: " ++ Text.decimal report.steps ++
    " step(s), " ++ Text.decimal report.invoked ++ " callback(s), " ++
    Text.decimal report.disconnected ++ " handle(s) disconnected" := rfl
  refine discreet_say ?_
  rw [htext]
  simp [String.toList_append]

theorem run_say {message : String} {level : Level} :
    (say message level).run w =
      { result := some (), world := w, notices := [.remark { level, message }] } :=
  rfl

/-- The monitor's run on its context goes as rehearsed. -/
theorem runOn_rehearsed {path : String} {scenario : Scenario}
    (hon : settings.context.hotplugEnabled = true)
    (hroom : settings.context.maxCallbacks ≠ some 0) (hpath : settings.scenario = some path)
    (hload : input.files.load Scenario.parse? path = .ok scenario) :
    match Rehearsal.changes? {} scenario.steps with
    | none => ∃ e, ((runOn input settings ⟨1⟩ ⟨1⟩).run (stage settings)).result =
        some (.error (.replay e))
    | some changes => ∃ report,
        ((runOn input settings ⟨1⟩ ⟨1⟩).run (stage settings)).result =
          some (.ok { work := .replayed report, released := 1 }) ∧
        Reports settings scenario changes report
          ((runOn input settings ⟨1⟩ ⟨1⟩).run (stage settings)).world
          ((runOn input settings ⟨1⟩ ⟨1⟩).run (stage settings)).notices := by
  have hwork := work_rehearsed hpath hload staged_enrol enrol_unopened
  rw [runOn_eq, Act.run_bind, register_stage hon hroom, Effect.andThen_some]
  simp only [Act.run_bind, run_say, Effect.andThen_some]
  generalize (work input settings ⟨1⟩).run _ = out at hwork ⊢
  generalize Rehearsal.changes? {} scenario.steps = rehearsed at hwork ⊢
  rcases rehearsed with _ | changes
  · obtain ⟨e, he⟩ := hwork
    obtain ⟨n, hn⟩ := Act.returns_teardown (c := ⟨1⟩) out.world
    simp only [Effect.andThen, he, Act.run_bind, hn, Act.run_pure]
    exact ⟨e, rfl⟩
  · obtain ⟨report, hresult, hsole, hreports⟩ := hwork
    obtain ⟨hrecord, hheard, hdiscreet⟩ := conclude_keeps ⟨1⟩ out.world
    have hreleased := conclude_releases ⟨1⟩ hsole
    generalize hlast : (conclude ⟨1⟩).run out.world = last at hrecord hheard hdiscreet hreleased
    simp only [Effect.andThen, hresult, Act.run_bind, run_say, hlast, hreleased, Act.run_pure]
    refine ⟨report, rfl, ?_⟩
    have hwatching : ("Watching for " ++ settings.events.words ++ " with filter " ++
        settings.filter.text).toList.head? ≠ some 'D' := by
      simp [String.toList_append]
    have hstopped : ("Stopped; released " ++ Text.decimal 1 ++ " callback(s)").toList.head? ≠
        some 'D' := by
      simp [String.toList_append]
    refine .preceded (.preceded (hreports.followed hrecord ?_ ?_) rfl ?_) rfl ?_
    · rw [heard_append, heard_append, hheard]
      rfl
    · refine List.forall_mem_append.2 ⟨List.forall_mem_singleton.2 discreet_finished, ?_⟩
      refine List.forall_mem_append.2 ⟨hdiscreet, ?_⟩
      exact List.forall_mem_singleton.2 (discreet_say hstopped)
    · exact List.forall_mem_singleton.2 (discreet_say hwatching)
    · exact List.forall_mem_cons.2 ⟨trivial, List.forall_mem_singleton.2 trivial⟩

/-- Before it comes to its context, the monitor only says something. -/
theorem run_start {source : Option String}
    (hsettings : Monitor.settings input = .ok (settings, source)) :
    ∃ before, heard before = [] ∧ (∀ n ∈ before, n.Discreet) ∧
      (start input).run { memory := () } =
        { (runOn input settings ⟨1⟩ ⟨1⟩).run (stage settings) with
          notices := before ++ ((runOn input settings ⟨1⟩ ⟨1⟩).run (stage settings)).notices } := by
  have hstarting : (Notice.remark { message := "Starting hotplug monitor" }).Discreet :=
    discreet_say (by decide)
  rcases source with _ | path
  · refine ⟨[.remark { message := "Starting hotplug monitor" }], rfl, by simpa using hstarting, ?_⟩
    simp only [start, hsettings]
    rfl
  · refine ⟨[.remark { message := "Loaded configuration from " ++ path },
      .remark { message := "Starting hotplug monitor" }], rfl, ?_, ?_⟩
    · have hloaded : (Notice.remark { message := "Loaded configuration from " ++ path }).Discreet :=
        discreet_say (by simp [String.toList_append])
      simpa using And.intro hloaded hstarting
    · simp only [start, hsettings]
      rfl

/-- **The monitor reports what it logged.** If its context offers registrations and has
room for one, its replay fails where the rehearsal does. Else its lines on devices are those
on the changes it waits for, in their order, and its report counts the steps, these lines
and the handles that the platform gave up; its last teardown releases one record. -/
theorem start_reports {source : Option String} {path : String} {scenario : Scenario}
    (hsettings : Monitor.settings input = .ok (settings, source))
    (hon : settings.context.hotplugEnabled = true)
    (hroom : settings.context.maxCallbacks ≠ some 0) (hpath : settings.scenario = some path)
    (hload : input.files.load Scenario.parse? path = .ok scenario) :
    match Rehearsal.changes? {} scenario.steps with
    | none => ∃ e, ((start input).run { memory := () }).result = some (.error (.replay e))
    | some changes => ∃ report,
        ((start input).run { memory := () }).result =
          some (.ok { work := .replayed report, released := 1 }) ∧
        report.steps = scenario.steps.length ∧
        (run input).lines.filter Line.ofDevice =
          (changes.filter fun (d, e) => settings.filter.hears settings.events d e).map
            Line.ofEvent ∧
        report.invoked = ((run input).lines.filter Line.ofDevice).length ∧
        report.disconnected =
          (((start input).run { memory := () }).world.record ⟨1⟩).length := by
  have hrun := runOn_rehearsed hon hroom hpath hload
  obtain ⟨before, hquiet, hsaid, hstart⟩ := run_start hsettings
  rw [run, hstart]
  generalize (runOn input settings ⟨1⟩ ⟨1⟩).run (stage settings) = out at hrun ⊢
  generalize Rehearsal.changes? {} scenario.steps = rehearsed at hrun ⊢
  rcases rehearsed with _ | changes
  · exact hrun
  · obtain ⟨report, hresult, hreports⟩ := hrun
    have hall := hreports.preceded hquiet hsaid
    have hlines := lines_ofDevice hall.discreet
    refine ⟨report, hresult, hall.steps, ?_, ?_, hall.disconnected⟩
    · rw [hlines, hall.heard]
    · rw [hlines, List.length_map, hall.invoked]

/-- A monitor that waits for the devices of one vendor. In its scenario a device of another
comes and goes besides, and that of the vendor goes with a failed transfer. -/
def ofVendor : Input where
  files := .ofList [("settings", some "\x7b\"filter\": [1], \"scenario\": \"steps\"\x7d"),
    ("steps", some
      "[\"\", [[\"plug\", \"a\", 1, 2], [\"plug\", \"b\", 2, 2], [\"open\", \"a\"],
      [\"unplug\", \"b\"], [\"sleep\", 5], [\"transfer_failed\", \"a\"]]]")]
  settingsPath := some "settings"

/-- The steps of its scenario. -/
def ofVendorSteps : List Step :=
  [.plug "a" 1 2 0, .plug "b" 2 2 0, .openHandle "a", .unplug "b", .sleep 5, .transferFailed "a"]

/-- The device that it waits for. -/
def ofVendorDevice : Device :=
  Bus.device 1 { label := "a", vendor := 1, product := 2, deviceClass := 0 }

theorem settings_ofVendor : Monitor.settings ofVendor =
    .ok ({ filter := { vendor := some 1 }, scenario := some "steps" }, some "settings") := by
  have hparse : MonitorSettings.parse? "\x7b\"filter\": [1], \"scenario\": \"steps\"\x7d" =
      some { filter := { vendor := some 1 }, scenario := some "steps" } := by
    decide +kernel
  simp [Monitor.settings, ofVendor, FileView.load, FileView.ofList, hparse, Except.map]

theorem load_ofVendor :
    ofVendor.files.load Scenario.parse? "steps" = .ok { steps := ofVendorSteps } := by
  have hparse : Scenario.parse?
      "[\"\", [[\"plug\", \"a\", 1, 2], [\"plug\", \"b\", 2, 2], [\"open\", \"a\"],
      [\"unplug\", \"b\"], [\"sleep\", 5], [\"transfer_failed\", \"a\"]]]" =
      some { steps := ofVendorSteps } := by
    decide +kernel
  simp [ofVendor, FileView.load, FileView.ofList, List.lookup_cons, hparse]

/-- Of four changes it is told of two. -/
theorem start_reports_ofVendor : ∃ report,
    ((start ofVendor).run { memory := () }).result =
      some (.ok { work := .replayed report, released := 1 }) ∧
    report.steps = 6 ∧ report.invoked = 2 ∧
    (run ofVendor).lines.filter Line.ofDevice =
      [.ofEvent (ofVendorDevice, .arrived), .ofEvent (ofVendorDevice, .left)] := by
  have hreports := start_reports settings_ofVendor rfl nofun rfl load_ofVendor
  have hchanges : Rehearsal.changes? {} ofVendorSteps = some
      [(ofVendorDevice, .arrived), (Bus.device 2 ⟨"b", 2, 2, 0⟩, .arrived),
        (Bus.device 2 ⟨"b", 2, 2, 0⟩, .left), (ofVendorDevice, .left)] := by
    decide
  rw [hchanges] at hreports
  obtain ⟨report, hresult, hsteps, hlines, hinvoked, -⟩ := hreports
  refine ⟨report, hresult, hsteps, ?_, hlines⟩
  rw [hinvoked, hlines]
  rfl

end Monitor
end DeviceWatch
