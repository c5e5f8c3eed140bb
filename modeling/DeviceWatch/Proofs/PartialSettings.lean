import DeviceWatch.Codec.Settings
import DeviceWatch.Proofs.Fields
/-!
# Settings given in part

A settings file lists some of the fields, in any order, and may hold others that mean nothing
to the reader. What is read are the defaults with the listed fields put in. This is so for the
settings of a context, and for those of the monitor with the two objects that lie within: these
are read first, as any other field is.
-/

namespace DeviceWatch

open Json

/-! ## One object -/

namespace Filter

/-- The fields of a filter as they are written. -/
def members (f : Filter) : List (String × Json) :=
  [("vendor_id", .ofOptional .ofWord16 f.vendor), ("product_id", .ofOptional .ofWord16 f.product),
    ("device_class", .ofOptional .ofByte f.deviceClass)]

/-- The open filter with the chosen fields of another. -/
def overriding (f : Filter) (chosen : String → Bool) : Filter where
  vendor := if chosen "vendor_id" then f.vendor else none
  product := if chosen "product_id" then f.product else none
  deviceClass := if chosen "device_class" then f.deviceClass else none

theorem toJson_eq_record (f : Filter) : f.toJson = record f.members :=
  rfl

theorem ofJson?_of_lists {f : Filter} {chosen : String → Bool} {ms : List (String × Json)}
    (h : Lists f.members chosen ms) : ofJson? (record ms) = some (f.overriding chosen) := by
  have hdistinct : ["vendor_id", "product_id", "device_class"].Nodup := by decide
  have hvendor := h.optional? hdistinct 0 "vendor_id" none
    (asOptional?_ofOptional asWord16?_ofWord16 nofun f.vendor) (by simp [members])
  have hproduct := h.optional? hdistinct 1 "product_id" none
    (asOptional?_ofOptional asWord16?_ofWord16 nofun f.product) (by simp [members])
  have hclass := h.optional? hdistinct 2 "device_class" none
    (asOptional?_ofOptional asByte?_ofByte nofun f.deviceClass) (by simp [members])
  unfold ofJson?
  rw [fields?_record]
  simp only [bind, Option.bind_some, hvendor, hproduct, hclass]
  rfl

end Filter

namespace ContextSettings

/-- The fields of a context's settings as they are written. -/
def members (s : ContextSettings) : List (String × Json) :=
  [("hotplug_enabled", .bool s.hotplugEnabled),
    ("max_callbacks", .ofOptional .ofWord64 s.maxCallbacks),
    ("slow_callback_warn_ms", .ofWord64 s.slowCallbackMillis)]

/-- The defaults with the chosen fields of some settings. -/
def overriding (s : ContextSettings) (chosen : String → Bool) : ContextSettings :=
  let default : ContextSettings := {}
  { hotplugEnabled := if chosen "hotplug_enabled" then s.hotplugEnabled else default.hotplugEnabled
    maxCallbacks := if chosen "max_callbacks" then s.maxCallbacks else default.maxCallbacks
    slowCallbackMillis :=
      if chosen "slow_callback_warn_ms" then s.slowCallbackMillis else default.slowCallbackMillis }

theorem toJson_eq_record (s : ContextSettings) : s.toJson = record s.members :=
  rfl

theorem ofJson?_of_lists {s : ContextSettings} {chosen : String → Bool}
    {ms : List (String × Json)} (h : Lists s.members chosen ms) :
    ofJson? (record ms) = some (s.overriding chosen) := by
  have hdistinct : ["hotplug_enabled", "max_callbacks", "slow_callback_warn_ms"].Nodup := by
    decide
  let default : ContextSettings := {}
  have henabled := h.optional? hdistinct 0 "hotplug_enabled" default.hotplugEnabled
    (asBool?_bool s.hotplugEnabled) (by simp [members])
  have hmost := h.optional? hdistinct 1 "max_callbacks" default.maxCallbacks
    (asOptional?_ofOptional asWord64?_ofWord64 nofun s.maxCallbacks) (by simp [members])
  have hslow := h.optional? hdistinct 2 "slow_callback_warn_ms" default.slowCallbackMillis
    (asWord64?_ofWord64 s.slowCallbackMillis) (by simp [members])
  unfold ofJson?
  rw [fields?_record]
  simp only [bind, Option.bind_some, henabled, hmost, hslow, default]
  rfl

end ContextSettings

/-! ## Objects within an object -/

theorem EventSet.ofJson?_toJson (s : EventSet) : ofJson? s.toJson = some s := by
  rw [ofJson?, toJson, asByte?_ofByte, Option.map_some, ofBits_bits]

namespace MonitorSettings

/-- The fields of the monitor's settings as they are written, with the given objects for those
of the context and the filter. -/
def members (s : MonitorSettings) (hotplug filter : Json) : List (String × Json) :=
  [("hotplug", hotplug), ("events", s.events.toJson), ("filter", filter),
    ("enumerate", .bool s.enumerate), ("poll_interval_ms", .ofWord64 s.pollIntervalMillis),
    ("skip_patterns", .array (s.skipPatterns.map .text)),
    ("scenario", .ofOptional .text s.scenario)]

/-- Which fields of the monitor's settings are listed, at the top and in the two objects within. -/
structure Choice where
  top : String → Bool
  hotplug : String → Bool
  filter : String → Bool

/-- The defaults with the chosen fields of some settings. -/
def overriding (s : MonitorSettings) (chosen : Choice) : MonitorSettings :=
  let default : MonitorSettings := {}
  { context := if chosen.top "hotplug" then s.context.overriding chosen.hotplug else default.context
    events := if chosen.top "events" then s.events else default.events
    filter := if chosen.top "filter" then s.filter.overriding chosen.filter else default.filter
    enumerate := if chosen.top "enumerate" then s.enumerate else default.enumerate
    pollIntervalMillis :=
      if chosen.top "poll_interval_ms" then s.pollIntervalMillis else default.pollIntervalMillis
    skipPatterns := if chosen.top "skip_patterns" then s.skipPatterns else default.skipPatterns
    scenario := if chosen.top "scenario" then s.scenario else default.scenario }

theorem toJson_eq_record (s : MonitorSettings) :
    s.toJson = record (s.members (record s.context.members) (record s.filter.members)) :=
  rfl

/-- The members list the chosen fields of the settings, and so do the members of the two
objects within, in any order and with unknown fields besides. -/
def Lists (s : MonitorSettings) (chosen : Choice) (members : List (String × Json)) : Prop :=
  ∃ hotplug filter : List (String × Json), Json.Lists s.context.members chosen.hotplug hotplug ∧
    Json.Lists s.filter.members chosen.filter filter ∧
    Json.Lists (s.members (record hotplug) (record filter)) chosen.top members

theorem ofJson?_of_lists {s : MonitorSettings} {chosen : Choice} {ms : List (String × Json)}
    (h : s.Lists chosen ms) : ofJson? (record ms) = some (s.overriding chosen) := by
  obtain ⟨hotplug, filter, hhotplug, hwithin, h⟩ := h
  have hdistinct : ["hotplug", "events", "filter", "enumerate", "poll_interval_ms",
    "skip_patterns", "scenario"].Nodup := by decide
  let default : MonitorSettings := {}
  have hcontext := h.optional? hdistinct 0 "hotplug" default.context
    (ContextSettings.ofJson?_of_lists hhotplug) (by simp [members])
  have hevents := h.optional? hdistinct 1 "events" default.events s.events.ofJson?_toJson
    (by simp [members])
  have hfilter := h.optional? hdistinct 2 "filter" default.filter
    (Filter.ofJson?_of_lists hwithin) (by simp [members])
  have henumerate := h.optional? hdistinct 3 "enumerate" default.enumerate
    (asBool?_bool s.enumerate) (by simp [members])
  have hpoll := h.optional? hdistinct 4 "poll_interval_ms" default.pollIntervalMillis
    (asWord64?_ofWord64 s.pollIntervalMillis) (by simp [members])
  have hskip := h.optional? hdistinct 5 "skip_patterns" default.skipPatterns
    (asList?_map asText?_text s.skipPatterns) (by simp [members])
  have hscenario := h.optional? hdistinct 6 "scenario" default.scenario
    (asOptional?_ofOptional asText?_text nofun s.scenario) (by simp [members])
  unfold ofJson?
  rw [fields?_record]
  simp only [bind, Option.bind_some, hcontext, hevents, hfilter, henumerate, hpoll, hskip,
    hscenario, default]
  rfl

end MonitorSettings

/-! ## Through the text -/

/-- A value is read as `a`: from the value itself, from every text that stands for the value,
and from its compact form. -/
structure ReadAs {α : Type} (read : Json → Option α) (parse? : String → Option α) (v : Json)
    (a : α) : Prop where
  value : read v = some a
  text : ∀ t, Json.parse? t = some v → parse? t = some a
  compact : Plain v → parse? v.render = some a

theorem ReadAs.of_value {α : Type} {read : Json → Option α} {v : Json} {a : α}
    (h : read v = some a) : ReadAs read (fun t => Json.parse? t >>= read) v a := by
  have htext : ∀ t, Json.parse? t = some v → (Json.parse? t >>= read) = some a := by
    intro t ht
    rw [ht]
    exact h
  exact ⟨h, htext, fun hplain => htext v.render (parse?_render hplain)⟩

/-- **An object that lists some fields is read as the defaults with these fields put in**, in
whatever order they stand and whatever unknown fields stand among them; so it is for the
settings of a context alone, and for those of the monitor with the objects within. -/
theorem listed_override_defaults :
    (∀ (s : ContextSettings) (chosen : String → Bool) (ms : List (String × Json)),
      Lists s.members chosen ms →
      ReadAs ContextSettings.ofJson? ContextSettings.parse? (record ms) (s.overriding chosen)) ∧
    ∀ (s : MonitorSettings) (chosen : MonitorSettings.Choice) (ms : List (String × Json)),
      s.Lists chosen ms →
      ReadAs MonitorSettings.ofJson? MonitorSettings.parse? (record ms) (s.overriding chosen) :=
  ⟨fun _ _ _ h => .of_value (ContextSettings.ofJson?_of_lists h),
    fun _ _ _ h => .of_value (MonitorSettings.ofJson?_of_lists h)⟩

/-- Settings that differ from the defaults in every field. -/
def MonitorSettings.thorough : MonitorSettings where
  context := { hotplugEnabled := false, maxCallbacks := some 3, slowCallbackMillis := 5 }
  events := .single .left
  filter := { vendor := some 0x0403, product := some 0x6001, deviceClass := some 9 }
  enumerate := false
  pollIntervalMillis := 50
  skipPatterns := []
  scenario := some "demo.json"

/-- Four fields at the top, and one in each of the objects within. -/
def MonitorSettings.Choice.sparse : MonitorSettings.Choice where
  top name := name ∈ ["events", "filter", "hotplug", "scenario"]
  hotplug name := name = "slow_callback_warn_ms"
  filter name := name = "vendor_id"

/-- The object for `sparse`, its fields backwards, with an unknown one at the top and another
one, under a name that is known elsewhere, in the object for the filter. -/
def sparseObject : List (String × Json) :=
  [("comment", .array [.null]), ("scenario", .text "demo.json"),
    ("filter", .record [("enumerate", .bool false), ("vendor_id", .ofWord16 0x0403)]),
    ("events", .ofByte 2), ("hotplug", .record [("slow_callback_warn_ms", .ofWord64 5)])]

theorem listed_override_defaults_of_sparse :
    ContextSettings.parse? (record [("slow_callback_warn_ms", .ofWord64 5)]).render =
        some { slowCallbackMillis := 5 } ∧
      MonitorSettings.thorough.Lists .sparse sparseObject ∧ Plain (record sparseObject) ∧
      MonitorSettings.parse? (record sparseObject).render =
        some { context := { slowCallbackMillis := 5 }, events := .single .left,
               filter := { vendor := some 0x0403 }, scenario := some "demo.json" } := by
  have hslow : Lists MonitorSettings.thorough.context.members MonitorSettings.Choice.sparse.hotplug
      [("slow_callback_warn_ms", .ofWord64 5)] := ⟨[], List.forall_mem_nil _, .refl _⟩
  have hvendor : Lists MonitorSettings.thorough.filter.members MonitorSettings.Choice.sparse.filter
      [("enumerate", .bool false), ("vendor_id", .ofWord16 0x0403)] :=
    ⟨[("enumerate", .bool false)], by decide, (List.reverse_perm _).symm⟩
  have hlists : MonitorSettings.thorough.Lists .sparse sparseObject :=
    ⟨_, _, hslow, hvendor, [("comment", .array [.null])], by decide,
      (List.reverse_perm sparseObject).symm⟩
  have hcontext : Plain (.record [("slow_callback_warn_ms", .ofWord64 5)]) :=
    .record (by simp [plain_ofWord64])
  have hplain : Plain (record sparseObject) := by
    have hcomment : Plain (.array [.null]) := .array (by simp [Plain.null])
    have hfilter : Plain (.record [("enumerate", .bool false), ("vendor_id", .ofWord16 0x0403)]) :=
      .record (by simp [Plain.bool, plain_ofWord16])
    refine .record ?_
    simp [sparseObject, Plain.text, plain_ofByte, hcomment, hfilter, hcontext]
  exact ⟨(listed_override_defaults.1 _ _ _ hslow).compact hcontext, hlists, hplain,
    (listed_override_defaults.2 _ _ _ hlists).compact hplain⟩

end DeviceWatch
