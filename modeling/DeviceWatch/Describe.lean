import DeviceWatch.Registration
/-!
# Descriptions

Values spelt out field by field, for whoever looks into a running system: the
kind of value, then its fields in braces. A trailing `..` says that there is
more than is shown.
-/

namespace DeviceWatch.Describe

open Text

/-- A value of a kind with its fields. -/
def fields (kind : String) (parts : List (String × String)) (more : Bool := false) : String :=
  let shown := parts.map fun (name, value) => name ++ ": " ++ value
  let all := if more then shown ++ [".."] else shown
  kind ++ " \x7b " ++ ", ".intercalate all ++ " \x7d"

/-- A value of a kind that wraps one other. -/
def wrapped (kind value : String) : String :=
  kind ++ "(" ++ value ++ ")"

/-- A value that may be missing. -/
def optional (value : Option String) : String :=
  match value with
  | none => "None"
  | some value => wrapped "Some" value

/-- A truth value. -/
def bool (b : Bool) : String :=
  if b then "true" else "false"

/-- A list of values. -/
def list (values : List String) : String :=
  "[" ++ ", ".intercalate values ++ "]"

/-- A table of values. -/
def table (entries : List (String × String)) : String :=
  "\x7b" ++ ", ".intercalate (entries.map fun (key, value) => key ++ ": " ++ value) ++ "\x7d"

/-- A value behind a lock. -/
def locked (value : String) : String :=
  fields "Mutex" [("data", value), ("poisoned", bool false)] true

/-- A set of events. -/
def events (s : EventSet) : String :=
  wrapped "EventMask" (decimal s.bits.toNat)

/-- Flags. -/
def flags (f : Flags) : String :=
  wrapped "HotplugFlags" (decimal f.bits.toNat)

/-- A device's identity. -/
def deviceId (d : DeviceId) : String :=
  wrapped "DeviceId" (decimal d.val)

/-- A context's identity. -/
def contextId (c : ContextId) : String :=
  wrapped "ContextId" (decimal c.val)

/-- A registration's identity. -/
def callbackId (h : CallbackId) : String :=
  wrapped "CallbackHandle" (decimal h.val)

/-- A descriptor. -/
def descriptor (d : Descriptor) : String :=
  fields "DeviceDescriptor"
    [("vendor_id", decimal d.vendor.toNat), ("product_id", decimal d.product.toNat),
      ("device_class", decimal d.deviceClass.toNat)]

/-- A device. -/
def device (d : Device) : String :=
  fields "UsbDevice"
    [("id", deviceId d.id), ("bus_number", decimal d.bus.toNat),
      ("address", decimal d.address.toNat), ("descriptor", descriptor d.descriptor)]

/-- A filter. -/
def filter (f : Filter) : String :=
  fields "DeviceFilter"
    [("vendor_id", optional (f.vendor.map fun v => decimal v.toNat)),
      ("product_id", optional (f.product.map fun p => decimal p.toNat)),
      ("device_class", optional (f.deviceClass.map fun c => decimal c.toNat))]

/-- A request. -/
def request {κ : Type} (r : Request κ) : String :=
  fields "HotplugRegistration"
    [("events", events r.events), ("flags", flags r.flags),
      ("vendor_id", signedDecimal r.selector.vendor.toInt),
      ("product_id", signedDecimal r.selector.product.toInt),
      ("device_class", signedDecimal r.selector.deviceClass.toInt),
      ("has_callback", bool r.program.isSome)]

/-- Where a record stands. -/
def status : Status → String
  | .active => "Active"
  | .pending => "PendingFree"

/-- A record; its program is not shown. -/
def record {κ : Type} (r : Record κ) : String :=
  fields "CallbackRecord"
    [("handle", callbackId r.id), ("owner", contextId r.owner), ("events", events r.events),
      ("filter", filter r.filter), ("lifecycle", status r.status)] true

/-- A registry. -/
def registry {κ : Type} (r : Registry κ) : String :=
  fields "CallbackRegistry"
    [("records", locked (table (r.records.map fun x => (callbackId x.id, record x)))),
      ("max_callbacks", optional (r.limit.map decimal))]

/-- A context's settings. -/
def settings (s : ContextSettings) : String :=
  fields "HotplugConfig"
    [("hotplug_enabled", bool s.hotplugEnabled),
      ("max_callbacks", optional (s.maxCallbacks.map fun n => decimal n.toNat)),
      ("slow_callback_warn_ms", decimal s.slowCallbackMillis.toNat)]

/-- A handle that was given up. -/
def disconnect (d : Disconnect) : String :=
  fields "DisconnectRecord"
    [("handle_id", decimal d.handle.val), ("device", deviceId d.device)]

/-- What lies beneath a context. -/
def platform : Platform → String
  | .bare => "NoHotplug"
  | .simulated hotplug disconnects =>
    fields "SimBackend"
      [("hotplug", bool hotplug), ("disconnects", locked (list (disconnects.map disconnect)))]

/-- A context; of its registry, roster and open handles only the numbers are shown. -/
def context {κ : Type} (id : ContextId) (c : Context κ) : String :=
  fields "HotplugContext"
    [("id", contextId id), ("config", settings c.settings), ("backend", platform c.platform),
      ("callbacks", decimal c.registry.size), ("devices", decimal c.roster.size),
      ("open_handles", decimal c.opens.size)]

end DeviceWatch.Describe
