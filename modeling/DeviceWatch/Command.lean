import DeviceWatch.Device
/-!
# Commands

What a detector may be told to do to its bus.
-/

namespace DeviceWatch

/-- What a detector may be told. -/
inductive Command where
  | plug (spec : DeviceSpec)
  | unplug (id : DeviceId)
  /-- Answer once everything queued before is done. -/
  | sync (token : Nat)
  | shutdown
  deriving DecidableEq

end DeviceWatch
