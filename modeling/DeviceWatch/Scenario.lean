import DeviceWatch.Device
/-!
# Scenarios

A scenario is a list of steps on devices that go by names.
-/

namespace DeviceWatch

/-- A step of a scenario. -/
inductive Step where
  /-- Plug in a device under a name. -/
  | plug (name : String) (vendor product : UInt16) (deviceClass : UInt8)
  /-- Unplug the device of a name. -/
  | unplug (name : String)
  /-- Open a handle on the device of a name. -/
  | openHandle (name : String)
  /-- Close the oldest handle of a name. -/
  | closeHandle (name : String)
  /-- Let a transfer fail on the oldest handle of a name. -/
  | transferFailed (name : String)
  | sleep (millis : UInt64)
  deriving DecidableEq, Inhabited

/-- A list of steps. -/
structure Scenario where
  /-- What it is about; may be empty. -/
  description : String := ""
  steps : List Step
  deriving DecidableEq, Inhabited

end DeviceWatch
