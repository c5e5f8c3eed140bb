import DeviceWatch.Device
import DeviceWatch.Event
/-!
# Tallies

What a pass over the callbacks did, in numbers, and a change of a bus with the
tally of the pass that told of it.
-/

namespace DeviceWatch

/-- What a pass over the callbacks did. -/
structure Tally where
  /-- The number of callbacks that ran. -/
  invoked : Nat := 0
  /-- The number of records that were removed. -/
  released : Nat := 0
  /-- The number of open handles that were disconnected. -/
  disconnected : Nat := 0
  deriving DecidableEq, Inhabited

/-- A change of the bus. -/
structure BusChange where
  /-- The device that came or went. -/
  device : Device
  event : Event
  /-- What the pass over the callbacks did. -/
  tally : Tally
  deriving DecidableEq, Inhabited

end DeviceWatch
