/-!
# Events

A device arrives or leaves. A callback listens for a set of these two, and a
registration may ask for the devices that are already there. Both sets travel
as bytes, of which only the known bits count.
-/

namespace DeviceWatch

/-- What happened to a device. -/
inductive Event where
  /-- The device is there and ready for use. -/
  | arrived
  | left
  deriving DecidableEq, Inhabited

/-- The bit that stands for an event in a byte. -/
def Event.bit : Event → UInt8
  | .arrived => 1
  | .left => 2

/-- The event's name, which is also its written form. -/
def Event.name : Event → String
  | .arrived => "arrived"
  | .left => "left"

/-- A set of events. -/
structure EventSet where
  /-- Whether arrivals belong to the set. -/
  arrived : Bool
  /-- Whether departures belong to the set. -/
  left : Bool
  deriving DecidableEq, Inhabited

namespace EventSet

/-- No event. -/
def none : EventSet := ⟨false, false⟩

/-- Both events. -/
def all : EventSet := ⟨true, true⟩

/-- The set of one event. -/
def single : Event → EventSet
  | .arrived => ⟨true, false⟩
  | .left => ⟨false, true⟩

/-- Whether an event belongs to the set. -/
def contains (s : EventSet) : Event → Bool
  | .arrived => s.arrived
  | .left => s.left

/-- Whether the set has no event. -/
def isEmpty (s : EventSet) : Bool :=
  !s.arrived && !s.left

/-- The events of either set. -/
def union (s t : EventSet) : EventSet :=
  ⟨s.arrived || t.arrived, s.left || t.left⟩

/-- The byte that stands for the set: the bits of its events. -/
def bits (s : EventSet) : UInt8 :=
  (if s.arrived then Event.arrived.bit else 0) ||| (if s.left then Event.left.bit else 0)

/-- The set a byte stands for; unknown bits are dropped. -/
def ofBits (b : UInt8) : EventSet :=
  ⟨b &&& Event.arrived.bit != 0, b &&& Event.left.bit != 0⟩

@[simp] theorem ofBits_bits (s : EventSet) : ofBits s.bits = s := by
  rcases s with ⟨_ | _, _ | _⟩ <;> decide

end EventSet

/-- What a registration asks for beyond its events. -/
structure Flags where
  /-- Deliver an arrival for every matching device that is already there. -/
  enumerate : Bool
  deriving DecidableEq, Inhabited

namespace Flags

/-- Nothing beyond the events. -/
def none : Flags := ⟨false⟩

/-- The devices that are already there. -/
def existing : Flags := ⟨true⟩

/-- The wishes of either. -/
def union (s t : Flags) : Flags :=
  ⟨s.enumerate || t.enumerate⟩

/-- Whether the first asks for all that the second asks for. -/
def contains (s t : Flags) : Bool :=
  s.enumerate || !t.enumerate

/-- The byte that stands for the flags. -/
def bits (s : Flags) : UInt8 :=
  if s.enumerate then 1 else 0

/-- The flags a byte stands for; unknown bits are dropped. -/
def ofBits (b : UInt8) : Flags :=
  ⟨b &&& 1 != 0⟩

@[simp] theorem ofBits_bits (s : Flags) : ofBits s.bits = s := by
  rcases s with ⟨_ | _⟩ <;> decide

end Flags
end DeviceWatch
