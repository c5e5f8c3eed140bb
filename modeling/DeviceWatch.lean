import DeviceWatch.Main
import DeviceWatch.Session.Run
import DeviceWatch.Proofs.Law
import DeviceWatch.Proofs.Composition
import DeviceWatch.Proofs.Registry
import DeviceWatch.Proofs.Repertoire
import DeviceWatch.Proofs.Lifecycle
import DeviceWatch.Proofs.Identity
import DeviceWatch.Proofs.Retirement
import DeviceWatch.Proofs.Turn
import DeviceWatch.Proofs.Account
import DeviceWatch.Proofs.Roster
import DeviceWatch.Proofs.Still
import DeviceWatch.Proofs.Departure
import DeviceWatch.Proofs.Closing
import DeviceWatch.Proofs.Disconnection
import DeviceWatch.Proofs.Heeding
import DeviceWatch.Proofs.Attending
import DeviceWatch.Proofs.Observer
import DeviceWatch.Proofs.Bus
import DeviceWatch.Proofs.Changes
import DeviceWatch.Proofs.Balance
import DeviceWatch.Proofs.GivingUp
import DeviceWatch.Proofs.Tallies
import DeviceWatch.Proofs.Attachment
import DeviceWatch.Proofs.Replay
import DeviceWatch.Proofs.Naming
import DeviceWatch.Proofs.Ports
import DeviceWatch.Proofs.Watching
import DeviceWatch.Proofs.Chronicle
import DeviceWatch.Proofs.Recounting
import DeviceWatch.Proofs.Arrival
import DeviceWatch.Proofs.FailedTransfer
import DeviceWatch.Proofs.Listening
import DeviceWatch.Proofs.Rehearsal
import DeviceWatch.Proofs.Selection
import DeviceWatch.Proofs.Monitoring
import DeviceWatch.Proofs.Alike
import DeviceWatch.Proofs.Demands
import DeviceWatch.Proofs.Driving
import DeviceWatch.Proofs.Serving
import DeviceWatch.Proofs.Moments
import DeviceWatch.Proofs.Order
import DeviceWatch.Proofs.Poll
import DeviceWatch.Proofs.Enumeration
import DeviceWatch.Proofs.JsonText
import DeviceWatch.Proofs.RoundTrip
import DeviceWatch.Proofs.Opening
import DeviceWatch.Proofs.FollowUp
import DeviceWatch.Proofs.Shifts
import DeviceWatch.Proofs.PortChanges
import DeviceWatch.Proofs.Refusal
import DeviceWatch.Proofs.Leading
import DeviceWatch.Proofs.Attempts
import DeviceWatch.Proofs.StepFailures
import DeviceWatch.Proofs.HandleQueues
import DeviceWatch.Proofs.Folding
import DeviceWatch.Proofs.Displacement
import DeviceWatch.Proofs.Fate
import DeviceWatch.Proofs.Rounds
import DeviceWatch.Proofs.Aftermath
import DeviceWatch.Proofs.Interruption
import DeviceWatch.Proofs.Addresses
import DeviceWatch.Proofs.Filters
import DeviceWatch.Proofs.PartialSettings
import DeviceWatch.Proofs.Entries
