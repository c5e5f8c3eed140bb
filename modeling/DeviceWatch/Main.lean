import DeviceWatch.Codec.Ports
import DeviceWatch.Monitor
/-!
# The command line

The monitor as a program. Its first argument, if there is one, is the path of
its settings. The ports are told on standard input: each line is the listing
that one scan finds, and the end of the input interrupts the monitor.
-/

namespace DeviceWatch.CommandLine

/-- The bytes of the file at a path, if it can be read. -/
def readBytes? (path : String) : IO (Option ByteArray) := do
  try
    return some (← IO.FS.readBinFile path)
  catch _ =>
    return none

/-- Whether a path leads to anything. -/
def exists? (path : String) : IO Bool := do
  try
    let _ ← IO.FS.realPath path
    return true
  catch _ =>
    return false

/-- The file at a path for a view of files, if the path leads to anything. -/
def look (path : Option String) : IO (List (String × Option String)) := do
  match path with
  | none => return []
  | some path =>
    if ← exists? path then
      return [(path, (← readBytes? path).bind String.fromUTF8?)]
    else
      return []

/-- The listings on the lines of a text, up to the first that is none. -/
def listings (text : String) : List Listing :=
  ((text.splitOn "\n").takeWhile fun line => !line.isEmpty).map fun line =>
    ((Json.parse? line).bind Listing.ofJson?).getD (.error ⟨"malformed listing"⟩)

/-- The report of a failure: its outermost message, then the causes, which are
numbered if there are several. -/
def failureText : List String → String
  | [] => ""
  | [message] => "Error: " ++ message
  | [message, cause] => "Error: " ++ message ++ "\n\nCaused by:\n    " ++ cause
  | message :: causes =>
    let lines := causes.zipIdx.map fun (cause, i) => "\n    " ++ Text.decimal i ++ ": " ++ cause
    "Error: " ++ message ++ "\n\nCaused by:" ++ String.join lines

/-- Gathers what the monitor is to be started with. -/
def gather (args : List String) : IO Monitor.Input := do
  let surroundings : Surroundings :=
    { home := ← IO.getEnv "HOME", configHome := ← IO.getEnv "XDG_CONFIG_HOME" }
  let settingsPath := args.head?
  let settingsFile ← look (settingsPath.or surroundings.settingsPath?)
  let input : Monitor.Input :=
    { files := .ofList settingsFile, surroundings, settingsPath }
  match Monitor.settings input with
  | .error _ => return input
  | .ok (settings, _) =>
    match settings.scenario with
    | some path => return { input with files := .ofList (settingsFile ++ (← look (some path))) }
    | none => return { input with listings := listings (← (← IO.getStdin).readToEnd) }

end DeviceWatch.CommandLine

/-- Runs the monitor, and prints its report. -/
def main (args : List String) : IO UInt32 := do
  let report := DeviceWatch.Monitor.run (← DeviceWatch.CommandLine.gather args)
  for line in report.lines do
    IO.println line.text
  unless report.failure.isEmpty do
    IO.eprintln (DeviceWatch.CommandLine.failureText report.failure)
  return UInt32.ofNat report.code
