import Flotilla.Process

/-!
# The command line

Reads the settings from the environment and writes what the process logs.  The
process runs where there are no tools and no network, and is told to stop after one
cycle.
-/

open Flotilla

/-- The settings that the environment holds. -/
def environment : IO (List (String × String)) := do
  let names := ["RECONCILE_INTERVAL_SECS", "CONTROLLER_RESYNC_SECS", "SERVICE_CONTROLLER_WORKERS",
    "METRICS_ADDR", "FEATURE_GATES", "KIND_BINARY", "DOCKER_BINARY"]
  let mut found := []
  for name in names do
    if let some value ← IO.getEnv name then
      found := (name, value) :: found
  return found

/-- Run the process and end with its exit code. -/
def main : IO UInt32 := do
  let vars ← environment
  let around : Fleet.Surrounding :=
    { machine := fun _ _ => .error (Tools.systemError Tools.noSuchFile) }
  let r := ProcessRun.run (fun name => vars.lookup name) { around } .terminate 1
  for line in r.log do
    IO.println line.render
  IO.eprint r.stderr
  return UInt32.ofNat r.exit
