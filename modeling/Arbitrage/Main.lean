import Arbitrage.Launch
import Arbitrage.Config.Load
import Arbitrage.Data.Json

section

open Arbitrage

/-- The text of `config.yaml`, if the file can be read. -/
def readConfigText : IO (Option String) := do
  try
    return some (← IO.FS.readFile "config.yaml")
  catch _ =>
    return none

def faultLine (f : Fault) : String := s!"{f.category.name}: {f.message}"

def logText (l : LogLine) : String := s!"[{l.severity.name}] {l.logger}: {l.message}"

def main : IO UInt32 := do
  let stderr ← IO.getStderr
  match Config.loadFile "config.yaml" (← readConfigText) with
  | .error f =>
    stderr.putStrLn (faultLine f)
    return 1
  | .ok c =>
    let input ← (← IO.getStdin).readToEnd
    let scripts := if input.all Char.isWhitespace then .ok (.dict []) else Json.read input
    match scripts with
    | .error e =>
      stderr.putStrLn s!"not a JSON document: {e}"
      return 2
    | .ok v =>
      let (r, s) := (ExceptT.run (launch c)).run (Session.fresh (Venue.table v))
      for l in s.logs do
        stderr.putStrLn (logText l)
      match r with
      | .ok _ => return 0
      | .error f =>
        stderr.putStrLn (faultLine f)
        return 1

end
