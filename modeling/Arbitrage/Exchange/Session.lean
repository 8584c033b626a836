import Arbitrage.Exchange.Script
import Arbitrage.Data.Json
import Arbitrage.Data.Order
import Arbitrage.Log

/-!
A session with scripted venues: the venues' scripts as they stand, and, in the order they happened,
the requests made of them, the log lines written and the pauses taken.
-/

namespace Arbitrage

/-- One request made of a venue: the venue, the method, its positional arguments and its
named options. -/
structure Call where
  venue : String
  method : String
  args : List Value
  options : List (String × Value)
  deriving Inhabited

/-- The venues' scripts as they stand, and the requests, log lines and pauses so far. -/
structure Session where
  venues : List (String × Venue)
  calls : Array Call
  logs : Array LogLine
  pauses : Array Value
  deriving Inhabited

abbrev SessionM := ExceptT Fault (StateM Session)

/-- What one piece of work did: its outcome, and the requests, log lines and pauses it made. -/
structure Part (β : Type) where
  outcome : Except Fault β
  calls : List Call
  logs : List LogLine
  pauses : List Value

namespace Session

def fresh (venues : List (String × Venue)) : Session := ⟨venues, #[], #[], #[]⟩

def note (c : Call) : SessionM Unit := modify fun s => { s with calls := s.calls.push c }

def write (severity : Severity) (logger message : String) : SessionM Unit :=
  modify fun s => { s with logs := s.logs.push ⟨severity, logger, message⟩ }

def pause (d : Value) : SessionM Unit := modify fun s => { s with pauses := s.pauses.push d }

/-- Logged work inside a session. -/
def logged {β : Type} (x : Logged β) : SessionM β := do
  let s ← get
  let (r, logs) := (ExceptT.run x).run s.logs
  set { s with logs := logs }
  MonadExcept.ofExcept r

def ofExcept {β : Type} : Except Fault β → SessionM β
  | .ok b => pure b
  | .error f => throw f

/-- The venue of a class name in a module of venue classes. -/
def venueOf (module : String) (name : Value) : SessionM (String × Venue) := do
  match name with
  | .str n => match (← get).venues.find? (·.1 == n) with
    | some e => pure e
    | none => throw (.noModuleAttribute module n)
  | v => throw (.badCall s!"attribute name must be string, not '{v.typeName}'")

/-- Opens a connection to the venue of a class name, with these parameters as its one
argument; answers the venue's name. -/
def connect (module : String) (name : Value) (args : List Value)
    (options : List (String × Value)) : SessionM String := do
  let (n, v) ← venueOf module name
  note ⟨n, "new", args, options⟩
  if let some r := v.openRefusal then throw (.exchangeRefused r.text)
  return n

/-- Makes a request of a venue's channel: the next scripted answer, if any. -/
def request (venue method : String) (args : List Value) (options : List (String × Value))
    (ch : Channel) : SessionM (Option Value) := do
  note ⟨venue, method, args, options⟩
  let s ← get
  match s.venues.find? (·.1 == venue) with
  | none => return none
  | some (_, v) =>
    let (a, v') := v.draw ch
    set { s with venues := s.venues.map fun (e : String × Venue) =>
      if e.1 == venue then (venue, v') else e }
    return a

/-- A request that must be answered: no answer is a refusal naming what was missing, and a
refusal answer fails with its text. -/
def fetch (venue method : String) (args : List Value) (options : List (String × Value))
    (ch : Channel) : SessionM Value := do
  match ← request venue method args options ch with
  | none => throw (.exchangeRefused ch.missing)
  | some a => match refusal? a with
    | some m => throw (.exchangeRefused m)
    | none => return a

/-- The number of answers still queued on a venue's channel. -/
def queued (venue : String) (ch : Channel) : SessionM Nat := do
  return match (← get).venues.find? (·.1 == venue) with
    | none => 0
    | some (_, v) => v.queued ch

/-- Closes a connection; the venue may refuse. -/
def close (venue : String) : SessionM Unit := do
  note ⟨venue, "close", [], []⟩
  if let some (_, v) := (← get).venues.find? (·.1 == venue) then
    if let some r := v.closeRefusal then throw (.exchangeRefused r.text)

/-- Runs a piece of work, keeping apart what it did. -/
def part {β : Type} (x : SessionM β) : StateM Session (Part β) := do
  let s ← get
  let (r, s') := (ExceptT.run x).run s
  set s'
  return ⟨r, s'.calls.toList.drop s.calls.size, s'.logs.toList.drop s.logs.size,
    s'.pauses.toList.drop s.pauses.size⟩

end Session

/-- Work in a session that also changes a value of its own; a failure keeps both changes made
before it. -/
abbrev SessionOn (σ : Type) := ExceptT Fault (StateM (Session × σ))

namespace SessionOn

/-- Session work inside work that also changes a value. -/
def session {σ β : Type} (x : SessionM β) : SessionOn σ β := do
  let (s, v) ← get
  let (r, s') := (ExceptT.run x).run s
  set (s', v)
  MonadExcept.ofExcept r

/-- Work on the value alone; a failure keeps what it changed. -/
def side {σ β : Type} (x : ExceptT Fault (StateM σ) β) : SessionOn σ β := do
  let (s, v) ← get
  let (r, v') := (ExceptT.run x).run v
  set (s, v')
  MonadExcept.ofExcept r

/-- Runs work that changes a value of its own inside plain session work, starting from `v`:
its result and the value it ends with. -/
def fromValue {σ β : Type} (x : SessionOn σ β) (v : σ) : SessionM (β × σ) := do
  let (r, (s', v')) := (ExceptT.run x).run ((← get), v)
  set s'
  match r with
  | .ok b => pure (b, v')
  | .error e => throw e

/-- Runs a piece of work, keeping apart what it did in the session. -/
def part {σ β : Type} (x : SessionOn σ β) : StateM (Session × σ) (Part β) := do
  let (s, _) ← get
  let (r, (s', v')) := (ExceptT.run x).run (← get)
  set (s', v')
  return ⟨r, s'.calls.toList.drop s.calls.size, s'.logs.toList.drop s.logs.size,
    s'.pauses.toList.drop s.pauses.size⟩

end SessionOn

/-- How arguments are written to order requests: every character outside printable ASCII
escaped, and non-finite doubles as `NaN`, `Infinity` and `-Infinity`. -/
def argumentStyle : Json.Style :=
  ⟨fun w => if w == "nan" then "NaN" else if w == "inf" then "Infinity" else "-Infinity", true⟩

/-- The order key of a request: its venue, its method and the JSON text of its arguments. -/
def Call.key (c : Call) : String × String × String :=
  (c.venue, c.method, Json.write argumentStyle (.list c.args))

/-- Whether one key comes no later than another, comparing part by part in the order of codes. -/
def keyLe (a b : String × String × String) : Bool :=
  Text.codeLess a.1 b.1 || (a.1 == b.1 &&
    (Text.codeLess a.2.1 b.2.1 || (a.2.1 == b.2.1 && Text.codeLe a.2.2 b.2.2)))

/-- The length of a pause as a double; a length that is no number counts as zero. -/
def pauseLength (v : Value) : Float :=
  match v.numToDouble with
  | .ok x => x
  | .error _ => 0.0

/-- What several tasks did at once, in a settled order: requests stably by key, log lines by
severity name, logger and text, pauses by length. -/
def Part.settled {β : Type} (p : Part β) : Part β :=
  { p with
    calls := p.calls.mergeSort fun a b => keyLe a.key b.key
    logs := p.logs.mergeSort fun a b => keyLe (a.severity.name, a.logger, a.message)
      (b.severity.name, b.logger, b.message)
    pauses := p.pauses.mergeSort fun a b => pauseLength a ≤ pauseLength b }

end Arbitrage
