import Arbitrage.Fault
import Arbitrage.Text.Printf

namespace Arbitrage

/-- How serious a log line is, from tracing detail up to critical. -/
inductive Severity where
  | trace
  | debug
  | info
  | warning
  | error
  | critical
  deriving Repr, Inhabited, DecidableEq

/-- The name of a severity as a log line shows it. -/
def Severity.name : Severity → String
  | .trace => "TRACE"
  | .debug => "DEBUG"
  | .info => "INFO"
  | .warning => "WARNING"
  | .error => "ERROR"
  | .critical => "CRITICAL"

/-- The numeric level of a severity: a logger set to a level drops lines below it. -/
def Severity.rank : Severity → Nat
  | .trace => 5
  | .debug => 10
  | .info => 20
  | .warning => 30
  | .error => 40
  | .critical => 50

/-- One written log line. -/
structure LogLine where
  severity : Severity
  logger : String
  message : String
  deriving Inhabited

/-- The message of a log call: the template itself without values, otherwise the template
filled from them, or a note naming the class of fault when filling fails. -/
def LogLine.messageOf (template : Value) (args : List Value) : String :=
  if args.isEmpty then template.text
  else match Printf.render template.text (Printf.Source.ofArgs args) with
    | .ok t => t
    | .error f => "<format error " ++ f.category.name ++ ">"

/-- The debug switch, the loggers named so far, and the levels set on named loggers. -/
structure LogSettings where
  debug : Bool
  levels : List (String × Nat)
  known : List String := []
  deriving Inhabited

namespace LogSettings

def initial : LogSettings := ⟨false, [], []⟩

/-- The name a logger goes by: the empty name is the top logger, `root`. -/
def loggerName (name : String) : String := if name.isEmpty then "root" else name

/-- The names under which a logger's parent is sought, nearest first, from the positions of
the dots in its name, last first: the name is cut before its last dot, then before the last
dot standing at least two places earlier, and so on while the cut leaves a name. -/
def parentNames (name : String) : List String :=
  let cs := name.toList
  let dots := ((List.range cs.length).filter fun i => cs[i]? == some '.').reverse
  let rec cuts : List Nat → List String
    | [] => []
    | [i] => if i == 0 then [] else [String.ofList (cs.take i)]
    | i :: tail@(j :: rest) =>
      if i == 0 then []
      else String.ofList (cs.take i) :: (if j + 1 == i then cuts rest else cuts tail)
  cuts dots

def isKnown (s : LogSettings) (name : String) : Bool :=
  s.known.contains name || s.levels.any (·.1 == name)

/-- The level a logger passes: its own, else its parent's, the parent being the nearest known
logger among the names sought, or the top logger; the top logger passes debug unless set
otherwise. `fuel` bounds the steps up; each step shortens the name. -/
def thresholdFrom (s : LogSettings) : Nat → String → Nat
  | 0, _ => Severity.debug.rank
  | fuel + 1, name =>
    match s.levels.find? (·.1 == name) with
    | some (_, level) => level
    | none =>
      if name == "root" then Severity.debug.rank
      else match (parentNames name).find? s.isKnown with
        | some p => s.thresholdFrom fuel p
        | none => s.thresholdFrom fuel "root"

def threshold (s : LogSettings) (logger : String) : Nat :=
  let name := loggerName logger
  s.thresholdFrom (name.length + 2) name

/-- Whether lines of a logger are recorded: those of the event loop and of thread pools, whose
names begin with `asyncio` or `concurrent`, are not. -/
def recorded (logger : String) : Bool :=
  !(logger.startsWith "asyncio" || logger.startsWith "concurrent")

def passes (s : LogSettings) (severity : Severity) (logger : String) : Bool :=
  s.threshold logger ≤ severity.rank && recorded (loggerName logger)

/-- Names a logger, so that loggers below it find it as their parent. -/
def touch (s : LogSettings) (logger : String) : LogSettings :=
  let name := loggerName logger
  if s.known.contains name then s else { s with known := s.known ++ [name] }

/-- Sets the debug switch, and sets each named logger to debug when it is on and to info
when it is off. -/
def setup (s : LogSettings) (debug : Bool) (modules : List String) : LogSettings :=
  let level := if debug then Severity.debug.rank else Severity.info.rank
  { s with debug, levels := modules.foldl (fun ls m =>
      let m := loggerName m
      if ls.any (·.1 == m) then ls.map fun e => if e.1 == m then (m, level) else e
      else ls ++ [(m, level)]) s.levels }

end LogSettings

/-- Work that writes log lines and may fail; the lines survive a failure. -/
abbrev Logged := ExceptT Fault (StateM (Array LogLine))

namespace Logged

def write (severity : Severity) (logger message : String) : Logged Unit :=
  modify (·.push ⟨severity, logger, message⟩)

/-- Writes one line whose message is a template filled from values, or a note naming the class
of fault when filling fails; a template without values is written as it stands. -/
def writeFilled (severity : Severity) (logger template : String) (args : List Value) :
    Logged Unit :=
  write severity logger (LogLine.messageOf (.str template) args)

def debugIf (on : Bool) (logger message : String) : Logged Unit :=
  if on then write .debug logger message else pure ()

def ofExcept {β : Type} : Except Fault β → Logged β
  | .ok b => pure b
  | .error e => throw e

/-- Runs logged work from no lines: its outcome and the lines it wrote. -/
def run {β : Type} (x : Logged β) : Except Fault β × Array LogLine :=
  (ExceptT.run x).run #[]

end Logged

/-- A debug-only log call from a logger, with its template and values: the line is written,
under the logger's name, when debug output is on and the logger passes the severity. -/
def LogSettings.debugCall (s : LogSettings) (severity : Severity) (logger : String)
    (template : Value) (args : List Value) : Logged Unit :=
  if s.debug && s.passes severity logger then
    Logged.write severity (LogSettings.loggerName logger) (LogLine.messageOf template args)
  else pure ()

end Arbitrage
