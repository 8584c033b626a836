import Arbitrage.Data.Coerce
import Arbitrage.Data.Text

namespace Arbitrage

/-- The answers scripted for one channel. -/
inductive Script where
  /-- The same answer on every request. -/
  | always (answer : Value)
  /-- Answers taken in order, one per request. -/
  | queue (answers : List Value)
  deriving Inhabited

namespace Script

/-- A script written as a document: a list is a queue, anything else is given every time. -/
def ofValue : Value → Script
  | .list vs => .queue vs
  | v => .always v

/-- The next answer and the script after it. -/
def next : Script → Option Value × Script
  | .always v => (some v, .always v)
  | .queue [] => (none, .queue [])
  | .queue (v :: vs) => (some v, .queue vs)

/-- The number of answers still queued; a script that always answers has none queued. -/
def queued : Script → Nat
  | .always _ => 0
  | .queue vs => vs.length

end Script

/-- What is asked of a venue. -/
inductive Channel where
  | markets
  | book (symbol : String)
  | ticker (symbol : String)
  | balance
  deriving DecidableEq, Inhabited

/-- The answer of a channel whose script has nothing left: the market list is then an empty
table, and the other channels have none. -/
def Channel.fallback : Channel → Option Value
  | .markets => some (.dict [])
  | _ => none

/-- The refusal text when a channel has no answer. -/
def Channel.missing : Channel → String
  | .markets => "no scripted markets"
  | .book s => s!"no scripted order book for {s}"
  | .ticker s => s!"no scripted ticker for {s}"
  | .balance => "no scripted balance"

/-- A scripted venue: the scripts of its channels, and the refusals of opening and of closing
a connection, if any. -/
structure Venue where
  scripts : List (Channel × Script)
  openRefusal : Option Value
  closeRefusal : Option Value
  deriving Inhabited

namespace Venue

/-- Draws the next answer of a channel, advancing its script; once the script has nothing
left the channel's fallback answers. -/
def draw (v : Venue) (ch : Channel) : Option Value × Venue :=
  match v.scripts.find? (·.1 == ch) with
  | none => (ch.fallback, v)
  | some (_, s) =>
    let (a, s') := s.next
    (a <|> ch.fallback, { v with scripts := v.scripts.map fun e => if e.1 == ch then (ch, s') else e })

/-- The number of answers still queued on a channel. -/
def queued (v : Venue) (ch : Channel) : Nat :=
  match v.scripts.find? (·.1 == ch) with
  | none => 0
  | some (_, s) => s.queued

/-- The scripts of a mapping from keys to scripts, each key naming a channel. -/
def scriptsOf (ch : String → Channel) (v : Value) : List (Channel × Script) :=
  match v with
  | .dict kvs => kvs.map fun (k, x) => (ch k.text, Script.ofValue x)
  | _ => []

/-- A venue written as a document: `markets` (an empty table when absent), `order_books` and
`tickers` by symbol, `balance`, and the refusals `construct_raise` and `close_raise`. -/
def ofSpec (spec : Value) : Venue :=
  let field := fun (name : String) => match spec with
    | .dict kvs => Value.field? kvs name
    | _ => none
  ⟨[(Channel.markets, Script.ofValue ((field "markets").getD (.dict [])))]
      ++ scriptsOf Channel.book ((field "order_books").getD .null)
      ++ scriptsOf Channel.ticker ((field "tickers").getD .null)
      ++ ((field "balance").map fun b => (Channel.balance, Script.ofValue b)).toList,
    field "construct_raise", field "close_raise"⟩

/-- The venues of a mapping from names to venue documents. -/
def table (v : Value) : List (String × Venue) :=
  match v with
  | .dict kvs => kvs.map fun (k, spec) => (k.text, ofSpec spec)
  | _ => []

end Venue

/-- Whether an answer carries the mark `key`: a mapping holding that key with a truthy value. -/
def marked (key : String) : Value → Bool
  | .dict kvs => (Value.field? kvs key).any Value.truthy
  | _ => false

def refusal? : Value → Option String
  | .dict kvs => (Value.field? kvs "$raise").map Value.text
  | _ => none

end Arbitrage
