import Arbitrage.Number.Binary64
import Arbitrage.Data.Calendar

/-!
Document values: what configuration files, secrets and exchange responses are made of.
-/

namespace Arbitrage

/-- A document value; mappings are entry lists in insertion order. -/
inductive Value where
  | null
  | bool (b : Bool)
  | int (i : Int)
  | float (x : Float)
  | str (s : String)
  | list (items : List Value)
  | dict (entries : List (Value × Value))
  | date (d : Date)
  | moment (m : Moment)
  | bytes (b : List UInt8)
  | set (items : List Value)
  | tuple (items : List Value)
  deriving Inhabited

namespace Value

/-- The name of a value's kind, as messages about it spell it. -/
def typeName : Value → String
  | .null => "NoneType"
  | .bool _ => "bool"
  | .int _ => "int"
  | .float _ => "float"
  | .str _ => "str"
  | .list _ => "list"
  | .dict _ => "dict"
  | .date _ => "datetime.date"
  | .moment _ => "datetime.datetime"
  | .bytes _ => "bytes"
  | .set _ => "set"
  | .tuple _ => "tuple"

/-- Whether a value counts as true: null, false, zero, and empty texts and containers do not. -/
def truthy : Value → Bool
  | .null => false
  | .bool b => b
  | .int i => i != 0
  | .float x => !(x == 0.0)
  | .str s => !s.isEmpty
  | .list xs => !xs.isEmpty
  | .dict kvs => !kvs.isEmpty
  | .date _ | .moment _ => true
  | .bytes b => !b.isEmpty
  | .set xs => !xs.isEmpty
  | .tuple xs => !xs.isEmpty

/-- A boolean or an integer as an integer. -/
def asInt? : Value → Option Int
  | .bool b => some (if b then 1 else 0)
  | .int i => some i
  | _ => none

/-- Numeric equality across kinds: doubles compare with integers exactly. -/
def numEq (a b : Value) : Option Bool :=
  match a, b with
  | .float x, .float y => some (x == y)
  | .float x, v | v, .float x =>
    match v.asInt? with
    | some i => some (Binary64.compareInt i x == some .eq)
    | none => none
  | _, _ =>
    match a.asInt?, b.asInt? with
    | some i, some j => some (i == j)
    | _, _ => none

mutual
/-- Equality of values: numbers by value across kinds, texts by characters, lists and tuples
member by member (a list never equals a tuple), mappings as sets of entries. -/
def equal : Value → Value → Bool
  | .null, .null => true
  | .str s, .str t => s == t
  | .list xs, .list ys => equalList xs ys
  | .tuple xs, .tuple ys => equalList xs ys
  | .dict xs, .dict ys => xs.length == ys.length && dictWithin xs ys
  | .date d, .date e => d == e
  | .moment m, .moment n => m.same n
  | .bytes b, .bytes c => b == c
  | .set xs, .set ys => xs.length == ys.length && setWithin xs ys
  | a, b => (numEq a b).getD false
termination_by a b => sizeOf a + sizeOf b
/-- Member-by-member equality of two lists. -/
def equalList : List Value → List Value → Bool
  | [], [] => true
  | x :: xs, y :: ys => equal x y && equalList xs ys
  | _, _ => false
termination_by xs ys => sizeOf xs + sizeOf ys
/-- Every entry of the first mapping has an equal entry in the second. -/
def dictWithin : List (Value × Value) → List (Value × Value) → Bool
  | [], _ => true
  | (k, v) :: rest, ys => dictHas k v ys && dictWithin rest ys
termination_by xs ys => sizeOf xs + sizeOf ys
/-- The mapping holds an entry with a key equal to `k` and a value equal to `v`. -/
def dictHas (k v : Value) : List (Value × Value) → Bool
  | [] => false
  | (k', v') :: rest => (equal k k' && equal v v') || dictHas k v rest
termination_by ys => sizeOf k + sizeOf v + sizeOf ys
/-- Every member of the first set has an equal member in the second. -/
def setWithin : List Value → List Value → Bool
  | [], _ => true
  | x :: rest, ys => setHas x ys && setWithin rest ys
termination_by xs ys => sizeOf xs + sizeOf ys
/-- The set holds a member equal to `x`. -/
def setHas (x : Value) : List Value → Bool
  | [] => false
  | y :: rest => equal x y || setHas x rest
termination_by ys => sizeOf x + sizeOf ys
end

mutual
/-- Whether a value may be a mapping key: lists, mappings and sets may not, and a tuple may
when its members may. -/
def hashable : Value → Bool
  | .list _ | .dict _ | .set _ => false
  | .tuple xs => hashableList xs
  | _ => true
/-- Whether every member of a list may be a mapping key. -/
def hashableList : List Value → Bool
  | [] => true
  | x :: xs => hashable x && hashableList xs
end

def lookup {β : Type} (kvs : List (Value × β)) (k : Value) : Option β :=
  (kvs.find? (fun e => equal e.1 k)).map (·.2)

/-- Sets the entry for a key: an existing equal key keeps its place and its first spelling and
takes the new value; a new key goes to the end. -/
def insert {β : Type} (kvs : List (Value × β)) (k : Value) (v : β) : List (Value × β) :=
  if kvs.any (fun e => equal e.1 k) then
    kvs.map (fun e => if equal e.1 k then (e.1, v) else e)
  else kvs ++ [(k, v)]

def field? (kvs : List (Value × Value)) (name : String) : Option Value := lookup kvs (.str name)

end Value

end Arbitrage
