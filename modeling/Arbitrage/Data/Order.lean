import Arbitrage.Data.Value
import Arbitrage.Fault
import Arbitrage.Number.Amount
import Arbitrage.Text.Codes

namespace Arbitrage.Value

/-- The exact order of two numbers; `some none` when a NaN takes part, `none` when one of them
is no number. -/
def numCompare (a b : Value) : Option (Option Ordering) :=
  match a, b with
  | .float x, .float y =>
    if x.isNaN || y.isNaN then some none
    else some (some (if x < y then .lt else if y < x then .gt else .eq))
  | .float x, v =>
    match v.asInt? with
    | some i => some ((Binary64.compareInt i x).map Ordering.swap)
    | none => none
  | v, .float y =>
    match v.asInt? with
    | some i => some (Binary64.compareInt i y)
    | none => none
  | _, _ =>
    match a.asInt?, b.asInt? with
    | some i, some j => some (some (compare i j))
    | _, _ => none

/-- The order comparisons. -/
inductive Comparison where
  | lt
  | le
  | gt
  | ge
  deriving DecidableEq

namespace Comparison

/-- The operator of a comparison. -/
def symbol : Comparison → String
  | .lt => "<"
  | .le => "<="
  | .gt => ">"
  | .ge => ">="

/-- Whether a comparison holds of two things that stand in the given order. -/
def holds : Comparison → Ordering → Bool
  | .lt, o => o == .lt
  | .le, o => o != .gt
  | .gt, o => o == .gt
  | .ge, o => o != .lt

end Comparison

def textOrder (x y : String) : Ordering :=
  if Text.codeLess x y then .lt else if Text.codeLess y x then .gt else .eq

def bytesOrder (x y : List UInt8) : Ordering :=
  if decide (x < y) then .lt else if decide (y < x) then .gt else .eq

/-- A comparison of two values holding no others: numbers by value, false whenever a NaN takes
part; texts by their codes; byte strings byte by byte; anything else is a fault naming the
operator and both kinds. -/
def compareAtom (op : Comparison) (a b : Value) : Except Fault Bool :=
  match numCompare a b, a, b with
  | some o, _, _ => pure ((o.map op.holds).getD false)
  | none, .str x, .str y => pure (op.holds (textOrder x y))
  | none, .bytes x, .bytes y => pure (op.holds (bytesOrder x y))
  | none, _, _ => throw (.unordered op.symbol a.typeName b.typeName)

mutual
/-- A comparison of two values: two lists, or two tuples, compare at the first place where their
members differ, by the same comparison, and by their lengths when one begins the other; other
values compare as `compareAtom` says. -/
def compareWith (op : Comparison) : Value → Value → Except Fault Bool
  | .list xs, .list ys | .tuple xs, .tuple ys => compareListWith op xs ys
  | a, b => compareAtom op a b
/-- A comparison of the members of two lists. -/
def compareListWith (op : Comparison) : List Value → List Value → Except Fault Bool
  | [], [] => pure (op.holds .eq)
  | [], _ :: _ => pure (op.holds .lt)
  | _ :: _, [] => pure (op.holds .gt)
  | x :: xs, y :: ys => if Value.equal x y then compareListWith op xs ys else compareWith op x y
end

def less (a b : Value) : Except Fault Bool := compareWith .lt a b

def lessEq (a b : Value) : Except Fault Bool := compareWith .le a b

def greater (a b : Value) : Except Fault Bool := compareWith .gt a b

/-- The least of some values: the first of them unless a later one is strictly less. -/
def smallest : List Value → Except Fault Value
  | [] => throw (.invalid "min() arg is an empty sequence")
  | v :: vs => vs.foldlM (fun m x => do return if ← less x m then x else m) v

/-- How many members after `prev` go on falling strictly, each below the one before. -/
def fallingAfter (prev : Value) : List Value → Except Fault Nat
  | [] => pure 0
  | x :: xs => do if ← less x prev then return (← fallingAfter x xs) + 1 else return 0

/-- How many members after `prev` go on without falling, none below the one before. -/
def risingAfter (prev : Value) : List Value → Except Fault Nat
  | [] => pure 0
  | x :: xs => do if ← less x prev then return 0 else return (← risingAfter x xs) + 1

/-- The run a list starts with: its length, and whether it falls strictly (otherwise it never
falls). The second member is compared with the first, then each later one with the one before
it, until the run ends. -/
def runAtStart : List Value → Except Fault (Nat × Bool)
  | [] => pure (0, false)
  | [_] => pure (1, false)
  | a :: b :: rest => do
    if ← less b a then return ((← fallingAfter b rest) + 2, true)
    else return ((← risingAfter b rest) + 2, false)

/-- Where `pivot` goes among the sorted members in places `lo` to `hi`: after every member it is
not less than, found by halving the places, each time comparing the pivot with the member in
the middle. -/
def insertionPlace (sorted : Array Value) (pivot : Value) (lo hi : Nat) : Except Fault Nat :=
  if lo < hi then do
    let p := lo + (hi - lo) / 2
    if ← less pivot (sorted.getD p .null) then insertionPlace sorted pivot lo p
    else insertionPlace sorted pivot (p + 1) hi
  else pure lo
termination_by hi - lo
decreasing_by all_goals omega

/-- The members sorted by `<`, keeping equal members in their order: the run the list starts
with is taken (turned round when it falls), and each later member is put in its place by
halving. These are the comparisons a sort of fewer than 64 members makes, in that order, so
the first pair that cannot be compared is the one a fault names. A longer list is sorted the
same way; a sort that merges runs compares other pairs, but gives the same order whenever the
members are ordered consistently. -/
def sorted (xs : List Value) : Except Fault (List Value) := do
  if xs.length < 2 then return xs
  let (n, falling) ← runAtStart xs
  let run := if falling then (xs.take n).reverse else xs.take n
  let mut out := run.toArray
  for x in xs.drop n do
    let place ← insertionPlace out x 0 out.size
    out := out.insertIdxIfInBounds place x
  return out.toList

/-- A value repeated or multiplied `n` times: numbers are multiplied, texts, byte strings, lists
and tuples repeated (nothing for `n ≤ 0`). -/
def times (v : Value) (n : Int) : Except Fault Value :=
  match v with
  | .int i => pure (.int (i * n))
  | .bool b => pure (.int ((if b then 1 else 0) * n))
  | .float x => pure (.float (x * Binary64.ofInt n))
  | .str s => pure (.str (String.join (List.replicate n.toNat s)))
  | .bytes b => pure (.bytes (List.replicate n.toNat b).flatten)
  | .list xs => pure (.list (List.replicate n.toNat xs).flatten)
  | .tuple xs => pure (.tuple (List.replicate n.toNat xs).flatten)
  | v => throw (.badOperands "*" v.typeName "int")

/-- A number as a double; an integer too large for a double is a fault. -/
def numToDouble (v : Value) : Except Fault Float :=
  match v with
  | .float x => pure x
  | v =>
    match v.asInt? with
    | some i =>
      let x := Binary64.ofInt i
      if x.isInf then throw .intTooLarge else pure x
    | none => throw (.badOperands "/" v.typeName v.typeName)

/-- A double times a value, as a double: a number is taken as a double (an integer too large
for one is a fault); a text, list, tuple or byte string cannot be repeated a fractional number of
times; anything else has no product with a double. -/
def scaledBy (x : Float) (v : Value) : Except Fault Float :=
  match v with
  | .float y => pure (x * y)
  | .str _ | .list _ | .tuple _ | .bytes _ =>
    throw (.badCall "can't multiply sequence by non-int of type 'float'")
  | v => match v.asInt? with
    | some _ => do return x * (← numToDouble v)
    | none => throw (.badOperands "*" "float" v.typeName)

/-- True division of two integers, rounded to the nearest double: a zero divisor is the fault
`intDivisionByZero`, and a quotient that rounds past the largest double `quotientTooLarge`. -/
def intQuotient (i j : Int) : Except Fault Float :=
  if j == 0 then throw .intDivisionByZero
  else
    let x := Binary64.divInt i j
    if x.isInf then throw .quotientTooLarge else pure x

/-- True division of two numbers. -/
def trueDiv (a b : Value) : Except Fault Float :=
  match a.asInt?, b.asInt? with
  | some i, some j => intQuotient i j
  | _, _ =>
    if !(a matches .float _ || a.asInt?.isSome) || !(b matches .float _ || b.asInt?.isSome) then
      throw (.badOperands "/" a.typeName b.typeName)
    else do
      let x ← numToDouble a
      let y ← numToDouble b
      if y == 0.0 then throw .doubleDivisionByZero else pure (x / y)

/-- The sum of two numbers. -/
def plus (a b : Value) : Except Fault Value :=
  match a.asInt?, b.asInt? with
  | some i, some j => pure (.int (i + j))
  | _, _ =>
    if (a matches .float _ || a.asInt?.isSome) && (b matches .float _ || b.asInt?.isSome) then do
      return .float ((← numToDouble a) + (← numToDouble b))
    else throw (.badOperands "+" a.typeName b.typeName)

def sum (vs : List Value) : Except Fault Value := vs.foldlM plus (.int 0)

/-- A number as an amount over doubles: an integer (or boolean) is whole, a double a scalar. -/
def toAmount (v : Value) : Except Fault (Amount Float) :=
  match v with
  | .float x => pure (.scalar x)
  | v => match v.asInt? with
    | some i => pure (.whole i)
    | none => throw (.notRealForDouble v.typeName)

end Arbitrage.Value
