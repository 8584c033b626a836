import Arbitrage.Data.Value
import Arbitrage.Data.SipHash
import Arbitrage.Fault
import Arbitrage.Text.Codes

/-!
The order in which a set is iterated.
-/

namespace Arbitrage.Value

def hashModulus : Nat := Nat.pow 2 61 - 1

/-- A hash with the sign of its number; `-1` is reserved, and becomes `-2`. -/
def signedHash (neg : Bool) (h : Nat) : Int :=
  let v : Int := if neg then -(h : Int) else h
  if v == -1 then -2 else v

/-- The hash of a number: `true` and `false` as 1 and 0, an integer modulo `hashModulus`, and a
finite double `m · 2^e` as `m · 2^(e mod 61)` modulo `hashModulus`, since `2^61` is 1 there.
Other values, NaN included, have no number hash. -/
def numberHash? : Value → Option Int
  | .bool b => some (if b then 1 else 0)
  | .int i => some (signedHash (i < 0) (i.natAbs % hashModulus))
  | .float x =>
    match Binary64.shape x with
    | .finite neg m e =>
      some (signedHash neg (m % hashModulus * Nat.pow 2 (e % 61).toNat % hashModulus))
    | .infinite neg => some (if neg then -314159 else 314159)
    | .nan => none
  | _ => none

def hashWord (h : Int) : UInt64 := UInt64.ofNat (h % (Nat.pow 2 64 : Int)).toNat

/-- The hash of a byte string: 0 when it is empty, else SipHash-1-3 under the zero key, with
the word of `-1` taken to the word of `-2`. -/
def bytesHash (bytes : List UInt8) : UInt64 :=
  if bytes.isEmpty then 0
  else
    let x := SipHash.hash13 0 0 bytes
    if x == 0xFFFFFFFFFFFFFFFF then 0xFFFFFFFFFFFFFFFE else x

def lowBytes (n : Nat) (v : Nat) : List UInt8 :=
  (List.range n).map fun i => (v / Nat.pow 256 i % 256).toUInt8

/-- The code units of a text at the narrowest width that holds all its characters. -/
def textUnits (s : String) : List UInt8 :=
  let cs := Text.codes s
  let top := cs.foldl max 0
  let width := if top < 256 then 1 else if top < 65536 then 2 else 4
  cs.flatMap (lowBytes width)

/-- The bytes of a date: the year, high byte first, then month and day. -/
def dateBytes (d : Date) : List UInt8 :=
  [(d.year / 256).toUInt8, (d.year % 256).toUInt8, d.month.toUInt8, d.day.toUInt8]

/-- The bytes of a moment without an offset: its date's, then hour, minute, second and the
microseconds in three bytes, high byte first. -/
def momentBytes (m : Moment) : List UInt8 :=
  dateBytes m.date ++ [m.hour.toUInt8, m.minute.toUInt8, m.second.toUInt8] ++
    (lowBytes 3 m.micro).reverse

/-- Combines hashes as a tuple of them does: each is added times one prime, the total rotated
left by 31 bits and multiplied by another, and the count is mixed in at the end. -/
def tupleHash (lanes : List UInt64) : UInt64 :=
  let acc := lanes.foldl (fun (acc : UInt64) lane =>
    let acc := acc + lane * 14029467366897019727
    let acc := (acc <<< 31) ||| (acc >>> 33)
    acc * 11400714785074694791) 2870177450012600261
  let acc := acc + (lanes.length.toUInt64 ^^^ (2870177450012600261 ^^^ 3527539))
  if acc == 0xFFFFFFFFFFFFFFFF then 1546275796 else acc

/-- The days, seconds and microseconds of a moment's UTC instant, counted from the day before
0001-01-01, with seconds and microseconds within their day and second. -/
def utcTriple (m : Moment) (offset : Int) : Int × Int × Int :=
  let total : Int := ((m.date.ordinal + 1 : Nat) : Int) * 86400 +
    (m.hour * 3600 + m.minute * 60 + m.second : Nat) - offset
  (total.fdiv 86400, total.fmod 86400, m.micro)

mutual
/-- The hash of a value when it is fixed in advance: numbers, texts, byte strings, dates,
moments, and tuples of such values, which hash as the tuple of their members' hashes. -/
def hash? : Value → Option UInt64
  | .str s => some (bytesHash (textUnits s))
  | .bytes b => some (bytesHash b)
  | .date d => some (bytesHash (dateBytes d))
  | .moment m =>
    match m.offset with
    | none => some (bytesHash (momentBytes m))
    | some off =>
      let (d, s, us) := utcTriple m off
      some (tupleHash ([d, s, us].map fun i => hashWord (signedHash (i < 0) (i.natAbs % hashModulus))))
  | .tuple xs => (hashList xs).map tupleHash
  | v => (numberHash? v).map hashWord
/-- The hashes of some values, when all are fixed in advance. -/
def hashList : List Value → Option (List UInt64)
  | [] => some []
  | x :: xs => do return (← hash? x) :: (← hashList xs)
end

/-- The slots of a set's table, each empty or holding a member with its hash. -/
abbrev Slots := Array (Option (Value × UInt64))

/-- The first free slot of the search that starts at slot `i` with the bits `perturb` still to
feed in. `fuel` bounds the jumps; the table always has a free slot, and once the bits are used
up the jumps visit every slot. -/
def freeSlot (slots : Slots) : Nat → Nat → Nat → Option Nat
  | 0, _, _ => none
  | fuel + 1, i, perturb =>
    let run := if i + 9 < slots.size then 10 else 1
    match ((List.range run).map (i + ·)).find? (fun j => (slots.getD j none).isNone) with
    | some j => some j
    | none => freeSlot slots fuel ((i * 5 + 1 + perturb / 32) % slots.size) (perturb / 32)

/-- The search for a member from slot `i` with the bits `perturb` still to feed in, which
compares the member only with members of the same hash: `some (true, j)` when slot `j` holds an
equal member, `some (false, j)` when slot `j` is the first free slot. Since no member is ever
taken out, an equal member lies on the search before its first free slot. `fuel` bounds the
jumps. -/
def probe (slots : Slots) (member : Value × UInt64) : Nat → Nat → Nat → Option (Bool × Nat)
  | 0, _, _ => none
  | fuel + 1, i, perturb =>
    let run := if i + 9 < slots.size then 10 else 1
    let found := ((List.range run).map (i + ·)).findSome? fun j =>
      match slots.getD j none with
      | none => some (false, j)
      | some (v, h) => if h == member.2 && Value.equal v member.1 then some (true, j) else none
    match found with
    | some r => some r
    | none => probe slots member fuel ((i * 5 + 1 + perturb / 32) % slots.size) (perturb / 32)

/-- Puts a member with its hash into the first free slot of its search. -/
def placeMember (slots : Slots) (member : Value × UInt64) : Slots :=
  let word := member.2.toNat
  match freeSlot slots (slots.size + 16) (word % slots.size) word with
  | some j => slots.set! j (some member)
  | none => slots

/-- The smallest table size, a power of two of at least 8, above `n`. -/
def sizeAbove (n : Nat) : Nat := max 8 (Nat.pow 2 (Nat.log2 n + 1))

def slotMembers (slots : Slots) : List (Value × UInt64) := slots.toList.filterMap id

/-- Moves the members of a table, in slot order, into a new empty table of `size` slots. -/
def regrow (slots : Slots) (size : Nat) : Slots :=
  (slotMembers slots).foldl placeMember (Array.replicate size none)

/-- A set's table: its slots, and how many of them hold a member. -/
structure Table where
  slots : Slots
  used : Nat

def Table.empty (size : Nat) : Table := ⟨Array.replicate size none, 0⟩

/-- Adds a member: an equal member already there keeps its place; otherwise the member goes to
the first free slot of its search, and a table filled to three fifths grows. -/
def Table.add (t : Table) (member : Value × UInt64) : Table :=
  let ⟨slots, used⟩ := t
  let word := member.2.toNat
  match probe slots member (slots.size + 16) (word % slots.size) word with
  | some (false, j) =>
    let slots := slots.set! j (some member)
    let used := used + 1
    if used * 5 < (slots.size - 1) * 3 then ⟨slots, used⟩
    else ⟨regrow slots (sizeAbove (if 50000 < used then used * 2 else used * 4)), used⟩
  | _ => ⟨slots, used⟩

/-- The members with their hashes, or `none` when one has no hash fixed in advance. -/
def withHashes (xs : List Value) : Option (List (Value × UInt64)) :=
  xs.mapM fun x => (hash? x).map fun h => (x, h)

/-- The members of a set made by adding `xs` one after another to an empty set, in the order it
is iterated; equal members after the first are left out. When a member has no fixed hash, the
members are given in the order they were first added. -/
def addOrder (xs : List Value) : List Value :=
  match withHashes xs with
  | none => xs.foldl (fun acc x => if acc.any (Value.equal · x) then acc else acc ++ [x]) []
  | some hashed => (slotMembers (hashed.foldl Table.add (Table.empty 8)).slots).map (·.1)

/-- The members of a set made by adding `xs` one after another, as `addOrder` gives them; a
member that cannot be in a set is a fault when it is added. -/
def setOfAdded (xs : List Value) : Except Fault (List Value) :=
  match xs.find? (!·.hashable) with
  | some x => throw (.unhashable x.typeName)
  | none => pure (addOrder xs)

/-- The members of a set filled from the distinct keys `xs` of a mapping, in the order it is
iterated; when a member has no fixed hash, in the order of the keys. -/
def setOrder (xs : List Value) : List Value :=
  match withHashes xs with
  | none => xs
  | some hashed =>
    let size := if xs.length < 5 then 8 else sizeAbove (2 * xs.length)
    (slotMembers (hashed.foldl Table.add (Table.empty size)).slots).map (·.1)

theorem mapM_eq_none_of_mem {α β : Type} (f : α → Option β) (xs : List α) (x : α)
    (hx : x ∈ xs) (h : f x = none) : xs.mapM f = none := by
  induction xs with
  | nil => cases hx
  | cons a as ih =>
    rcases List.mem_cons.mp hx with rfl | hmem
    · simp [List.mapM_cons, h]
    · cases hfa : f a <;> simp [List.mapM_cons, hfa, ih hmem]

theorem setOrder_of_unhashed (xs : List Value) (x : Value) (hx : x ∈ xs)
    (h : hash? x = none) : setOrder xs = xs := by
  unfold setOrder withHashes
  rw [mapM_eq_none_of_mem _ xs x hx (by simp [h])]

end Arbitrage.Value
