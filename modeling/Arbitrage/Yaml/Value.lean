import Arbitrage.Yaml.Scalar
import Arbitrage.Data.SetOrder
import Std.Data.HashMap

namespace Arbitrage.Yaml

/-- Codes a YAML text may hold: tab, line feed, carriage return, printable ASCII, next line,
and the printable planes of Unicode; no surrogate. -/
def isAllowedCode (n : Nat) : Bool :=
  n == 9 || n == 10 || n == 13 || (0x20 ≤ n && n ≤ 0x7E) || n == 0x85 ||
    (0xA0 ≤ n && n ≤ 0xD7FF) || (0xE000 ≤ n && n ≤ 0xFFFD) || 0x10000 ≤ n

/-- The text of a file read in text mode: CR LF and a lone CR become LF. -/
def textModeLines (raw : String) : String :=
  let rec go : List Char → List Char
    | '\r' :: '\n' :: rest => '\n' :: go rest
    | '\r' :: rest => '\n' :: go rest
    | c :: rest => c :: go rest
    | [] => []
  String.ofList (go raw.toList)

def isCollectionTag (t : String) : Bool :=
  t == stdTag "seq" || t == stdTag "map" || t == stdTag "set" || t == stdTag "omap" ||
    t == stdTag "pairs"

/-- An object built from a document: a scalar's value, or a collection whose members are
objects by number. Ordered pairs are a list of two-member tuples. -/
inductive Obj where
  | scalar (v : Value)
  | list (items : List Nat)
  | dict (entries : List (Nat × Nat))
  | set (members : List Nat)
  | pairs (ps : List (Nat × Nat))
  deriving Inhabited

def Obj.emptyOf (t : String) : Obj :=
  if t == stdTag "map" then .dict [] else if t == stdTag "set" then .set []
  else if t == stdTag "seq" then .list [] else .pairs []

/-- The number of the one double every `.nan` scalar builds, so that two such keys are one
key although NaN equals nothing. -/
def sharedNan : Nat := 0

/-- Building state: the tags of the nodes and the entries of the mapping nodes as they stand
(merging changes both), the objects built so far, the object each node built, and the
collections made with their nodes, oldest first, of which the first `filled` are filled. -/
structure Build where
  tags : Array String
  entries : Array (List (Nat × Nat))
  objects : Array Obj := #[.scalar (.float (0.0 / 0.0))]
  built : Array (Option Nat)
  made : Array (Nat × Nat) := #[]
  filled : Nat := 0

abbrev BuildM := StateT Build (Except Fault)

def tagOf (i : Nat) : BuildM String := return (← get).tags.getD i ""

def entriesOf (i : Nat) : BuildM (List (Nat × Nat)) := return (← get).entries.getD i []

def setEntries (i : Nat) (es : List (Nat × Nat)) : BuildM Unit :=
  modify fun s => { s with entries := s.entries.set! i es }

/-- Adds an object; answers its number. -/
def addObject (o : Obj) : BuildM Nat := do
  let r := (← get).objects.size
  modify fun s => { s with objects := s.objects.push o }
  return r

/-- Puts a mapping node's merged entries in front of its own, for good: each `<<` entry is
taken out, and the entries of the mapping it names, or of the mappings of the list it names
with the last one first, are put in front once all are collected. A named mapping is first
merged in place itself, so a mapping that merges itself sees its entries as they stand at that
moment, and the node's entries are looked up afresh at every step. A `=` key is retagged as a
text. A `<<` naming anything else is the fault `malformed`. `fuel` bounds the depth of merges,
`steps` the entries looked at in one mapping. -/
def flatten (doc : Document) (steps : Nat) : Nat → Nat → BuildM Unit
  | 0, _ => throw .malformed
  | fuel + 1, i => do
    -- With no `<<` or `=` key the steps below change nothing.
    let s ← get
    if !(s.entries.getD i []).any fun (k, _) =>
        let t := s.tags.getD k ""
        t == stdTag "merge" || t == stdTag "value" then return
    let mut merge : List (Nat × Nat) := []
    let mut index := 0
    for _ in [0:steps] do
      let es ← entriesOf i
      match es[index]? with
      | none => break
      | some (k, v) =>
        let tk ← tagOf k
        if tk == stdTag "merge" then
          setEntries i (es.eraseIdx index)
          match (doc.node v).shape with
          | .mapping _ =>
            flatten doc steps fuel v
            merge := merge ++ (← entriesOf v)
          | .sequence items =>
            let mut groups : List (List (Nat × Nat)) := []
            for item in items do
              match (doc.node item).shape with
              | .mapping _ =>
                flatten doc steps fuel item
                groups := groups ++ [← entriesOf item]
              | _ => throw .malformed
            for g in groups.reverse do
              merge := merge ++ g
          | .scalar _ => throw .malformed
        else
          if tk == stdTag "value" then
            modify fun s => { s with tags := s.tags.set! k (stdTag "str") }
          index := index + 1
    if !merge.isEmpty then setEntries i (merge ++ (← entriesOf i))

/-- The object of a node: the one it built before, or else a new one. A scalar is read where it
stands, and every `.nan` is the one shared double; a collection is made empty and waits to be
filled. A tag with no value, or a scalar tag on a collection, is the fault `malformed`. -/
def construct (doc : Document) (i : Nat) : BuildM Nat := do
  if let some r := (← get).built.getD i none then return r
  let tag ← tagOf i
  let r ← if isCollectionTag tag then do
      let r ← addObject (Obj.emptyOf tag)
      modify fun s => { s with made := s.made.push (r, i) }
      pure r
    else match (doc.node i).shape with
      | .scalar text =>
        if tag == stdTag "float" && isNanText text then pure sharedNan
        else addObject (.scalar (← MonadExcept.ofExcept (scalarValue tag text)))
      | _ => throw .malformed
  modify fun s => { s with built := s.built.set! i (some r) }
  return r

/-- Whether two key objects are one key: the same object, or scalars of equal value. -/
def sameKey (objects : Array Obj) (a b : Nat) : Bool :=
  a == b ||
    match objects[a]?, objects[b]? with
    | some (.scalar x), some (.scalar y) => Value.equal x y
    | _, _ => false

/-- The hash a key object is filed under: its value's hash when that is fixed in advance. Keys
that are one have values that are equal, or are the same object, so they have one hash. -/
def keyHash (objects : Array Obj) (k : Nat) : Option UInt64 :=
  match objects[k]? with
  | some (.scalar v) => Value.hash? v
  | _ => none

/-- Entries being collected, with the places of their keys filed by hash. -/
structure Collected where
  entries : Array (Nat × Nat) := #[]
  places : Std.HashMap (Option UInt64) (List Nat) := {}

/-- Sets the value of a key in entries being collected: a key that is one with a key already
there keeps that key's place and object and takes the new value; another key goes last. Only
the keys filed under the same hash are compared. -/
def Collected.put (objects : Array Obj) (c : Collected) (kv : Nat × Nat) : Collected :=
  let ⟨entries, places⟩ := c
  let h := keyHash objects kv.1
  let filed := places.getD h []
  match filed.find? fun p => sameKey objects (entries.getD p (0, 0)).1 kv.1 with
  | some p => ⟨entries.modify p fun e => (e.1, kv.2), places⟩
  | none =>
    let p := entries.size
    ⟨entries.push kv, places.insert h (p :: filed)⟩

/-- The entries of a mapping filled from key and value pairs in order: a key that is one with
an earlier key keeps the earlier key's place and object, and the last value given for it. -/
def mergeKeys (objects : Array Obj) (kvs : List (Nat × Nat)) : List (Nat × Nat) :=
  (kvs.foldl (Collected.put objects) {}).entries.toList

/-- Whether an object may be a key: scalars may, collections may not. -/
def isKeyObject (r : Nat) : BuildM Bool := do
  return match (← get).objects[r]? with
    | some (.scalar _) => true
    | _ => false

/-- Fills a made collection from its node, as its tag says: a list from a sequence's items; a
mapping or a set from a mapping's entries once merged, each key built and checked before its
value; ordered pairs from a sequence of single-entry mappings. A node of the wrong kind is the
fault `malformed`. -/
def fill (doc : Document) (steps fuel : Nat) (r i : Nat) : BuildM Unit := do
  let tag ← tagOf i
  let shape := (doc.node i).shape
  let obj ← if tag == stdTag "seq" then
      match shape with
      | .sequence items => Obj.list <$> items.mapM (construct doc)
      | _ => throw .malformed
    else if tag == stdTag "map" || tag == stdTag "set" then
      match shape with
      | .mapping _ =>
        flatten doc steps fuel i
        let mut given : Array (Nat × Nat) := #[]
        for (k, v) in ← entriesOf i do
          let key ← construct doc k
          if !(← isKeyObject key) then throw .malformed
          given := given.push (key, ← construct doc v)
        let out := mergeKeys (← get).objects given.toList
        pure (if tag == stdTag "map" then Obj.dict out else .set (out.map (·.1)))
      | _ => throw .malformed
    else
      match shape with
      | .sequence items =>
        Obj.pairs <$> items.mapM fun item => do
          match (doc.node item).shape with
          | .mapping _ =>
            match ← entriesOf item with
            | [(k, v)] =>
              let kr ← construct doc k
              pure (kr, ← construct doc v)
            | _ => throw .malformed
          | _ => throw .malformed
      | _ => throw .malformed
  modify fun s => { s with objects := s.objects.set! r obj }

/-- Fills the made collections in the order they were made, until none waits. -/
def drain (doc : Document) (steps depth : Nat) : Nat → BuildM Unit
  | 0 => throw .malformed
  | fuel + 1 => do
    let s ← get
    match s.made[s.filled]? with
    | none => pure ()
    | some (r, i) =>
      modify fun s => { s with filled := s.filled + 1 }
      fill doc steps depth r i
      drain doc steps depth fuel

/-- How many times a collection is unfolded along one path from the top: a collection that
holds itself shows as this many nested copies, the innermost of them empty. -/
def unfoldings : Nat := 4

/-- The objects an object holds, by number. -/
def Obj.members : Obj → List Nat
  | .scalar _ => []
  | .list items | .set items => items
  | .dict es | .pairs es => es.flatMap fun (k, v) => [k, v]

/-- The value of an object, given the values of the objects it holds. -/
def Obj.valueWith (member : Nat → Value) : Obj → Value
  | .scalar v => v
  | .list items => .list (items.map member)
  | .dict es => .dict (es.map fun (k, v) => (member k, member v))
  | .set ms => .set (Value.setOrder (ms.map member))
  | .pairs ps => .list (ps.map fun (k, v) => .tuple [member k, member v])

/-- The empty collection of an object's kind; a scalar stays as it is. -/
def Obj.cut : Obj → Obj
  | .scalar v => .scalar v
  | .list _ => .list []
  | .dict _ => .dict []
  | .set _ => .set []
  | .pairs _ => .pairs []

/-- Gives a value, from the last object to the first, to each object whose members all have
one already. -/
def settlePass (objects : Array Obj) (settled : Array (Option Value)) : Array (Option Value) :=
  (List.range objects.size).reverse.foldl (fun acc r =>
    if (acc.getD r none).isSome then acc
    else
      let o := objects.getD r (.scalar .null)
      if o.members.all fun m => (acc.getD m none).isSome then
        acc.set! r (some (o.valueWith fun m => (acc.getD m none).getD .null))
      else acc) settled

def settledCount (settled : Array (Option Value)) : Nat :=
  settled.foldl (fun n v => if v.isSome then n + 1 else n) 0

/-- The values of the objects from which no collection that holds itself can be reached:
passes until one gives no new value. Each value is made once, so objects held in many places
share it. -/
def settle (objects : Array Obj) : Nat → Array (Option Value) → Array (Option Value)
  | 0, settled => settled
  | fuel + 1, settled =>
    let next := settlePass objects settled
    if settledCount next == settledCount settled then next else settle objects fuel next

/-- The value of an object: its settled value when it has one, else a collection holding the
values of its members, empty when met `unfoldings` times along the path to it. `fuel` bounds
the depth. -/
def Obj.value (objects : Array Obj) (settled : Array (Option Value)) :
    Nat → List Nat → Nat → Value
  | 0, _, _ => .null
  | fuel + 1, path, r =>
    match settled.getD r none with
    | some v => v
    | none =>
      let o := objects.getD r (.scalar .null)
      if unfoldings ≤ path.count r then o.cut.valueWith fun _ => .null
      else o.valueWith (Obj.value objects settled fuel (r :: path))

/-- The number of entries of a document's mappings, which bounds the entries one mapping can
come to hold while merging. -/
def Document.entryCount (doc : Document) : Nat :=
  doc.nodes.foldl (fun n nd => match nd.shape with
    | .mapping es => n + es.length
    | _ => n) 0

/-- The value of a document. -/
def build (doc : Document) : Except Fault Value := do
  let n := doc.nodes.size
  let init : Build := {
    tags := doc.nodes.map (·.tag)
    entries := doc.nodes.map fun nd => match nd.shape with
      | .mapping es => es
      | _ => []
    built := Array.replicate n none }
  let steps := Nat.pow 2 (min 20 (n + 1)) * (doc.entryCount + 1)
  let (top, s) ← (construct doc doc.root).run init
  let (_, s) ← (drain doc steps (n + 1) (n + 1)).run s
  let settled := settle s.objects (s.objects.size + 1) (Array.replicate s.objects.size none)
  pure (Obj.value s.objects settled (s.objects.size * unfoldings + 2) [] top)

end Arbitrage.Yaml

namespace Arbitrage.Value

/-- The value of a YAML text as read from a file: null for an empty stream, the fault
`malformed` for a text that is not a single YAML document. -/
def ofYaml (raw : String) : Except Fault Value := do
  if !(Text.codes raw).all Yaml.isAllowedCode then throw .malformed
  let text := Yaml.textModeLines raw
  match Yaml.Document.ofText text with
  | .error (.fault f) => throw f
  | .error (.grammar _) => throw .malformed
  | .ok none => pure .null
  | .ok (some doc) => Yaml.build doc

end Arbitrage.Value
