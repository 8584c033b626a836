import Arbitrage.Data.Coerce
import Arbitrage.Data.Text

namespace Arbitrage

namespace Text

/-- The characters before and after the first place where `sep` stands in a list of characters,
if it stands anywhere. -/
def cutFirst (sep : List Char) (l : List Char) : Option (List Char × List Char) :=
  if sep.isPrefixOf l then some ([], l.drop sep.length)
  else match l with
    | [] => none
    | c :: cs => (cutFirst sep cs).map fun (a, b) => (c :: a, b)

/-- A text cut at the first `sep` it holds into the texts before and after it. -/
def splitFirst (s sep : String) : Option (String × String) :=
  (cutFirst sep.toList s.toList).map fun (a, b) => (String.ofList a, String.ofList b)

theorem cutFirst_append (sep a b : List Char) (h : ¬sep <:+: a ++ sep.dropLast) :
    cutFirst sep (a ++ sep ++ b) = some (a, b) := by
  induction a with
  | nil =>
    rw [List.nil_append]
    unfold cutFirst
    rw [if_pos (List.isPrefixOf_iff_prefix.2 (List.prefix_append _ _))]
    simp
  | cons c a ih =>
    -- a prefix of `c :: a ++ sep ++ b` as long as `sep` lies in `c :: a ++ sep.dropLast`
    have hfirst : ¬sep <+: c :: a ++ sep ++ b := by
      intro hp
      have hlen : sep.length ≤ (c :: a ++ sep.dropLast).length := by
        simp only [List.length_append, List.length_cons, List.length_dropLast]
        omega
      have hpre : c :: a ++ sep.dropLast <+: c :: a ++ sep ++ b := by
        rw [List.append_assoc]
        exact (List.prefix_append_right_inj _).2 ((List.dropLast_prefix sep).trans
          (List.prefix_append _ _))
      exact h (List.prefix_of_prefix_length_le hp hpre hlen).isInfix
    have hrest : ¬sep <:+: a ++ sep.dropLast := fun hi => h (List.infix_cons hi)
    unfold cutFirst
    rw [if_neg (by rwa [List.isPrefixOf_iff_prefix])]
    simp only [List.cons_append]
    rw [ih hrest]
    rfl

theorem splitFirst_append {ex sep rest : String}
    (h : ¬sep.toList <:+: ex.toList ++ sep.toList.dropLast) :
    splitFirst (ex ++ sep ++ rest) sep = some (ex, rest) := by
  rw [splitFirst, String.toList_append, String.toList_append, cutFirst_append _ _ _ h]
  simp only [Option.map_some, String.ofList_toList]

end Text

namespace Value

/-- Whether `item` is in `container`: a substring of a text, an equal member of a list or a
tuple, an equal key of a mapping. -/
def contains (container item : Value) : Except Fault Bool :=
  match container with
  | .str s => match item with
    | .str t => pure (Text.occursIn t s)
    | v => throw (.badCall s!"'in <string>' requires string as left operand, not {v.typeName}")
  | .list xs | .tuple xs => pure (xs.any (Value.equal · item))
  | .dict kvs =>
    if !item.hashable then throw (.unhashable item.typeName)
    else pure (kvs.any (Value.equal ·.1 item))
  | v => throw (.notContainer v.typeName)

/-- The two parts of a text split at every `sep`; a text that does not split into exactly two
parts is a fault, and so is a value that is no text. -/
def splitPair (v : Value) (sep : Char) : Except Fault (String × String) :=
  match v with
  | .str s => match (s.toList.splitOn sep).map String.ofList with
    | [a, b] => pure (a, b)
    | parts =>
      if parts.length < 2 then throw (.tooFewToUnpack 2 parts.length)
      else throw (.tooManyToUnpack 2)
  | v => throw (.noAttribute v.typeName "split")

/-- The entry of a mapping under a key; a missing key shows the key's literal form. -/
def item (v : Value) (key : Value) : Except Fault Value :=
  match v with
  | .dict kvs => match Value.lookup kvs key with
    | some x => pure x
    | none => throw (.noKey key.literal)
  | .list _ => throw (.badCall s!"list indices must be integers or slices, not {key.typeName}")
  | .tuple _ => throw (.badCall s!"tuple indices must be integers or slices, not {key.typeName}")
  | .str _ => throw (.badCall s!"string indices must be integers, not '{key.typeName}'")
  | v => throw (.notSubscriptable v.typeName)

/-- The entry of a mapping under any key, or a default; a key that cannot be hashed is a fault,
and a value that is no mapping has no entries to look up. -/
def getKey (v : Value) (key : Value) (dflt : Value) : Except Fault Value :=
  match v with
  | .dict kvs =>
    if !key.hashable then throw (.unhashable key.typeName)
    else pure ((Value.lookup kvs key).getD dflt)
  | _ => throw (.noAttribute v.typeName "get")

/-- The member at place `i`: of a list or a tuple, or the character of a text there; a mapping
is looked up with the number as its key, and anything else cannot be subscripted. -/
def atIndex (v : Value) (i : Nat) : Except Fault Value :=
  match v with
  | .list xs => match xs[i]? with
    | some x => pure x
    | none => throw .indexOutOfRange
  | .tuple xs => match xs[i]? with
    | some x => pure x
    | none => throw .tupleIndexOutOfRange
  | .str s => match (Text.codes s)[i]? with
    | some n => pure (.str (Text.ofCode n))
    | none => throw .textIndexOutOfRange
  | .dict _ => v.item (.int i)
  | v => throw (.notSubscriptable v.typeName)

/-- Texts joined with a separator between them; a member that is no text is a fault naming its
place. -/
def joinTexts (sep : String) (vs : List Value) : Except Fault String := do
  let parts ← (vs.zipIdx).mapM fun (v, i) => match v with
    | .str s => pure s
    | v => throw (Fault.notTextMember i v.typeName)
  return sep.intercalate parts

def orZero (v : Value) : Value := if v.truthy then v else .int 0

end Value

/-- An object read by attribute: the name of its kind and its named fields. -/
structure Record where
  kind : String
  fields : List (String × Value)
  deriving Inhabited

/-- An attribute of an object; a missing one is a fault naming the kind. -/
def Record.attr (r : Record) (name : String) : Except Fault Value :=
  match r.fields.find? (·.1 == name) with
  | some (_, v) => pure v
  | none => throw (.noAttribute r.kind name)

/-- An object of a kind whose fields are the text-keyed entries of a mapping; any other value
gives an object without fields. -/
def Record.ofValue (kind : String) (v : Value) : Record :=
  match v with
  | .dict kvs => ⟨kind, kvs.map fun (k, x) => (k.text, x)⟩
  | _ => ⟨kind, []⟩

end Arbitrage
