import Arbitrage.Data.Value
import Arbitrage.Data.Text
import Arbitrage.Decimal.Read
import Arbitrage.Fault

namespace Arbitrage.Value

open Arbitrage.Decimal

/-- The double of a value: booleans and integers convert, texts are read as decimals. -/
def toDouble : Value → Except Fault Float
  | .float x => pure x
  | .bool b => pure (if b then 1.0 else 0.0)
  | .int i =>
    let x := Binary64.ofInt i
    if x.isInf then throw .intTooLarge else pure x
  | .str s =>
    match readDouble? s with
    | some x => pure x
    | none => throw (.badDoubleText (Text.quote s))
  | .bytes b =>
    match readDoubleChars? (b.map fun x => Char.ofNat x.toNat) with
    | some x => pure x
    | none => throw (.badDoubleText (Text.quoteBytes b))
  | v => throw (.notRealForDouble v.typeName)

/-- The integer of a value: doubles round toward zero, texts are read as decimal integers. -/
def toInt : Value → Except Fault Int
  | .int i => pure i
  | .bool b => pure (if b then 1 else 0)
  | .float x =>
    if x.isNaN then throw .nanToInt
    else match Binary64.truncate x with
      | some i => pure i
      | none => throw .infiniteToInt
  | .str s =>
    match readIntLimited 10 s with
    | .ok i => pure i
    | .error (some n) => throw (.intDigitsTooMany n)
    | .error none => throw (.badIntText 10 (Text.quote s))
  | .bytes b =>
    let cs := b.map fun x => Char.ofNat x.toNat
    match overlongRun? 10 cs, readIntChars? 10 cs with
    | some n, _ => throw (.intDigitsTooMany n)
    | none, some i => pure i
    | none, none => throw (.badIntText 10 (Text.quoteBytes b))
  | v => throw (.notRealForInt v.typeName)

/-- The members of a value when iterated: list and tuple members, the characters of a text, the
keys of a mapping. -/
def members : Value → Except Fault (List Value)
  | .list xs | .tuple xs => pure xs
  | .str s => pure ((Text.codes s).map fun n => .str (Text.ofCode n))
  | .dict kvs => pure (kvs.map (·.1))
  | .bytes b => pure (b.map fun x => .int x.toNat)
  | .set xs => pure xs
  | v => throw (.notIterable v.typeName)

/-- A mapping built from a value: a mapping is copied; otherwise each member must be a
sequence of exactly two members, a key and a value, the later of two equal keys winning. -/
def toDict : Value → Except Fault (List (Value × Value))
  | .dict kvs => pure kvs
  | v => do
    let items ← v.members
    let mut out : List (Value × Value) := []
    let mut i := 0
    for item in items do
      let pair ← match item.members with
        | .ok ps => pure ps
        | .error _ => throw (.entryNotSequence i)
      match pair with
      | [k, x] =>
        if !k.hashable then throw (.unhashable k.typeName)
        out := insert out k x
      | ps => throw (.entryLength i ps.length)
      i := i + 1
    pure out

/-- The entry of a mapping for a text key, or a default; a value that is no mapping has no
entries to look up. -/
def get (v : Value) (name : String) (dflt : Value) : Except Fault Value :=
  match v with
  | .dict kvs => pure ((field? kvs name).getD dflt)
  | _ => throw (.noAttribute v.typeName "get")

/-- The entries of a mapping; a value that is no mapping has none to list. -/
def entries (v : Value) : Except Fault (List (Value × Value)) :=
  match v with
  | .dict kvs => pure kvs
  | _ => throw (.noAttribute v.typeName "items")

end Arbitrage.Value
