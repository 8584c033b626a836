import Arbitrage.Data.Value
import Arbitrage.Decimal.Shortest
import Arbitrage.Decimal.Read
import Arbitrage.Text.Quoted

namespace Arbitrage.Value

open Arbitrage.Text

mutual
/-- Appends the literal form of a value to `out`. Each piece goes onto the end of the text made
so far, so the work is in proportion to the length of the text. -/
def literalTo (out : String) : Value → String
  | .null => out ++ "None"
  | .bool b => out ++ (if b then "True" else "False")
  | .int i => out ++ toString i
  | .float x => out ++ Decimal.shortest x
  | .str s => out ++ quote s
  | .list xs => literalListTo (out ++ "[") xs ++ "]"
  | .dict kvs => literalEntriesTo (out ++ "\x7b") kvs ++ "\x7d"
  | .date d => out ++ d.literal
  | .moment m => out ++ m.literal
  | .bytes b => out ++ quoteBytes b
  | .set [] => out ++ "set()"
  | .set xs => literalListTo (out ++ "\x7b") xs ++ "\x7d"
  | .tuple [x] => literalTo (out ++ "(") x ++ ",)"
  | .tuple xs => literalListTo (out ++ "(") xs ++ ")"
def literalListTo (out : String) : List Value → String
  | [] => out
  | [x] => literalTo out x
  | x :: xs => literalListTo (literalTo out x ++ ", ") xs
def literalEntriesTo (out : String) : List (Value × Value) → String
  | [] => out
  | [(k, v)] => literalTo (literalTo out k ++ ": ") v
  | (k, v) :: rest => literalEntriesTo (literalTo (literalTo out k ++ ": ") v ++ ", ") rest
end

def literal (v : Value) : String := literalTo "" v

/-- Whether an integer has more decimal digits than its text may have. -/
def isLongInt (i : Int) : Bool := Nat.pow 10 Decimal.maxIntDigits ≤ i.natAbs

mutual
/-- Whether a value holds an integer whose text would be too long. -/
def hasLongInt : Value → Bool
  | .int i => isLongInt i
  | .list xs | .set xs | .tuple xs => hasLongIntList xs
  | .dict kvs => hasLongIntEntries kvs
  | _ => false
/-- Whether some values hold an integer whose text would be too long. -/
def hasLongIntList : List Value → Bool
  | [] => false
  | x :: xs => hasLongInt x || hasLongIntList xs
/-- Whether some entries hold an integer whose text would be too long. -/
def hasLongIntEntries : List (Value × Value) → Bool
  | [] => false
  | (k, v) :: rest => hasLongInt k || hasLongInt v || hasLongIntEntries rest
end

/-- The plain form: a text as it is, dates and moments in their ISO form, anything else in
its literal form. -/
def text : Value → String
  | .str s => s
  | .date d => d.isoText
  | .moment m => m.isoText
  | v => literal v

def asciiLiteral (v : Value) : String := escapeNonAscii v.literal

end Arbitrage.Value
