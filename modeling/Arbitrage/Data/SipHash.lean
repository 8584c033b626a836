/-!
SipHash-1-3: a keyed hash of byte strings with one compression round per 8-byte block and three
finalization rounds.
-/

namespace Arbitrage.SipHash

/-- The four state words. -/
structure State where
  v0 : UInt64
  v1 : UInt64
  v2 : UInt64
  v3 : UInt64

def rotl (x : UInt64) (n : UInt64) : UInt64 := (x <<< n) ||| (x >>> (64 - n))

/-- One round: two half rounds, each adding, rotating and xoring two pairs of words. -/
def State.round (s : State) : State :=
  let v0 := s.v0 + s.v1
  let v2 := s.v2 + s.v3
  let v1 := rotl s.v1 13 ^^^ v0
  let v3 := rotl s.v3 16 ^^^ v2
  let v0 := rotl v0 32
  let v2 := v2 + v1
  let v0 := v0 + v3
  let v1 := rotl v1 17 ^^^ v2
  let v3 := rotl v3 21 ^^^ v0
  let v2 := rotl v2 32
  ⟨v0, v1, v2, v3⟩

def State.absorb (s : State) (m : UInt64) : State :=
  let s := { s with v3 := s.v3 ^^^ m }.round
  { s with v0 := s.v0 ^^^ m }

def word (bytes : List UInt8) : UInt64 :=
  bytes.foldr (fun b acc => (acc <<< 8) ||| b.toUInt64) 0

/-- Absorbs the whole blocks of the input and answers the bytes left over. `fuel` bounds the
blocks. -/
def absorbBlocks : Nat → State → List UInt8 → State × List UInt8
  | 0, s, bytes => (s, bytes)
  | fuel + 1, s, bytes =>
    if bytes.length < 8 then (s, bytes)
    else absorbBlocks fuel (s.absorb (word (bytes.take 8))) (bytes.drop 8)

/-- SipHash-1-3 of a byte string under the key `(k0, k1)`. -/
def hash13 (k0 k1 : UInt64) (bytes : List UInt8) : UInt64 :=
  let s : State := ⟨k0 ^^^ 0x736f6d6570736575, k1 ^^^ 0x646f72616e646f6d,
    k0 ^^^ 0x6c7967656e657261, k1 ^^^ 0x7465646279746573⟩
  let (s, rest) := absorbBlocks (bytes.length / 8 + 1) s bytes
  let last := (bytes.length.toUInt64 <<< 56) ||| word rest
  let s := s.absorb last
  let s := { s with v2 := s.v2 ^^^ 0xff }.round.round.round
  s.v0 ^^^ s.v1 ^^^ s.v2 ^^^ s.v3

end Arbitrage.SipHash
