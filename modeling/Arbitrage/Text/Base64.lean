namespace Arbitrage.Text

/-- The value of a base64 alphabet character. -/
def base64Value (c : Char) : Option Nat :=
  let n := c.toNat
  if 'A' ≤ c && c ≤ 'Z' then some (n - 'A'.toNat)
  else if 'a' ≤ c && c ≤ 'z' then some (n - 'a'.toNat + 26)
  else if '0' ≤ c && c ≤ '9' then some (n - '0'.toNat + 52)
  else if c == '+' then some 62
  else if c == '/' then some 63
  else none

/-- Where the reading of a group stands: how many of its characters are in, the bits still to
be placed, and the pads seen since the last data character. -/
structure Base64State where
  filled : Nat
  carry : Nat
  pads : Nat

/-- Reads the characters, with the bytes so far; `none` on an unfinished last group. -/
def base64Go : Base64State → List UInt8 → List Char → Option (List UInt8)
  | st, out, [] => if st.filled == 0 then some out.reverse else none
  | st, out, c :: rest =>
    if c == '=' then
      if 2 ≤ st.filled && 4 ≤ st.filled + (st.pads + 1) then some out.reverse
      else base64Go { st with pads := if 2 ≤ st.filled then st.pads + 1 else st.pads } out rest
    else match base64Value c with
      | none => base64Go st out rest
      | some v =>
        match st.filled with
        | 0 => base64Go ⟨1, v, 0⟩ out rest
        | 1 => base64Go ⟨2, v % 16, 0⟩ ((st.carry * 4 + v / 16).toUInt8 :: out) rest
        | 2 => base64Go ⟨3, v % 4, 0⟩ ((st.carry * 16 + v / 4).toUInt8 :: out) rest
        | _ => base64Go ⟨0, 0, 0⟩ ((st.carry * 64 + v).toUInt8 :: out) rest

/-- The bytes of a base64 text, or `none` when its data does not end on a whole group. -/
def base64Decode (text : String) : Option (List UInt8) := base64Go ⟨0, 0, 0⟩ [] text.toList

end Arbitrage.Text
