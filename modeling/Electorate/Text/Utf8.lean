/-!
# Octets as characters

* `decodeUtf8`: the characters that octets encode in UTF-8. Each longest row of octets that begins
  a character and does not end one gives one replacement character, and so does each octet that
  begins none.
-/

namespace Electorate.Text

/-- The character that stands for octets which encode none. -/
def replacement : Char := '\ufffd'

/-- A character that has begun. -/
structure Begun where
  /-- The number of octets still owed. -/
  owed : Nat
  /-- The least value of the next octet. -/
  low : Nat
  /-- The greatest value of the next octet. -/
  high : Nat
  /-- The bits so far. -/
  bits : Nat
deriving DecidableEq, Repr

/-- What a first octet does: it is a character, begins one, or encodes nothing. -/
def firstOctet (b : Nat) : Char ⊕ Begun :=
  if b < 0x80 then .inl (Char.ofNat b)
  else if 0xc2 ≤ b ∧ b ≤ 0xdf then .inr ⟨1, 0x80, 0xbf, b - 0xc0⟩
  else if b = 0xe0 then .inr ⟨2, 0xa0, 0xbf, 0⟩
  else if b = 0xed then .inr ⟨2, 0x80, 0x9f, 0xd⟩
  else if 0xe1 ≤ b ∧ b ≤ 0xef then .inr ⟨2, 0x80, 0xbf, b - 0xe0⟩
  else if b = 0xf0 then .inr ⟨3, 0x90, 0xbf, 0⟩
  else if 0xf1 ≤ b ∧ b ≤ 0xf3 then .inr ⟨3, 0x80, 0xbf, b - 0xf0⟩
  else if b = 0xf4 then .inr ⟨3, 0x80, 0x8f, 4⟩
  else .inl replacement

/-- The characters of octets that follow a begun character, if there is one. -/
def decodeFrom : Option Begun → List Nat → List Char
  | none, [] => []
  | some _, [] => [replacement]
  | none, b :: rest =>
    match firstOctet b with
    | .inl c => c :: decodeFrom none rest
    | .inr begun => decodeFrom (some begun) rest
  | some begun, b :: rest =>
    if begun.low ≤ b ∧ b ≤ begun.high then
      let bits := begun.bits * 64 + (b - 0x80)
      if begun.owed ≤ 1 then Char.ofNat bits :: decodeFrom none rest
      else decodeFrom (some ⟨begun.owed - 1, 0x80, 0xbf, bits⟩) rest
    else
      replacement ::
        match firstOctet b with
        | .inl c => c :: decodeFrom none rest
        | .inr begun => decodeFrom (some begun) rest

/-- The characters that octets encode. -/
def decodeUtf8 (octets : List Nat) : List Char := decodeFrom none octets

end Electorate.Text
