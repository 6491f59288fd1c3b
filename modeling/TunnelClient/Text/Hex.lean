/-!
# Hexadecimal text

Hexadecimal text of bytes and words, lower case.
-/

namespace TunnelClient.Text.Hex

def digit (n : Nat) : Char :=
  if n % 16 < 10 then Char.ofNat (48 + n % 16) else Char.ofNat (87 + n % 16)

def value? (c : Char) : Option Nat :=
  if '0' ≤ c ∧ c ≤ '9' then some (c.toNat - 48)
  else if 'a' ≤ c ∧ c ≤ 'f' then some (c.toNat - 87)
  else if 'A' ≤ c ∧ c ≤ 'F' then some (c.toNat - 55)
  else none

def encode : List UInt8 → List Char
  | [] => []
  | b :: rest => digit (b.toNat / 16) :: digit b.toNat :: encode rest

def decode? : List Char → Option (List UInt8)
  | [] => some []
  | [_] => none
  | a :: b :: rest => do
    let hi ← value? a
    let lo ← value? b
    let bytes ← decode? rest
    some (UInt8.ofNat (16 * hi + lo) :: bytes)

def fixed : Nat → Nat → List Char
  | 0, _ => []
  | width + 1, n => fixed width (n / 16) ++ [digit n]

def shortest (n : Nat) : List Char :=
  if n < 16 then [digit n] else shortest (n / 16) ++ [digit n]
termination_by n
decreasing_by omega

def ofBytes (bytes : List UInt8) : String := String.ofList (encode bytes)

def toBytes? (text : String) : Option (List UInt8) := decode? text.toList

def ofNat (n : Nat) : String := String.ofList (shortest n)

def ofWord (width n : Nat) : String := String.ofList (fixed width n)

end TunnelClient.Text.Hex
