import TunnelClient.Address.Ipv4

/-!
# Numbers and dots

IPv4 addresses in numbers-and-dots notation, which host names may have: one to
four numbers, each decimal, octal behind a `0` or hexadecimal behind `0x`.  All
but the last are bytes, and the last fills the bytes that are left.
-/

namespace TunnelClient.Ipv4

def wholeNumber? (base : Nat) (cs : List Char) : Option Nat :=
  match Text.Numeral.read? ⟨base, none, true, UInt32.size⟩ cs with
  | some (n, []) => some n
  | _ => none

def number? : List Char → Option Nat
  | '0' :: 'x' :: digits | '0' :: 'X' :: digits => wholeNumber? 16 digits
  | '0' :: d :: digits => wholeNumber? 8 (d :: digits)
  | cs => wholeNumber? 10 cs

def fill? : Nat → List Nat → Option Nat
  | _, [] | 0, _ => none
  | room + 1, [last] => if last < Nat.pow 256 (room + 1) then some last else none
  | room + 1, n :: rest =>
    if n < 256 then (fill? room rest).map fun low => n * Nat.pow 256 room + low else none

def ofNumbers? (text : String) : Option Ipv4 := do
  let numbers ← (text.splitOn ".").mapM fun part => number? part.toList
  let bits ← fill? 4 numbers
  some ⟨.ofNat bits⟩

end TunnelClient.Ipv4
