import TunnelClient.Address.Ipv4

/-!
# IPv6 addresses

IPv6 addresses as eight 16-bit groups.  The text is the canonical one: groups in
lower case without leading zeros, the first longest run of two or more zero
groups written `::`, and a mapped IPv4 address in dotted form.
-/

namespace TunnelClient

structure Ipv6 where
  groups : List UInt16
  length_eq : groups.length = 8
  deriving DecidableEq, Repr

namespace Ipv6

def ofGroups? (groups : List UInt16) : Option Ipv6 :=
  if h : groups.length = 8 then some ⟨groups, h⟩ else none

def unspecified : Ipv6 := ⟨List.replicate 8 0, rfl⟩

def isLinkLocal (a : Ipv6) : Bool :=
  match a.groups with
  | first :: _ => first &&& 0xFFC0 == 0xFE80 || first &&& 0xFF0F == 0xFF02
  | [] => false

def mapped? (a : Ipv6) : Option Ipv4 :=
  match a.groups with
  | [0, 0, 0, 0, 0, 0xFFFF, hi, lo] => some ⟨(hi.toUInt32 <<< 16) ||| lo.toUInt32⟩
  | _ => none

/-! ## Text -/

def zeroRun (groups : List UInt16) : Nat := (groups.takeWhile (· == 0)).length

def longestRun : Nat → List UInt16 → Nat × Nat
  | start, [] => (start, 0)
  | start, g :: rest =>
    let here := zeroRun (g :: rest)
    let later := longestRun (start + 1) rest
    if later.2 ≤ here then (start, here) else later

def groupsText (groups : List UInt16) : String :=
  ":".intercalate (groups.map fun g => Text.Hex.ofNat g.toNat)

def text (a : Ipv6) : String :=
  match a.mapped? with
  | some v4 => "::ffff:" ++ v4.text
  | none =>
    let (start, length) := longestRun 0 a.groups
    if 1 < length then
      groupsText (a.groups.take start) ++ "::" ++ groupsText (a.groups.drop (start + length))
    else groupsText a.groups

def groupForm : Text.Numeral.Form := ⟨16, some 4, true, 65536⟩

def afterColon? (first : Bool) (cs : List Char) : Option (List Char) :=
  if first then some cs
  else
    match cs with
    | ':' :: rest => some rest
    | _ => none

def ipv4Groups (a : Ipv4) : List UInt16 := [(a.bits >>> 16).toUInt16, a.bits.toUInt16]

/-- Reads at most `limit` groups; dotted IPv4 text counts for the last two and ends the reading.
The flag says whether it was met. -/
def readGroups : Nat → Bool → List Char → List UInt16 × Bool × List Char
  | 0, _, cs => ([], false, cs)
  | limit + 1, first, cs =>
    match afterColon? first cs with
    | none => ([], false, cs)
    | some rest =>
      match if limit = 0 then none else Ipv4.read? rest with
      | some (v4, rest) => (ipv4Groups v4, true, rest)
      | none =>
        match Text.Numeral.read? groupForm rest with
        | none => ([], false, cs)
        | some (g, rest) =>
          let (more, dotted, rest) := readGroups limit false rest
          (.ofNat g :: more, dotted, rest)

def read? (cs : List Char) : Option (Ipv6 × List Char) :=
  let (head, dotted, rest) := readGroups 8 true cs
  if head.length = 8 then (ofGroups? head).map (·, rest)
  else if dotted then none
  else
    match rest with
    | ':' :: ':' :: rest =>
      let (tail, _, rest) := readGroups (7 - head.length) true rest
      let gap := List.replicate (8 - head.length - tail.length) 0
      (ofGroups? (head ++ gap ++ tail)).map (·, rest)
    | _ => none

def parse? (s : String) : Option Ipv6 :=
  match read? s.toList with
  | some (a, []) => some a
  | _ => none

end Ipv6

end TunnelClient
