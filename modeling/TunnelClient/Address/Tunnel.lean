import TunnelClient.Address.Ipv4

/-!
# Tunnel addresses

The address that the peer grants the client inside the tunnel.  Host `.1` of its
/24 is the peer's own end and the tunnel's gateway.
-/

namespace TunnelClient

inductive AddressError where
  | length (actual : Nat)
  | unusable (address : Ipv4)
  deriving DecidableEq, Repr

def AddressError.message : AddressError → String
  | .length actual => s!"tunnel address must be 4 bytes, got {actual}"
  | .unusable address => address.text ++ " cannot be a tunnel address"

def AddressError.name : AddressError → String
  | .length _ => "AddressLength"
  | .unusable _ => "UnusableAddress"

structure TunnelAddress where
  inner : Ipv4
  deriving DecidableEq, Repr

def Ipv4.isUsable (a : Ipv4) : Bool :=
  a != unspecified && a != broadcast && !a.isMulticast && !a.isLoopback

namespace TunnelAddress

def ofIpv4 (a : Ipv4) : Except AddressError TunnelAddress :=
  if a.isUsable then .ok ⟨a⟩ else .error (.unusable a)

def ofBytes (bytes : List UInt8) : Except AddressError TunnelAddress :=
  match Ipv4.ofBytes? bytes with
  | some a => ofIpv4 a
  | none => .error (.length bytes.length)

def gateway (a : TunnelAddress) : Ipv4 := ⟨(a.inner.bits &&& 0xFFFFFF00) ||| 1⟩

def text (a : TunnelAddress) : String := a.inner.text

/-! ## As a JSON value -/

/-- The text between the quotes of a JSON string, escapes resolved.  Only escapes of single
UTF-16 units outside the surrogates are resolved: no address holds a longer one. -/
def unescapeJson? : List Char → Option (List Char)
  | [] => none
  | '"' :: rest => if rest.all (· ∈ [' ', '\t', '\n', '\r']) then some [] else none
  | '\\' :: 'u' :: a :: b :: c :: d :: rest => do
    let digits ← [a, b, c, d].mapM Text.Hex.value?
    let n := digits.foldl (fun acc x => acc * 16 + x) 0
    if 0xD800 ≤ n ∧ n ≤ 0xDFFF then none else (unescapeJson? rest).map (Char.ofNat n :: ·)
  | '\\' :: c :: rest =>
    match c with
    | '"' | '\\' | '/' => (unescapeJson? rest).map (c :: ·)
    | 'b' => (unescapeJson? rest).map ('\x08' :: ·)
    | 'f' => (unescapeJson? rest).map ('\x0c' :: ·)
    | 'n' => (unescapeJson? rest).map ('\n' :: ·)
    | 'r' => (unescapeJson? rest).map ('\r' :: ·)
    | 't' => (unescapeJson? rest).map ('\t' :: ·)
    | _ => none
  | '\\' :: [] => none
  | c :: rest => if c < ' ' then none else (unescapeJson? rest).map (c :: ·)

/-- Reads a JSON string that holds a dotted address.  The address is taken as it is: being a
usable host is asked of granted addresses only. -/
def ofJson? (json : String) : Option TunnelAddress :=
  match json.toList.dropWhile (· ∈ [' ', '\t', '\n', '\r']) with
  | '"' :: cs => do
    let text ← unescapeJson? cs
    let a ← Ipv4.parseChars? text
    some ⟨a⟩
  | _ => none

def toJson (a : TunnelAddress) : String := "\"" ++ a.text ++ "\""

end TunnelAddress

end TunnelClient
