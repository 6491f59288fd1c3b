/-!
# UTF-8

Bytes read as UTF-8.  `units` splits any bytes into characters and ill-formed
pieces, each piece as long as the well-formed start it has; the strict reading
refuses such pieces and the lossy one puts U+FFFD in their place.
-/

namespace TunnelClient.Text.Utf8

def isContinuation (b : UInt8) : Bool := 0x80 ≤ b && b ≤ 0xBF

/-- The second bytes that keep a three-byte sequence shortest and off the surrogates. -/
def second3 (lead b : UInt8) : Bool :=
  if lead == 0xE0 then 0xA0 ≤ b && b ≤ 0xBF
  else if lead == 0xED then 0x80 ≤ b && b ≤ 0x9F
  else isContinuation b

/-- The second bytes that keep a four-byte sequence shortest and below U+110000. -/
def second4 (lead b : UInt8) : Bool :=
  if lead == 0xF0 then 0x90 ≤ b && b ≤ 0xBF
  else if lead == 0xF4 then 0x80 ≤ b && b ≤ 0x8F
  else isContinuation b

def low6 (b : UInt8) : Nat := b.toNat % 64

def units : List UInt8 → List (Option Char)
  | [] => []
  | a :: rest =>
    if a < 0x80 then some (Char.ofNat a.toNat) :: units rest
    else if 0xC2 ≤ a && a ≤ 0xDF then
      match rest with
      | b :: rest' =>
        if isContinuation b then some (Char.ofNat (a.toNat % 32 * 64 + low6 b)) :: units rest'
        else none :: units (b :: rest')
      | [] => [none]
    else if 0xE0 ≤ a && a ≤ 0xEF then
      match rest with
      | b :: c :: rest' =>
        if !second3 a b then none :: units (b :: c :: rest')
        else if isContinuation c then
          some (Char.ofNat ((a.toNat % 16 * 64 + low6 b) * 64 + low6 c)) :: units rest'
        else none :: units (c :: rest')
      | [b] => if second3 a b then [none] else none :: units [b]
      | [] => [none]
    else if 0xF0 ≤ a && a ≤ 0xF4 then
      match rest with
      | b :: c :: d :: rest' =>
        if !second4 a b then none :: units (b :: c :: d :: rest')
        else if !isContinuation c then none :: units (c :: d :: rest')
        else if isContinuation d then
          some (Char.ofNat (((a.toNat % 8 * 64 + low6 b) * 64 + low6 c) * 64 + low6 d)) ::
            units rest'
        else none :: units (d :: rest')
      | [b, c] =>
        if !second4 a b then none :: units [b, c]
        else if isContinuation c then [none] else none :: units [c]
      | [b] => if second4 a b then [none] else none :: units [b]
      | [] => [none]
    else none :: units rest
termination_by bytes => bytes.length

def decode? (bytes : List UInt8) : Option String :=
  (units bytes).mapM id |>.map String.ofList

def decodeLossy (bytes : List UInt8) : String :=
  String.ofList ((units bytes).map fun unit => unit.getD '\uFFFD')

def encode (text : String) : List UInt8 := text.toUTF8.toList

end TunnelClient.Text.Utf8
