import TunnelClient.Cipher.Word

/-!
# ChaCha20

The ChaCha20 stream cipher of RFC 8439: a keystream of 64-byte blocks, numbered
from a counter, added to the text bit by bit.
-/

namespace TunnelClient.Cipher.ChaCha20

abbrev State := Vector UInt32 16

def rotateLeft (w : UInt32) (n : UInt32) : UInt32 := (w <<< n) ||| (w >>> (32 - n))

def quarterRound (a b c d : Fin 16) (s : State) : State :=
  let s := s.set a (s[a] + s[b])
  let s := s.set d (rotateLeft (s[d] ^^^ s[a]) 16)
  let s := s.set c (s[c] + s[d])
  let s := s.set b (rotateLeft (s[b] ^^^ s[c]) 12)
  let s := s.set a (s[a] + s[b])
  let s := s.set d (rotateLeft (s[d] ^^^ s[a]) 8)
  let s := s.set c (s[c] + s[d])
  s.set b (rotateLeft (s[b] ^^^ s[c]) 7)

def columnRound (s : State) : State :=
  quarterRound 3 7 11 15 (quarterRound 2 6 10 14 (quarterRound 1 5 9 13 (quarterRound 0 4 8 12 s)))

def diagonalRound (s : State) : State :=
  quarterRound 3 4 9 14 (quarterRound 2 7 8 13 (quarterRound 1 6 11 12 (quarterRound 0 5 10 15 s)))

def doubleRounds : Nat → State → State
  | 0, s => s
  | n + 1, s => doubleRounds n (diagonalRound (columnRound s))

def constants : List UInt32 := [0x61707865, 0x3320646e, 0x79622d32, 0x6b206574]

def initial (key nonce : List UInt8) (counter : UInt32) : State :=
  let words := constants ++ wordsOfLittle key ++ [counter] ++ wordsOfLittle nonce
  Vector.ofFn fun i => words.getD i 0

def block (key nonce : List UInt8) (counter : UInt32) : List UInt8 :=
  let start := initial key nonce counter
  let mixed := doubleRounds 10 start
  (Vector.zipWith (· + ·) mixed start).toList.flatMap fun w => littleOfNat 4 w.toNat

def keystream (key nonce : List UInt8) (length : Nat) : List UInt8 :=
  (List.range ((length + 63) / 64)).flatMap fun i => block key nonce (UInt32.ofNat (i + 1))

/-- Adding the keystream twice gives the text back, so this both encrypts and decrypts. -/
def crypt (key nonce text : List UInt8) : List UInt8 :=
  List.zipWith (· ^^^ ·) text (keystream key nonce text.length)

end TunnelClient.Cipher.ChaCha20
