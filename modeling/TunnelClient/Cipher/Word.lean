/-!
# Little-endian words

Little-endian numbers over byte lists, and byte lists cut into blocks.
-/

namespace TunnelClient.Cipher

def natOfLittle : List UInt8 → Nat
  | [] => 0
  | b :: rest => b.toNat + 256 * natOfLittle rest

def littleOfNat : Nat → Nat → List UInt8
  | 0, _ => []
  | count + 1, n => UInt8.ofNat n :: littleOfNat count (n / 256)

@[simp] theorem length_littleOfNat (count n : Nat) : (littleOfNat count n).length = count := by
  induction count generalizing n with
  | zero => rfl
  | succ count ih => simp [littleOfNat, ih]

def wordsOfLittle : List UInt8 → List UInt32
  | a :: b :: c :: d :: rest => UInt32.ofNat (natOfLittle [a, b, c, d]) :: wordsOfLittle rest
  | _ => []

def blocks (size : Nat) (bytes : List UInt8) : List (List UInt8) :=
  match bytes with
  | [] => []
  | b :: rest => (b :: rest.take size) :: blocks size (rest.drop size)
termination_by bytes.length
decreasing_by simp only [List.length_drop, List.length_cons]; omega

end TunnelClient.Cipher
