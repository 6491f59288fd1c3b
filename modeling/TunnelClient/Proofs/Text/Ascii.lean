import Mathlib.Tactic.SplitIfs
import TunnelClient.Text.Utf8

/-!
# ASCII among other bytes

ASCII text among other bytes.  It is decoded as it stands, whatever comes before and behind it,
ill-formed pieces included.
-/

namespace TunnelClient.Text.Utf8

def asciiBytes (cs : List Char) : List UInt8 := cs.map fun c => UInt8.ofNat c.toNat

def IsAscii (cs : List Char) : Prop := ∀ c ∈ cs, c.toNat < 128

instance (cs : List Char) : Decidable (IsAscii cs) := List.decidableBAll _ cs

variable {a : UInt8}

/-! ## One byte -/

private theorem isContinuation_of_ascii (ascii : a < 0x80) : isContinuation a = false := by
  have low : ¬ (0x80 : UInt8) ≤ a := UInt8.not_le.mpr ascii
  rw [isContinuation, decide_eq_false low, Bool.false_and]

private theorem second3_of_ascii (ascii : a < 0x80) (lead : UInt8) : second3 lead a = false := by
  have low : ¬ (0x80 : UInt8) ≤ a := UInt8.not_le.mpr ascii
  have lower : ¬ (0xA0 : UInt8) ≤ a := fun le => low (UInt8.le_trans (by decide) le)
  rw [second3]
  split_ifs
  · rw [decide_eq_false lower, Bool.false_and]
  · rw [decide_eq_false low, Bool.false_and]
  · exact isContinuation_of_ascii ascii

private theorem second4_of_ascii (ascii : a < 0x80) (lead : UInt8) : second4 lead a = false := by
  have low : ¬ (0x80 : UInt8) ≤ a := UInt8.not_le.mpr ascii
  have lower : ¬ (0x90 : UInt8) ≤ a := fun le => low (UInt8.le_trans (by decide) le)
  rw [second4]
  split_ifs
  · rw [decide_eq_false lower, Bool.false_and]
  · rw [decide_eq_false low, Bool.false_and]
  · exact isContinuation_of_ascii ascii

private theorem units_cons_ascii (ascii : a < 0x80) (rest : List UInt8) :
    units (a :: rest) = some (Char.ofNat a.toNat) :: units rest := by
  rw [units.eq_def]
  simp only [if_pos ascii]

private theorem units_append_ascii (before : List UInt8) (ascii : a < 0x80) (rest : List UInt8) :
    units (before ++ a :: rest) =
      units before ++ some (Char.ofNat a.toNat) :: units rest := by
  have noTail := isContinuation_of_ascii ascii
  have noSecond3 := second3_of_ascii ascii
  have noSecond4 := second4_of_ascii ascii
  have next := units_cons_ascii ascii rest
  fun_induction units before
  case case1 => exact next
  all_goals
    simp only [List.cons_append, List.nil_append] at *
    rw [units.eq_def]
    -- The pieces are told apart by how many bytes there are behind the first.
    rcases rest with _ | ⟨b, _ | ⟨c, rest⟩⟩ <;>
      simp only [*, if_true, if_false, Bool.false_eq_true, Bool.not_false, Bool.not_true]

/-! ## Texts -/

private theorem toNat_asciiByte {c : Char} (ascii : c.toNat < 128) :
    (UInt8.ofNat c.toNat).toNat = c.toNat := by
  rw [UInt8.toNat_ofNat']
  omega

private theorem asciiByte_lt {c : Char} (ascii : c.toNat < 128) : UInt8.ofNat c.toNat < 0x80 := by
  rw [UInt8.lt_iff_toNat_lt, toNat_asciiByte ascii]
  exact ascii

theorem units_asciiBytes_append {cs : List Char} (ascii : IsAscii cs) (rest : List UInt8) :
    units (asciiBytes cs ++ rest) = cs.map some ++ units rest := by
  induction cs with
  | nil => rfl
  | cons c cs ih =>
      have low : c.toNat < 128 := ascii c List.mem_cons_self
      change units (UInt8.ofNat c.toNat :: (asciiBytes cs ++ rest)) = _
      rw [units_cons_ascii (asciiByte_lt low), toNat_asciiByte low, Char.ofNat_toNat,
        ih fun d mem => ascii d (List.mem_cons_of_mem c mem)]
      rfl

private theorem units_append_asciiBytes (before : List UInt8) {cs : List Char} (ascii : IsAscii cs)
    (nonempty : cs ≠ []) (rest : List UInt8) :
    units (before ++ asciiBytes cs ++ rest) = units before ++ cs.map some ++ units rest := by
  cases cs with
  | nil => exact absurd rfl nonempty
  | cons c cs =>
      have low : c.toNat < 128 := ascii c List.mem_cons_self
      rw [List.append_assoc]
      change units (before ++ UInt8.ofNat c.toNat :: (asciiBytes cs ++ rest)) = _
      rw [units_append_ascii before (asciiByte_lt low), toNat_asciiByte low, Char.ofNat_toNat,
        units_asciiBytes_append fun d mem => ascii d (List.mem_cons_of_mem c mem)]
      simp

def lossyChars (bytes : List UInt8) : List Char :=
  (units bytes).map fun unit => unit.getD '\uFFFD'

theorem toList_decodeLossy (bytes : List UInt8) :
    (decodeLossy bytes).toList = lossyChars bytes :=
  String.toList_ofList

theorem lossyChars_asciiBytes_append {cs : List Char} (ascii : IsAscii cs) (rest : List UInt8) :
    lossyChars (asciiBytes cs ++ rest) = cs ++ lossyChars rest := by
  rw [lossyChars, units_asciiBytes_append ascii]
  simp [lossyChars, Function.comp_def]

theorem lossyChars_append_asciiBytes (before : List UInt8) {cs : List Char} (ascii : IsAscii cs)
    (nonempty : cs ≠ []) (rest : List UInt8) :
    lossyChars (before ++ asciiBytes cs ++ rest) =
      lossyChars before ++ cs ++ lossyChars rest := by
  rw [lossyChars, units_append_asciiBytes before ascii nonempty]
  simp [lossyChars, Function.comp_def]

end TunnelClient.Text.Utf8
