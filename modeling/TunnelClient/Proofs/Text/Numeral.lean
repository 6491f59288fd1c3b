import Mathlib.Data.List.Induction
import TunnelClient.Text.Numeral

/-!
# Decimal digits

Decimal digits.  The digits that a number is written with have that number for their value.
-/

namespace TunnelClient.Text.Numeral

private theorem digit?_of_isDigit {c : Char} (h : c.isDigit = true) :
    digit? 10 c = some (c.toNat - '0'.toNat) := by
  have bounds : '0' ≤ c ∧ c ≤ '9' := by
    rw [Char.isDigit, Bool.and_eq_true, decide_eq_true_eq, decide_eq_true_eq] at h
    exact h
  have high : c.toNat ≤ 57 := bounds.2
  have small : c.toNat - '0'.toNat < 10 := by
    change c.toNat - 48 < 10
    omega
  rw [digit?, Hex.value?, if_pos bounds]
  exact if_pos small

theorem isDigit_of_isDigit {c : Char} (h : c.isDigit = true) : isDigit 10 c = true := by
  rw [isDigit, digit?_of_isDigit h]
  rfl

private theorem foldl_digits {ds : List Char} (digits : ∀ d ∈ ds, d.isDigit = true) (acc : Nat) :
    ds.foldl (fun acc c => acc * 10 + (digit? 10 c).getD 0) acc = Nat.ofDigitChars 10 ds acc := by
  induction ds generalizing acc with
  | nil => rfl
  | cons d ds ih =>
      rw [List.foldl_cons, digit?_of_isDigit (digits d List.mem_cons_self), Nat.ofDigitChars_cons,
        Nat.mul_comm]
      exact ih (fun d' mem => digits d' (List.mem_cons_of_mem d mem)) _

theorem isDigit_of_mem {n : Nat} {d : Char} (h : d ∈ Nat.toDigits 10 n) : d.isDigit = true :=
  Nat.isDigit_of_mem_toDigits (by decide) (by decide) h

theorem ne_of_isDigit {d c : Char} (digit : d.isDigit = true) (other : c.isDigit = false) :
    d ≠ c := by
  rintro rfl
  exact Bool.false_ne_true (other.symm.trans digit)

theorem value_toDigits (n : Nat) : value 10 (Nat.toDigits 10 n) = n := by
  rw [value, foldl_digits fun d => isDigit_of_mem,
    Nat.ofDigitChars_ten_toDigits]

theorem toDigits_head (n : Nat) : ∃ d ds, Nat.toDigits 10 n = d :: ds ∧ d.isDigit = true := by
  cases hn : Nat.toDigits 10 n with
  | nil => exact absurd hn Nat.toDigits_ne_nil
  | cons d ds => exact ⟨d, ds, rfl, isDigit_of_mem (hn ▸ List.mem_cons_self)⟩

theorem eq_zero_of_toDigits {n : Nat} {ds : List Char} (h : Nat.toDigits 10 n = '0' :: ds) :
    n = 0 := by
  induction n using Nat.strongRecOn generalizing ds with
  | ind n ih =>
      by_cases small : n < 10
      · rw [Nat.toDigits_of_lt_base small, List.cons.injEq] at h
        exact Nat.digitChar_eq_zero.mp h.1
      · rw [Nat.toDigits_of_base_le (by decide) (Nat.le_of_not_lt small)] at h
        obtain ⟨d, ds', front, -⟩ := toDigits_head (n / 10)
        rw [front, List.cons_append, List.cons.injEq] at h
        rw [h.1] at front
        have := ih (n / 10) (by omega) front
        omega

/-! ## Only these digits -/

theorem isDigit_iff {c : Char} : isDigit 10 c = true ↔ c.isDigit = true := by
  constructor
  · intro h
    by_cases bounds : '0' ≤ c ∧ c ≤ '9'
    · rw [Char.isDigit, Bool.and_eq_true, decide_eq_true_eq, decide_eq_true_eq]
      exact bounds
    · rw [isDigit, digit?, Hex.value?, if_neg bounds] at h
      by_cases lower : 'a' ≤ c ∧ c ≤ 'f'
      · have low : 97 ≤ c.toNat := lower.1
        have big : ¬c.toNat - 87 < 10 := by omega
        simp [if_pos lower, if_neg big] at h
      · by_cases upper : 'A' ≤ c ∧ c ≤ 'F'
        · have low : 65 ≤ c.toNat := upper.1
          have big : ¬c.toNat - 55 < 10 := by omega
          simp [if_neg lower, if_pos upper, if_neg big] at h
        · simp [if_neg lower, if_neg upper] at h
  · exact isDigit_of_isDigit

private theorem digitChar_value {d : Char} (digit : d.isDigit = true) :
    Nat.digitChar (value 10 [d]) = d ∧ value 10 [d] < 10 := by
  have all : ∀ n < 58, 48 ≤ n → Nat.digitChar (value 10 [Char.ofNat n]) = Char.ofNat n ∧
      value 10 [Char.ofNat n] < 10 := by
    decide +kernel
  rw [Char.isDigit, Bool.and_eq_true, decide_eq_true_eq, decide_eq_true_eq] at digit
  have low : 48 ≤ d.toNat := digit.1
  have high : d.toNat ≤ 57 := digit.2
  rw [← Char.ofNat_toNat d]
  exact all d.toNat (by omega) low

theorem value_append (ds : List Char) (d : Char) :
    value 10 (ds ++ [d]) = value 10 ds * 10 + value 10 [d] := by
  simp [value]

theorem toDigits_value {ds : List Char} (digits : ∀ d ∈ ds, d.isDigit = true) (nonempty : ds ≠ [])
    (idle : ds.head? = some '0' → ds.length = 1) : Nat.toDigits 10 (value 10 ds) = ds := by
  induction ds using List.reverseRecOn with
  | nil => exact absurd rfl nonempty
  | append_singleton ds d ih =>
      obtain ⟨same, small⟩ := digitChar_value (digits d (by simp))
      by_cases first : ds = []
      · subst first
        rw [List.nil_append, Nat.toDigits_of_lt_base small, same]
      · have head : ds.head? ≠ some '0' := by
          intro zero
          have one := idle (by rw [List.head?_append, zero]; rfl)
          rw [List.length_append, List.length_singleton] at one
          exact first (List.length_eq_zero_iff.mp (by omega))
        have front := ih (fun e mem => digits e (List.mem_append_left _ mem)) first
          fun zero => absurd zero head
        have positive : value 10 ds ≠ 0 := by
          intro zero
          rw [zero] at front
          rw [← front] at head
          exact head rfl
        rw [value_append, Nat.toDigits_of_base_le (by decide) (by omega)]
        have quotient : (value 10 ds * 10 + value 10 [d]) / 10 = value 10 ds := by omega
        have remainder : (value 10 ds * 10 + value 10 [d]) % 10 = value 10 [d] := by omega
        rw [quotient, remainder, front, same]

end TunnelClient.Text.Numeral
