import TunnelClient.Proofs.Address.Host
import TunnelClient.Proofs.Text.Ascii
import TunnelClient.Proofs.Text.Blank
import TunnelClient.Proofs.Text.Numeral

/-!
# Dotted addresses

The dotted text of an address.  It and no other text reads back as the address, and it is one word
of ASCII.
-/

namespace TunnelClient.Ipv4

open Text.Numeral (isDigit_of_mem isDigit_of_isDigit isDigit_iff ne_of_isDigit value_toDigits
  toDigits_head eq_zero_of_toDigits toDigits_value)

/-! ## Octets -/

theorem length_toDigits_octet {n : Nat} (bound : n < 256) : (Nat.toDigits 10 n).length ≤ 3 := by
  have all : ∀ n < 256, (Nat.toDigits 10 n).length ≤ 3 := by decide +kernel
  exact all n bound

private theorem read?_octet {n : Nat} (bound : n < 256) {rest : List Char}
    (ends : ∀ c ∈ rest.head?, Text.Numeral.isDigit 10 c = false) :
    Text.Numeral.read? octetForm (Nat.toDigits 10 n ++ rest) = some (n, rest) := by
  have digits : ∀ d ∈ Nat.toDigits 10 n, Text.Numeral.isDigit 10 d = true := fun d mem =>
    isDigit_of_isDigit (isDigit_of_mem mem)
  have stop : rest.takeWhile (Text.Numeral.isDigit 10) = [] ∧
      rest.dropWhile (Text.Numeral.isDigit 10) = rest := by
    cases rest with
    | nil => exact ⟨rfl, rfl⟩
    | cons c rest => simp [ends c rfl]
  have taken : (Nat.toDigits 10 n ++ rest).takeWhile (Text.Numeral.isDigit 10) =
      Nat.toDigits 10 n := by
    rw [List.takeWhile_append_of_pos digits, stop.1, List.append_nil]
  have dropped : (Nat.toDigits 10 n ++ rest).dropWhile (Text.Numeral.isDigit 10) = rest := by
    rw [List.dropWhile_append_of_pos digits, stop.2]
  have idle : ((Nat.toDigits 10 n).head? == some '0' && decide (1 < (Nat.toDigits 10 n).length)) =
      false := by
    obtain ⟨d, ds, hn, -⟩ := toDigits_head n
    by_cases zero : d = '0'
    · subst zero
      rw [eq_zero_of_toDigits hn]
      rfl
    · simp [hn, zero]
  have nonempty : (Nat.toDigits 10 n).isEmpty = false := by simp [Nat.toDigits_ne_nil]
  have short := Nat.not_lt.mpr (length_toDigits_octet bound)
  simp only [Text.Numeral.read?, octetForm, taken, dropped, value_toDigits, Bool.not_false,
    Bool.true_and, idle, nonempty, short, decide_false, Bool.or_false, Nat.not_le.mpr bound,
    Bool.false_eq_true, if_false]

private theorem eq_append_of_read? {cs rest : List Char} {n : Nat}
    (h : Text.Numeral.read? octetForm cs = some (n, rest)) :
    cs = Nat.toDigits 10 n ++ rest ∧ n < 256 := by
  simp only [Text.Numeral.read?, octetForm, Bool.not_false, Bool.true_and] at h
  split at h
  · cases h
  · rename_i fits
    cases h
    simp only [Bool.or_eq_true, Bool.and_eq_true, beq_iff_eq, not_or, List.isEmpty_iff,
      not_and] at fits
    obtain ⟨⟨⟨nonempty, -⟩, idle⟩, bound⟩ := fits
    have digits : ∀ d ∈ cs.takeWhile (Text.Numeral.isDigit 10), d.isDigit = true := fun d mem =>
      isDigit_iff.mp (List.all_eq_true.mp List.all_takeWhile d mem)
    refine ⟨?_, Nat.lt_of_not_le fun le => bound (decide_eq_true le)⟩
    rw [toDigits_value digits nonempty, List.takeWhile_append_dropWhile]
    intro zero
    have single := Nat.le_of_not_lt fun more => idle zero (decide_eq_true more)
    exact Nat.le_antisymm single (List.length_pos_iff.mpr nonempty)

/-! ## The text -/

private theorem toList_text (a : Ipv4) : a.text.toList =
    Nat.toDigits 10 (a.octet 24).toNat ++ '.' :: (Nat.toDigits 10 (a.octet 16).toNat ++
      '.' :: (Nat.toDigits 10 (a.octet 8).toNat ++ '.' :: Nat.toDigits 10 (a.octet 0).toNat)) := by
  simp [text, octets, Nat.toString_eq_repr]

theorem read?_text (a : Ipv4) : read? a.text.toList = some (a, []) := by
  have dot : ∀ rest : List Char, ∀ c ∈ ('.' :: rest).head?, Text.Numeral.isDigit 10 c = false := by
    rintro rest c ⟨⟩
    decide
  have first := read?_octet (a.octet 24).toNat_lt (dot
    (Nat.toDigits 10 (a.octet 16).toNat ++ '.' :: (Nat.toDigits 10 (a.octet 8).toNat ++
      '.' :: Nat.toDigits 10 (a.octet 0).toNat)))
  have second := read?_octet (a.octet 16).toNat_lt (dot
    (Nat.toDigits 10 (a.octet 8).toNat ++ '.' :: Nat.toDigits 10 (a.octet 0).toNat))
  have third := read?_octet (a.octet 8).toNat_lt (dot (Nat.toDigits 10 (a.octet 0).toNat))
  have fourth : Text.Numeral.read? octetForm (Nat.toDigits 10 (a.octet 0).toNat ++ []) =
      some ((a.octet 0).toNat, []) := read?_octet (a.octet 0).toNat_lt nofun
  rw [List.append_nil] at fourth
  have whole := ofBytes?_octets a
  simp only [octets, ofBytes?, Option.some.injEq] at whole
  simp only [read?, toList_text, first, second, third, fourth, Option.bind_eq_bind,
    Option.bind_some, UInt8.ofNat_toNat, whole]

theorem parseChars?_text (a : Ipv4) : parseChars? a.text.toList = some a := by
  rw [parseChars?, read?_text]

theorem parse?_text (a : Ipv4) : parse? a.text = some a := parseChars?_text a

private theorem eq_text_of_read? {cs : List Char} {a : Ipv4} (h : read? cs = some (a, [])) :
    cs = a.text.toList := by
  simp only [read?, Option.bind_eq_bind, Option.bind_eq_some_iff] at h
  obtain ⟨⟨n₁, rest₁⟩, h₁, h⟩ := h
  obtain ⟨rfl, bound₁⟩ := eq_append_of_read? h₁
  split at h
  · rename_i cs₁ dot₁
    obtain rfl : rest₁ = '.' :: cs₁ := dot₁
    obtain ⟨⟨n₂, rest₂⟩, h₂, h⟩ := Option.bind_eq_some_iff.mp h
    obtain ⟨rfl, bound₂⟩ := eq_append_of_read? h₂
    split at h
    · rename_i cs₂ dot₂
      obtain rfl : rest₂ = '.' :: cs₂ := dot₂
      obtain ⟨⟨n₃, rest₃⟩, h₃, h⟩ := Option.bind_eq_some_iff.mp h
      obtain ⟨rfl, bound₃⟩ := eq_append_of_read? h₃
      split at h
      · rename_i cs₃ dot₃
        obtain rfl : rest₃ = '.' :: cs₃ := dot₃
        obtain ⟨⟨n₄, rest₄⟩, h₄, h⟩ := Option.bind_eq_some_iff.mp h
        obtain ⟨rfl, bound₄⟩ := eq_append_of_read? h₄
        simp only [Option.some.injEq, Prod.mk.injEq] at h
        obtain ⟨rfl, rfl⟩ := h
        have octets := octets_ofOctets (.ofNat n₁) (.ofNat n₂) (.ofNat n₃) (.ofNat n₄)
        simp only [Ipv4.octets, List.cons.injEq, and_true] at octets
        obtain ⟨o₁, o₂, o₃, o₄⟩ := octets
        rw [toList_text, o₁, o₂, o₃, o₄, UInt8.toNat_ofNat_of_lt' bound₁,
          UInt8.toNat_ofNat_of_lt' bound₂, UInt8.toNat_ofNat_of_lt' bound₃,
          UInt8.toNat_ofNat_of_lt' bound₄, List.append_nil]
      · cases h
    · cases h
  · cases h

theorem parseChars?_eq_some_iff {cs : List Char} {a : Ipv4} :
    parseChars? cs = some a ↔ cs = a.text.toList := by
  constructor
  · intro h
    rw [parseChars?] at h
    split at h
    · cases h
      exact eq_text_of_read? ‹_›
    · cases h
  · rintro rfl
    exact parseChars?_text a

theorem mem_text {a : Ipv4} {c : Char} (mem : c ∈ a.text.toList) : c.isDigit = true ∨ c = '.' := by
  rw [toList_text] at mem
  simp only [List.mem_append, List.mem_cons] at mem
  rcases mem with digit | dot | digit | dot | digit | dot | digit
  all_goals first | exact .inr dot | exact .inl (isDigit_of_mem digit)

theorem bounds_of_mem_text {a : Ipv4} {c : Char} (mem : c ∈ a.text.toList) :
    46 ≤ c.toNat ∧ c.toNat ≤ 57 := by
  rcases mem_text mem with digit | rfl
  · rw [Char.isDigit, Bool.and_eq_true, decide_eq_true_eq, decide_eq_true_eq] at digit
    have low : 48 ≤ c.toNat := digit.1
    have high : c.toNat ≤ 57 := digit.2
    omega
  · decide

theorem isAscii_text (a : Ipv4) : Text.Utf8.IsAscii a.text.toList := by
  intro c mem
  have bounds := bounds_of_mem_text mem
  omega

theorem solid_text (a : Ipv4) : Text.Solid a.text.toList := by
  intro c mem
  have bounds := bounds_of_mem_text mem
  simp only [Text.isBlank, Bool.or_eq_false_iff, Bool.and_eq_false_iff, decide_eq_false_iff_not,
    beq_eq_false_iff_ne]
  omega

theorem text_ne_nil (a : Ipv4) : a.text.toList ≠ [] := by
  rw [toList_text]
  simp

theorem text_getLast? (a : Ipv4) : ∃ d, a.text.toList.getLast? = some d ∧ d.isDigit = true := by
  cases last : (Nat.toDigits 10 (a.octet 0).toNat).getLast? with
  | none => exact absurd (List.getLast?_eq_none_iff.mp last) Nat.toDigits_ne_nil
  | some d =>
      refine ⟨d, ?_, isDigit_of_mem (List.mem_of_getLast? last)⟩
      rw [toList_text]
      simp [List.getLast?_append, List.getLast?_cons, last]

end TunnelClient.Ipv4
