import TunnelClient.Proofs.Text.Numeral
import TunnelClient.Proofs.Toml.Strings
import TunnelClient.Toml.Reader

/-!
# Printed values

What is printed as a value is read as that value: strings in all their forms, and numbers
that fit 64 bits with a sign.
-/

namespace TunnelClient

namespace Toml

open Text.Numeral (isDigit_of_mem ne_of_isDigit value_toDigits toDigits_head eq_zero_of_toDigits)

/-! ## Runs of digits -/

variable {ds : List Char} {d : Char}

private theorem digitRun?_digits (digits : ∀ d ∈ ds, d.isDigit = true) (rest : List Char) :
    digitRun? (Text.Numeral.isDigit 10) false (ds ++ '\n' :: rest) = some (ds, '\n' :: rest) := by
  induction ds with
  | nil => rfl
  | cons d ds ih =>
      have digit := Text.Numeral.isDigit_of_isDigit (digits d List.mem_cons_self)
      rw [List.cons_append, digitRun?, if_pos digit,
        ih fun d' mem => digits d' (List.mem_cons_of_mem d mem)]
      rfl

private theorem char?_of_field? {width low high n : Nat} {c : Char} {cs rest : List Char}
    (digits : ∀ d ∈ ds, d.isDigit = true) (separator : c.isDigit = false) (ne : c ≠ '\n')
    (h : field? width low high (ds ++ '\n' :: rest) = some (n, cs)) : char? c cs = none := by
  rw [field?] at h
  split at h
  · rename_i taken
    obtain ⟨-, all, -⟩ := taken
    cases h
    have inside : width ≤ ds.length := by
      by_contra beyond
      have feed : '\n' ∈ (ds ++ '\n' :: rest).take width := by
        rw [List.take_append, List.take_of_length_le (by omega)]
        obtain ⟨k, hk⟩ : ∃ k, width - ds.length = k + 1 := ⟨width - ds.length - 1, by omega⟩
        simp [hk]
      have := List.all_eq_true.mp all '\n' feed
      cases this
    rw [List.drop_append_of_le_length inside]
    cases left : ds.drop width with
    | nil => exact if_neg (Ne.symm ne)
    | cons d ds' =>
        have mem : d ∈ ds := List.mem_of_mem_drop (left ▸ List.mem_cons_self)
        exact if_neg (ne_of_isDigit (digits d mem) separator)
  · cases h

private theorem datetime?_digits (digits : ∀ d ∈ ds, d.isDigit = true) (rest : List Char) :
    datetime? (ds ++ '\n' :: rest) = none := by
  have noDate : date? (ds ++ '\n' :: rest) = none := by
    rw [date?]
    cases hf : field? 4 0 9999 (ds ++ '\n' :: rest) with
    | none => rfl
    | some read =>
        have separator : char? '-' read.2 = none :=
          char?_of_field? digits (by decide) (by decide) hf
        simp only [Option.bind_eq_bind, Option.bind_some, separator, Option.bind_none]
  have noTime : time? (ds ++ '\n' :: rest) = none := by
    rw [time?]
    cases hf : field? 2 0 23 (ds ++ '\n' :: rest) with
    | none => rfl
    | some read =>
        have separator : char? ':' read.2 = none :=
          char?_of_field? digits (by decide) (by decide) hf
        simp only [Option.bind_eq_bind, Option.bind_some, separator, Option.bind_none]
  simp only [datetime?, datetimeEnd?, noDate, noTime, Option.map_none]

/-! ## Numbers -/

private theorem whole?_toDigits (n : Nat) (rest : List Char) :
    whole? (Nat.toDigits 10 n ++ '\n' :: rest) = some (Nat.toDigits 10 n, '\n' :: rest) := by
  have digits : ∀ d ∈ Nat.toDigits 10 n, d.isDigit = true := fun d => isDigit_of_mem
  obtain ⟨d, ds, hn, digit⟩ := toDigits_head n
  by_cases zero : d = '0'
  · subst zero
    obtain rfl := eq_zero_of_toDigits hn
    rfl
  · rw [hn] at digits ⊢
    rw [List.cons_append, whole?, decimalRun?, digitRun?,
      if_pos (Text.Numeral.isDigit_of_isDigit digit),
      digitRun?_digits fun d' mem => digits d' (List.mem_cons_of_mem d mem)]
    · rfl
    · intro rest' h
      exact zero (List.cons.inj h).1

private theorem decimal?_toDigits {n : Nat} (fits : (n : Int) ≤ maxInteger) (rest : List Char) :
    decimal? false (Nat.toDigits 10 n ++ '\n' :: rest) =
      some (.integer n, '\n' :: rest) := by
  have inside : minInteger ≤ (n : Int) ∧ (n : Int) ≤ maxInteger := ⟨by simp [minInteger], fits⟩
  simp [decimal?, whole?_toDigits, fraction?, exponent?, exponentValue, value_toDigits, integer?,
    inside]

theorem number?_toDigits {n : Nat} (fits : (n : Int) ≤ maxInteger) (rest : List Char) :
    number? (Nat.toDigits 10 n ++ '\n' :: rest) = some (.integer n, '\n' :: rest) := by
  have read := decimal?_toDigits fits rest
  obtain ⟨d, ds, hn, digit⟩ := toDigits_head n
  by_cases zero : d = '0'
  · subst zero
    obtain rfl := eq_zero_of_toDigits hn
    exact read
  · rw [hn, List.cons_append] at read ⊢
    have unsigned : sign (d :: (ds ++ '\n' :: rest)) = (false, d :: (ds ++ '\n' :: rest)) := by
      rw [sign] <;> rintro rest' ⟨⟩ <;> cases digit
    rw [number?, signed?, unsigned]
    · split
      · rename_i h
        exact absurd (List.cons.inj (Prod.mk.inj h).2).1 (ne_of_isDigit digit rfl)
      · rename_i h
        exact absurd (List.cons.inj (Prod.mk.inj h).2).1 (ne_of_isDigit digit rfl)
      · rename_i h
        cases h
        exact read
    · intro c rest' h
      exact zero (List.cons.inj h).1

/-! ## Values -/

def Field.value : Field → Value
  | text s => .string s
  | number n => .integer n

def Field.Fits : Field → Prop
  | text _ => True
  | number n => (n : Int) ≤ maxInteger

private theorem string?_stringText (s : String) (rest : List Char) :
    string? (stringText s.toList ++ '\n' :: rest) = some (.string s, '\n' :: rest) := by
  simp only [string?, readString?_stringText, Option.map_some, String.ofList_toList]

private theorem stringText_head (s : List Char) :
    ∃ c cs, stringText s = c :: cs ∧ (c = '\x22' ∨ c = '\x27') := by
  rw [stringText]
  split_ifs
  · exact ⟨_, _, rfl, .inl rfl⟩
  · exact ⟨_, _, rfl, .inr rfl⟩
  · exact ⟨_, _, rfl, .inl rfl⟩
  · exact ⟨_, _, rfl, .inr rfl⟩
  · exact ⟨_, _, rfl, .inl rfl⟩
  · exact ⟨_, _, rfl, .inl rfl⟩

theorem Field.written_head (f : Field) :
    ∃ c cs, f.written = c :: cs ∧ (c = '\x22' ∨ c = '\x27' ∨ c.isDigit = true) := by
  cases f with
  | text s =>
      obtain ⟨c, cs, head, quote⟩ := stringText_head s.toList
      exact ⟨c, cs, head, quote.imp_right .inl⟩
  | number n =>
      obtain ⟨d, ds, head, digit⟩ := toDigits_head n
      exact ⟨d, ds, Nat.toList_repr.trans head, .inr (.inr digit)⟩

theorem Field.written_ne (f : Field) {c : Char} {cs : List Char} (head : f.written = c :: cs)
    {other : Char} (quote : other ≠ '\x22') (apostrophe : other ≠ '\x27')
    (digit : other.isDigit = false) : c ≠ other := by
  obtain ⟨c', cs', head', start⟩ := f.written_head
  obtain rfl := (List.cons.inj (head.symm.trans head')).1
  rcases start with rfl | rfl | start
  · exact quote.symm
  · exact apostrophe.symm
  · exact ne_of_isDigit start digit

theorem scalar?_quoted {c : Char} (quote : c = '\x22' ∨ c = '\x27') (cs : List Char) :
    scalar? (c :: cs) = string? (c :: cs) := by
  rcases quote with rfl | rfl <;> rfl

theorem scalar?_digit {d : Char} (digit : d.isDigit = true) (cs : List Char) :
    scalar? (d :: cs) = (datetime? (d :: cs)).or (number? (d :: cs)) := by
  rw [scalar?]
  all_goals
    intro rest h
    exact ne_of_isDigit digit (by rfl) (List.cons.inj h).1

theorem scalar?_written {f : Field} (fits : f.Fits) (rest : List Char) :
    scalar? (f.written ++ '\n' :: rest) = some (f.value, '\n' :: rest) := by
  cases f with
  | text s =>
      have read := string?_stringText s rest
      obtain ⟨c, cs, head, quote⟩ := stringText_head s.toList
      rw [head] at read
      rw [Field.written, head]
      exact (scalar?_quoted quote _).trans read
  | number n =>
      have read := number?_toDigits fits rest
      have undated := datetime?_digits (fun d => isDigit_of_mem (n := n)) rest
      obtain ⟨d, ds, head, digit⟩ := toDigits_head n
      rw [Field.written, Nat.toString_eq_repr, Nat.toList_repr]
      rw [head, List.cons_append] at read undated ⊢
      rw [scalar?_digit digit, undated, read]
      rfl

theorem value?_written {f : Field} (fits : f.Fits) (rest : List Char) :
    value? (f.written ++ '\n' :: rest) = some (f.value, '\n' :: rest) := by
  have read := scalar?_written fits rest
  obtain ⟨c, cs, head, -⟩ := f.written_head
  have bracket : c ≠ '[' := f.written_ne head (by decide) (by decide) (by decide)
  have brace : c ≠ '\x7b' := f.written_ne head (by decide) (by decide) (by decide)
  rw [head, List.cons_append] at read ⊢
  rw [value?, nested?, read]
  · intro rest' h
    exact bracket (List.cons.inj h).1
  · intro rest' h
    exact brace (List.cons.inj h).1

end Toml

end TunnelClient
