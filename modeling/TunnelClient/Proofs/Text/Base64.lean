import Mathlib.Data.List.GetD
import Mathlib.Data.Nat.Digits.Lemmas
import TunnelClient.Text.Base64

/-!
# Base64 texts

Base64.  A text is read as bytes if and only if it is what is written for them, and that is the
number that the bytes write, in digits of base 64.
-/

namespace TunnelClient.Text.Base64

variable {c : Char} {v : Nat} {bytes : List UInt8} {text : List Char}

/-! ## The alphabet -/

private theorem value?_symbol (n : Nat) : value? (symbol n) = some (n % 64) := by
  have all : ∀ k < 64, value? (alphabet.getD k 'A') = some k := by decide +kernel
  exact all _ (Nat.mod_lt n (by decide))

private theorem idxOf_symbol (n : Nat) : alphabet.idxOf (symbol n) = n % 64 := by
  have all : ∀ k < 64, alphabet.idxOf (alphabet.getD k 'A') = k := by decide +kernel
  exact all _ (Nat.mod_lt n (by decide))

private theorem symbol_mem (n : Nat) : symbol n ∈ alphabet := by
  have all : ∀ k < 64, alphabet.getD k 'A' ∈ alphabet := by decide +kernel
  exact all _ (Nat.mod_lt n (by decide))

private theorem symbol_idxOf (known : c ∈ alphabet) :
    alphabet.idxOf c < 64 ∧ symbol (alphabet.idxOf c) = c := by
  have inside : alphabet.idxOf c < alphabet.length := List.idxOf_lt_length_of_mem known
  have small : alphabet.idxOf c < 64 := inside
  refine ⟨small, ?_⟩
  rw [symbol, Nat.mod_eq_of_lt small, List.getD_eq_getElem _ _ inside, List.getElem_idxOf]

private theorem symbol_of_value? (h : value? c = some v) : v < 64 ∧ symbol v = c := by
  have all : ∀ n < 128, ∀ v ∈ value? (Char.ofNat n), v < 64 ∧ symbol v = Char.ofNat n := by
    decide +kernel
  have ascii : c.toNat < 128 := by
    rw [value?] at h
    split_ifs at h with upper lower digit plus slash
    · have : c.toNat ≤ 90 := upper.2
      omega
    · have : c.toNat ≤ 122 := lower.2
      omega
    · have : c.toNat ≤ 57 := digit.2
      omega
    · rw [plus]
      decide
    · rw [slash]
      decide
  rw [← Char.ofNat_toNat c] at h ⊢
  exact all c.toNat ascii v h

private theorem symbol_ne (n : Nat) : symbol n ≠ '=' := by
  have all : ∀ k < 64, alphabet.getD k 'A' ≠ '=' := by decide +kernel
  exact all _ (Nat.mod_lt n (by decide))

private theorem symbol_congr {m n : Nat} (h : m % 64 = n % 64) : symbol m = symbol n := by
  rw [symbol, symbol, h]

/-! ## Groups of four -/

theorem decode?_pair {a b : Char} : decode? [a, b, '=', '='] = some bytes ↔
    ∃ x y, value? a = some x ∧ value? b = some y ∧ y % 16 = 0 ∧
      bytes = [UInt8.ofNat (x * 4 + y / 16)] := by
  rw [decode?]
  simp only [Option.bind_eq_bind, Option.bind_eq_some_iff, Option.ite_none_right_eq_some,
    Option.some.injEq]
  constructor
  · rintro ⟨x, hx, y, hy, idle, rfl⟩
    exact ⟨x, y, hx, hy, idle, rfl⟩
  · rintro ⟨x, y, hx, hy, idle, rfl⟩
    exact ⟨x, hx, y, hy, idle, rfl⟩

theorem decode?_triple {a b c : Char} (ne : c ≠ '=') : decode? [a, b, c, '='] = some bytes ↔
    ∃ x y z, value? a = some x ∧ value? b = some y ∧ value? c = some z ∧ z % 4 = 0 ∧
      bytes = [UInt8.ofNat (x * 4 + y / 16), UInt8.ofNat (y * 16 + z / 4)] := by
  rw [decode?]
  · simp only [Option.bind_eq_bind, Option.bind_eq_some_iff, Option.ite_none_right_eq_some,
      Option.some.injEq]
    constructor
    · rintro ⟨x, hx, y, hy, z, hz, idle, rfl⟩
      exact ⟨x, y, z, hx, hy, hz, idle, rfl⟩
    · rintro ⟨x, y, z, hx, hy, hz, idle, rfl⟩
      exact ⟨x, hx, y, hy, z, hz, idle, rfl⟩
  · exact ne

theorem decode?_group {a b c d : Char} {rest : List Char} (full : d = '=' → rest ≠ []) :
    decode? (a :: b :: c :: d :: rest) = some bytes ↔
      ∃ x y z w more, value? a = some x ∧ value? b = some y ∧ value? c = some z ∧
        value? d = some w ∧ decode? rest = some more ∧
        bytes = UInt8.ofNat (x * 4 + y / 16) :: UInt8.ofNat (y * 16 + z / 4) ::
          UInt8.ofNat (z * 64 + w) :: more := by
  rw [decode?]
  · simp only [Option.bind_eq_bind, Option.bind_eq_some_iff, Option.some.injEq]
    constructor
    · rintro ⟨x, hx, y, hy, z, hz, w, hw, more, hmore, rfl⟩
      exact ⟨x, y, z, w, more, hx, hy, hz, hw, hmore, rfl⟩
    · rintro ⟨x, y, z, w, more, hx, hy, hz, hw, hmore, rfl⟩
      exact ⟨x, hx, y, hy, z, hz, w, hw, more, hmore, rfl⟩
  · exact fun _ => full
  · exact full

private theorem ofNat_eq {n : Nat} {b : UInt8} (h : n % 256 = b.toNat) : UInt8.ofNat n = b :=
  UInt8.toNat_inj.mp (UInt8.toNat_ofNat'.trans h)

/-! ## What is written is read back -/

theorem decode?_encode (bytes : List UInt8) : decode? (encode bytes) = some bytes := by
  fun_induction encode bytes with
  | case1 => rfl
  | case2 a =>
      have ha := a.toNat_lt
      have first : (a.toNat / 4 % 64 * 4 + a.toNat * 16 % 64 / 16) % 256 = a.toNat := by omega
      refine decode?_pair.mpr ⟨_, _, value?_symbol _, value?_symbol _, by omega, ?_⟩
      rw [ofNat_eq first]
  | case3 a b =>
      have ha := a.toNat_lt
      have hb := b.toNat_lt
      have first : (a.toNat / 4 % 64 * 4 + (a.toNat * 16 + b.toNat / 16) % 64 / 16) % 256 =
          a.toNat := by
        omega
      have second : ((a.toNat * 16 + b.toNat / 16) % 64 * 16 + b.toNat * 4 % 64 / 4) % 256 =
          b.toNat := by
        omega
      refine (decode?_triple (symbol_ne _)).mpr
        ⟨_, _, _, value?_symbol _, value?_symbol _, value?_symbol _, by omega, ?_⟩
      rw [ofNat_eq first, ofNat_eq second]
  | case4 a b c rest ih =>
      have ha := a.toNat_lt
      have hb := b.toNat_lt
      have hc := c.toNat_lt
      have first : (a.toNat / 4 % 64 * 4 + (a.toNat * 16 + b.toNat / 16) % 64 / 16) % 256 =
          a.toNat := by
        omega
      have second : ((a.toNat * 16 + b.toNat / 16) % 64 * 16 +
          (b.toNat * 4 + c.toNat / 64) % 64 / 4) % 256 = b.toNat := by
        omega
      have third : ((b.toNat * 4 + c.toNat / 64) % 64 * 64 + c.toNat % 64) % 256 = c.toNat := by
        omega
      refine (decode?_group fun eq => absurd eq (symbol_ne _)).mpr ⟨_, _, _, _, _, value?_symbol _,
        value?_symbol _, value?_symbol _, value?_symbol _, ih, ?_⟩
      rw [ofNat_eq first, ofNat_eq second, ofNat_eq third]

private theorem eq_encode_of_decode? (h : decode? text = some bytes) : text = encode bytes := by
  induction text using decode?.induct generalizing bytes with
  | case1 =>
      cases h
      rfl
  | case2 a b =>
      obtain ⟨x, y, hx, hy, idle, rfl⟩ := decode?_pair.mp h
      obtain ⟨x_lt, rfl⟩ := symbol_of_value? hx
      obtain ⟨y_lt, rfl⟩ := symbol_of_value? hy
      have first : symbol ((x * 4 + y / 16) % 2 ^ 8 / 4) = symbol x := symbol_congr (by omega)
      have second : symbol ((x * 4 + y / 16) % 2 ^ 8 * 16) = symbol y := symbol_congr (by omega)
      rw [encode, UInt8.toNat_ofNat', first, second]
  | case3 a b c ne =>
      obtain ⟨x, y, z, hx, hy, hz, idle, rfl⟩ := (decode?_triple ne).mp h
      obtain ⟨x_lt, rfl⟩ := symbol_of_value? hx
      obtain ⟨y_lt, rfl⟩ := symbol_of_value? hy
      obtain ⟨z_lt, rfl⟩ := symbol_of_value? hz
      have first : symbol ((x * 4 + y / 16) % 2 ^ 8 / 4) = symbol x := symbol_congr (by omega)
      have second : symbol ((x * 4 + y / 16) % 2 ^ 8 * 16 + (y * 16 + z / 4) % 2 ^ 8 / 16) =
          symbol y :=
        symbol_congr (by omega)
      have third : symbol ((y * 16 + z / 4) % 2 ^ 8 * 4) = symbol z := symbol_congr (by omega)
      rw [encode, UInt8.toNat_ofNat', UInt8.toNat_ofNat', first, second, third]
  | case4 a b c d rest notPair full ih =>
      obtain ⟨x, y, z, w, more, hx, hy, hz, hw, hmore, rfl⟩ := (decode?_group full).mp h
      obtain ⟨x_lt, rfl⟩ := symbol_of_value? hx
      obtain ⟨y_lt, rfl⟩ := symbol_of_value? hy
      obtain ⟨z_lt, rfl⟩ := symbol_of_value? hz
      obtain ⟨w_lt, rfl⟩ := symbol_of_value? hw
      have first : symbol ((x * 4 + y / 16) % 2 ^ 8 / 4) = symbol x := symbol_congr (by omega)
      have second : symbol ((x * 4 + y / 16) % 2 ^ 8 * 16 + (y * 16 + z / 4) % 2 ^ 8 / 16) =
          symbol y :=
        symbol_congr (by omega)
      have third : symbol ((y * 16 + z / 4) % 2 ^ 8 * 4 + (z * 64 + w) % 2 ^ 8 / 64) = symbol z :=
        symbol_congr (by omega)
      have fourth : symbol ((z * 64 + w) % 2 ^ 8) = symbol w := symbol_congr (by omega)
      rw [encode, UInt8.toNat_ofNat', UInt8.toNat_ofNat', UInt8.toNat_ofNat', first, second, third,
        fourth, ← ih hmore]
  | case5 text notNil notPair notTriple notGroup =>
      rw [decode?] at h
      · cases h
      all_goals assumption

theorem decode?_eq_some_iff : decode? text = some bytes ↔ text = encode bytes := by
  constructor
  · exact eq_encode_of_decode?
  · rintro rfl
    exact decode?_encode bytes

/-! ## What is written is a number -/

def number (base : Nat) (digits : List Nat) : Nat := Nat.ofDigits base digits.reverse

theorem number_append (base : Nat) (digits more : List Nat) :
    number base (digits ++ more) = number base digits * base ^ more.length + number base more := by
  rw [number, List.reverse_append, Nat.ofDigits_append, List.length_reverse, Nat.add_comm,
    Nat.mul_comm]
  rfl

private theorem number_pair (base d e : Nat) : number base [d, e] = d * base + e := by
  simp [number, Nat.ofDigits_cons, Nat.add_comm, Nat.mul_comm]

private theorem number_triple (base d e f : Nat) :
    number base [d, e, f] = (d * base + e) * base + f := by
  rw [show [d, e, f] = [d, e] ++ [f] from rfl, number_append, number_pair, List.length_singleton,
    pow_one]
  simp [number]

theorem number_inj {base : Nat} {digits digits' : List Nat} (two : 1 < base)
    (length : digits.length = digits'.length) (small : ∀ d ∈ digits, d < base)
    (small' : ∀ d ∈ digits', d < base) (same : number base digits = number base digits') :
    digits = digits' := by
  refine List.reverse_injective (Nat.ofDigits_inj_of_len_eq two ?_ ?_ ?_ same)
  · rw [List.length_reverse, List.length_reverse, length]
  · exact fun d mem => small d (List.mem_reverse.mp mem)
  · exact fun d mem => small' d (List.mem_reverse.mp mem)

/-- How many signs are missing from the last group of four for so many bytes. -/
def missing (count : Nat) : Nat := (3 - count % 3) % 3

/-- What base64 is: groups of four signs for groups of three bytes, `=` for the signs that are
missing from the last one.  By their places in the alphabet the others write the same number as the
bytes, with two zero bits behind it for each sign missing. -/
def Spells (bytes : List UInt8) (text : List Char) : Prop :=
  ∃ signs : List Char, text = signs ++ List.replicate (missing bytes.length) '=' ∧
    text.length = 4 * ((bytes.length + 2) / 3) ∧ (∀ c ∈ signs, c ∈ alphabet) ∧
    number 64 (signs.map alphabet.idxOf) =
      number 256 (bytes.map UInt8.toNat) * 4 ^ missing bytes.length

private theorem pow_signs {signs bytes : Nat} (h : signs + missing bytes = 4 * ((bytes + 2) / 3)) :
    64 ^ signs = 256 ^ bytes * 4 ^ missing bytes := by
  have bits : 6 * signs = 8 * bytes + 2 * missing bytes := by
    rw [missing] at h ⊢
    omega
  calc 64 ^ signs = 2 ^ (6 * signs) := (Nat.pow_mul 2 6 signs).symm
    _ = 2 ^ (8 * bytes) * 2 ^ (2 * missing bytes) := by rw [bits, Nat.pow_add]
    _ = 256 ^ bytes * 4 ^ missing bytes := by rw [Nat.pow_mul, Nat.pow_mul]

theorem spells_encode (bytes : List UInt8) : Spells bytes (encode bytes) := by
  fun_induction encode bytes with
  | case1 => exact ⟨[], rfl, rfl, by simp, rfl⟩
  | case2 a =>
      have ha := a.toNat_lt
      refine ⟨[symbol (a.toNat / 4), symbol (a.toNat * 16)], rfl, by simp, by simp [symbol_mem], ?_⟩
      have two : missing [a].length = 2 := rfl
      have one : number 256 [a.toNat] = a.toNat := Nat.ofDigits_singleton ..
      simp only [two, List.map_cons, List.map_nil, idxOf_symbol, number_pair, one]
      omega
  | case3 a b =>
      have ha := a.toNat_lt
      have hb := b.toNat_lt
      refine ⟨[symbol (a.toNat / 4), symbol (a.toNat * 16 + b.toNat / 16), symbol (b.toNat * 4)],
        rfl, by simp, by simp [symbol_mem], ?_⟩
      have one : missing [a, b].length = 1 := rfl
      simp only [one, List.map_cons, List.map_nil, idxOf_symbol, number_pair, number_triple]
      omega
  | case4 a b c rest ih =>
      have ha := a.toNat_lt
      have hb := b.toNat_lt
      have hc := c.toNat_lt
      obtain ⟨signs, text, length, known, value⟩ := ih
      have same : missing (a :: b :: c :: rest).length = missing rest.length := by
        simp only [missing, List.length_cons]
        omega
      have scale : 64 ^ signs.length = 256 ^ rest.length * 4 ^ missing rest.length := by
        refine pow_signs ?_
        rw [← length, text, List.length_append, List.length_replicate]
      let group := [symbol (a.toNat / 4), symbol (a.toNat * 16 + b.toNat / 16),
        symbol (b.toNat * 4 + c.toNat / 64), symbol c.toNat]
      have bits : number 64 (group.map alphabet.idxOf) =
          number 256 [a.toNat, b.toNat, c.toNat] := by
        rw [show group.map alphabet.idxOf = [a.toNat / 4 % 64,
            (a.toNat * 16 + b.toNat / 16) % 64] ++ [(b.toNat * 4 + c.toNat / 64) % 64,
            c.toNat % 64] by simp [group, idxOf_symbol], number_append, number_pair, number_pair,
          number_triple]
        simp only [List.length_cons, List.length_nil]
        omega
      refine ⟨group ++ signs, ?_, ?_, ?_, ?_⟩
      · rw [same, text]
        rfl
      · simp only [List.length_cons, length]
        omega
      · simpa [group, symbol_mem] using known
      · have bytes_length : (rest.map UInt8.toNat).length = rest.length := List.length_map ..
        rw [same]
        calc number 64 ((group ++ signs).map alphabet.idxOf)
            = number 64 (group.map alphabet.idxOf) * 64 ^ signs.length +
                number 64 (signs.map alphabet.idxOf) := by
              rw [List.map_append, number_append, List.length_map]
          _ = (number 256 [a.toNat, b.toNat, c.toNat] * 256 ^ rest.length +
                number 256 (rest.map UInt8.toNat)) * 4 ^ missing rest.length := by
              rw [bits, scale, value, Nat.add_mul, Nat.mul_assoc]
          _ = number 256 ((a :: b :: c :: rest).map UInt8.toNat) * 4 ^ missing rest.length := by
              rw [← bytes_length, ← number_append]
              rfl

theorem signs_inj {signs signs' : List Char} (known : ∀ c ∈ signs, c ∈ alphabet)
    (known' : ∀ c ∈ signs', c ∈ alphabet) (length : signs.length = signs'.length)
    (value : number 64 (signs.map alphabet.idxOf) = number 64 (signs'.map alphabet.idxOf)) :
    signs = signs' := by
  have small : ∀ {l : List Char}, (∀ c ∈ l, c ∈ alphabet) → ∀ d ∈ l.map alphabet.idxOf, d < 64 := by
    intro l known d mem
    obtain ⟨c, hc, rfl⟩ := List.mem_map.mp mem
    exact (symbol_idxOf (known c hc)).1
  have back : ∀ {l : List Char}, (∀ c ∈ l, c ∈ alphabet) →
      (l.map alphabet.idxOf).map symbol = l := by
    intro l known
    rw [List.map_map]
    exact (List.map_congr_left fun c hc => (symbol_idxOf (known c hc)).2).trans (List.map_id _)
  have places : signs.map alphabet.idxOf = signs'.map alphabet.idxOf :=
    number_inj (by decide) (by rw [List.length_map, List.length_map, length]) (small known)
      (small known') value
  rw [← back known, places, back known']

theorem spells_iff : Spells bytes text ↔ text = encode bytes := by
  constructor
  · rintro ⟨signs, rfl, length, known, value⟩
    obtain ⟨signs', text, length', known', value'⟩ := spells_encode bytes
    have count : signs.length = signs'.length := by
      rw [text, List.length_append] at length'
      rw [List.length_append] at length
      omega
    rw [signs_inj known known' count (value.trans value'.symm), text]
  · rintro rfl
    exact spells_encode bytes

end TunnelClient.Text.Base64
