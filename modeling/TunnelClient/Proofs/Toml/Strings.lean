import Mathlib.Data.List.Basic
import TunnelClient.Toml.Printer
import TunnelClient.Toml.Strings

/-!
# Printed strings

What is printed as a string is read as that string, whichever of the four forms it takes.
-/

namespace TunnelClient

namespace Text.Hex

private theorem value?_toUpper_digit (n : Nat) : value? (digit n).toUpper = some (n % 16) := by
  have all : ∀ d < 16, value? (digit d).toUpper = some d := by decide
  have same : digit n = digit (n % 16) := by simp [digit]
  rw [same]
  exact all _ (Nat.mod_lt _ (by decide))

end Text.Hex

namespace Toml

/-! ## Characters -/

theorem isControl_iff {c : Char} : isControl c = true ↔ c.toNat < 32 ∨ c.toNat = 127 := by
  have del : c = '\x7f' ↔ c.toNat = 127 :=
    ⟨fun h => h ▸ rfl, fun h => (Char.ofNat_toNat c).symm.trans (congrArg Char.ofNat h)⟩
  simp only [isControl, Bool.or_eq_true, decide_eq_true_eq, beq_iff_eq, del]
  exact Iff.rfl

private theorem isVisible_of_not_isControl {c : Char} (h : isControl c = false) :
    isVisible c = true := by
  have bounds : ¬(c.toNat < 32 ∨ c.toNat = 127) := fun inside =>
    Bool.false_ne_true (h.symm.trans (isControl_iff.mpr inside))
  have low : ' ' ≤ c ↔ 32 ≤ c.toNat := Iff.rfl
  have high : c ≤ '~' ↔ c.toNat ≤ 126 := Iff.rfl
  simp only [isVisible, isNonAscii, Bool.or_eq_true, Bool.and_eq_true, decide_eq_true_eq, low, high]
  omega

private theorem isVisible_of_fitsLine {c : Char} (h : fitsLine c = true) : isVisible c = true := by
  simp only [fitsLine, Bool.or_eq_true, Bool.not_eq_true'] at h
  rcases h with tab | shown
  · simp [isVisible, tab]
  · exact isVisible_of_not_isControl shown

theorem charOfCode?_toNat (c : Char) : charOfCode? c.toNat = some c := by
  rw [charOfCode?, if_pos (by exact c.valid), Char.ofNat_toNat]

inductive Escaped (c : Char) : List Char → Prop
  | letter {e : Char} (known : escape? e = some (.char c)) : Escaped c ['\\', e]
  | code (short : c.toNat < 65536) :
      Escaped c (['\\', 'u'] ++ (Text.Hex.fixed 4 c.toNat).map Char.toUpper)
  | plain (visible : isVisible c = true) (quote : c ≠ '\x22') (backslash : c ≠ '\\')
      (feed : c ≠ '\n') (carriage : c ≠ '\r') : Escaped c [c]

theorem Escaped.head {c : Char} {text : List Char} (h : Escaped c text) :
    ∃ e es, text = e :: es ∧ e ≠ '\x22' ∧ e ≠ '\n' ∧ e ≠ '\r' := by
  cases h with
  | letter known => exact ⟨_, _, rfl, by decide, by decide, by decide⟩
  | code short => exact ⟨_, _, rfl, by decide, by decide, by decide⟩
  | plain visible quote backslash feed carriage => exact ⟨c, [], rfl, quote, feed, carriage⟩

private theorem escaped_escapeText (c : Char) : Escaped c (escapeText c) := by
  by_cases listed : c ∈ ['\x08', '\t', '\n', '\x0c', '\r', '\x22', '\\']
  · simp only [List.mem_cons, List.not_mem_nil, or_false] at listed
    rcases listed with rfl | rfl | rfl | rfl | rfl | rfl | rfl <;> exact .letter rfl
  · simp only [List.mem_cons, List.not_mem_nil, or_false, not_or] at listed
    obtain ⟨backspace, tab, feed, form, carriage, quote, backslash⟩ := listed
    simp only [escapeText, backspace, tab, feed, form, carriage, quote, backslash, if_false]
    split
    · rename_i control
      have bounds := isControl_iff.mp control
      exact .code (by omega)
    · rename_i shown
      exact .plain (isVisible_of_not_isControl (Bool.eq_false_iff.mpr shown)) quote backslash feed
        carriage

theorem spelled {n : Nat} (short : n < 65536) :
    ((n / 16 / 16 / 16 % 16 * 16 + n / 16 / 16 % 16) * 16 + n / 16 % 16) * 16 + n % 16 = n := by
  omega

private theorem fixed_four (n : Nat) : Text.Hex.fixed 4 n =
    [Text.Hex.digit (n / 16 / 16 / 16), Text.Hex.digit (n / 16 / 16), Text.Hex.digit (n / 16),
      Text.Hex.digit n] :=
  rfl

/-! ## Strings of one line -/

private theorem basic_escaped {c : Char} {text : List Char} (h : Escaped c text)
    (rest : List Char) : basic .text (text ++ rest) = push c (basic .text rest) := by
  cases h with
  | letter known => simp [basic, known]
  | code short =>
      simp [basic, fixed_four, escape?, Text.Hex.value?_toUpper_digit, spelled short,
        charOfCode?_toNat]
  | plain visible quote backslash => simp [basic, visible, quote, backslash]

private theorem basic_escapes (s rest : List Char) :
    basic .text (s.flatMap escapeText ++ '\x22' :: rest) = some (s, rest) := by
  induction s with
  | nil => simp [basic]
  | cons c s ih =>
      rw [List.flatMap_cons, List.append_assoc, basic_escaped (escaped_escapeText c), ih]
      rfl

private theorem literal_plain {s : List Char} (plain : isPlainLiteral s = true) (rest : List Char) :
    literal (s ++ '\x27' :: rest) = some (s, rest) := by
  induction s with
  | nil => simp [literal]
  | cons c s ih =>
      simp only [isPlainLiteral, List.all_cons, Bool.and_eq_true, bne_iff_ne] at plain ih
      obtain ⟨⟨fits, quote⟩, plain⟩ := plain
      rw [List.cons_append, literal, if_neg quote, if_pos (isVisible_of_fitsLine fits), ih plain]
      rfl

/-! ## Strings of several lines -/

private theorem multiBasic_text (c : Char) (rest : List Char) :
    multiBasic .text (c :: rest) =
      match closing? '\x22' (c :: rest) with
      | some done => some done
      | none =>
        if c = '\\' then multiBasic .escape rest
        else if c = '\n' then push '\n' (multiBasic .text rest)
        else if breaksLine c rest then multiBasic .text rest
        else if isVisible c then push c (multiBasic .text rest)
        else none := by
  rw [multiBasic.eq_def]
  rfl

private theorem breaksLine_eq_false {c : Char} (feed : c ≠ '\n') (carriage : c ≠ '\r')
    (rest : List Char) : breaksLine c rest = false := by
  unfold breaksLine
  split <;> simp_all

private theorem closing?_of_ne {c quote : Char} (ne : c ≠ quote) (rest : List Char) :
    closing? quote (c :: rest) = none := by
  simp [closing?, ne]

private theorem multiBasic_escaped {c : Char} {text : List Char} (h : Escaped c text)
    (rest : List Char) : multiBasic .text (text ++ rest) = push c (multiBasic .text rest) := by
  cases h with
  | @letter e known =>
      have other : e ≠ '\n' ∧ e ≠ ' ' ∧ e ≠ '\t' ∧ e ≠ '\r' := by
        refine ⟨?_, ?_, ?_, ?_⟩ <;> rintro rfl <;> cases known
      obtain ⟨feed, space, tab, carriage⟩ := other
      simp [multiBasic_text, closing?_of_ne, multiBasic, known, feed, space, tab,
        breaksLine_eq_false feed carriage]
  | code short =>
      simp [multiBasic_text, closing?_of_ne, multiBasic, fixed_four, escape?,
        Text.Hex.value?_toUpper_digit, spelled short, charOfCode?_toNat, breaksLine_eq_false]
  | plain visible quote backslash feed carriage =>
      simp [multiBasic_text, closing?_of_ne quote, visible, backslash, feed,
        breaksLine_eq_false feed carriage]

/-! ### Quotes -/

def leading (quote : Char) (cs : List Char) : Nat := (cs.takeWhile (· == quote)).length

private theorem leading_cons_self (quote : Char) (cs : List Char) :
    leading quote (quote :: cs) = leading quote cs + 1 := by
  simp [leading]

private theorem leading_of_ne {c quote : Char} (ne : c ≠ quote) (cs : List Char) :
    leading quote (c :: cs) = 0 := by
  simp [leading, ne]

private theorem closing?_of_leading {quote : Char} {cs : List Char} (few : leading quote cs < 3) :
    closing? quote cs = none :=
  if_pos few

private theorem closing?_replicate {quote : Char} {k : Nat} (le : k ≤ 2) (ne : '\n' ≠ quote)
    (rest : List Char) :
    closing? quote (List.replicate k quote ++ (List.replicate 3 quote ++ '\n' :: rest)) =
      some (List.replicate k quote, '\n' :: rest) := by
  match k, le with
  | 0, _ | 1, _ | 2, _ => simp [closing?, List.replicate, ne]

private theorem multiBasic_of_closing {cs : List Char} {done : List Char × List Char}
    (h : closing? '\x22' cs = some done) : multiBasic .text cs = some done := by
  cases cs with
  | nil => cases h
  | cons c rest => rw [multiBasic_text, h]

private theorem multiLiteral_of_closing {cs : List Char} {done : List Char × List Char}
    (h : closing? '\x27' cs = some done) : multiLiteral cs = some done := by
  cases cs with
  | nil => cases h
  | cons c rest => rw [multiLiteral, h]

/-- Behind `quotes` quotes an escaped text starts with few enough of them to be told from its
end, unless they are all of it. -/
private theorem leading_multiEscaped (s : List Char) {quotes : Nat} (le : quotes ≤ 2)
    (rest : List Char) : leading '\x22' (multiEscaped quotes s ++ rest) + quotes ≤ 2 ∨
      ∃ k, k + quotes ≤ 2 ∧ s = List.replicate k '\x22' ∧
        multiEscaped quotes s = List.replicate k '\x22' := by
  induction s generalizing quotes with
  | nil => exact .inr ⟨0, by omega, rfl, rfl⟩
  | cons c s ih =>
      by_cases quote : c = '\x22'
      · subst quote
        by_cases full : quotes = 2
        · subst full
          exact .inl (Nat.le_refl 2)
        · have more : multiEscaped quotes ('\x22' :: s) =
              '\x22' :: multiEscaped (quotes + 1) s := by
            rw [multiEscaped, if_pos rfl, if_neg full]
          rw [more]
          have le' : quotes + 1 ≤ 2 := by omega
          rcases ih le' with few | ⟨k, all, hs, ht⟩
          · rw [List.cons_append, leading_cons_self]
            exact .inl (by omega)
          · rw [ht]
            exact .inr ⟨k + 1, by omega, congrArg _ hs, rfl⟩
      · obtain ⟨e, es, text, ne, -⟩ := (escaped_escapeText c).head
        refine .inl ?_
        rw [multiEscaped, if_neg quote]
        split
        · rw [List.cons_append, leading_of_ne (by decide)]
          omega
        · rw [text, List.cons_append, List.cons_append, leading_of_ne ne]
          omega

private theorem multiBasic_escapes (s : List Char) {quotes : Nat} (le : quotes ≤ 2)
    (rest : List Char) :
    multiBasic .text (multiEscaped quotes s ++ (List.replicate 3 '\x22' ++ '\n' :: rest)) =
      some (s, '\n' :: rest) := by
  -- the reader looks three quotes ahead, so quotes at the end of `s` are read with the delimiter
  induction s generalizing quotes with
  | nil => exact multiBasic_of_closing (closing?_replicate (Nat.zero_le 2) (by decide) rest)
  | cons c s ih =>
      rcases leading_multiEscaped (c :: s) le (List.replicate 3 '\x22' ++ '\n' :: rest) with
        few | ⟨k, all, hs, ht⟩
      · have unclosed := closing?_of_leading (Nat.lt_succ_of_le (Nat.le_of_add_right_le few))
        by_cases quote : c = '\x22'
        · subst quote
          by_cases full : quotes = 2
          · subst full
            have letter : Escaped '\x22' ['\\', '\x22'] := .letter rfl
            change multiBasic .text (['\\', '\x22'] ++ (multiEscaped 0 s ++ _)) = _
            rw [multiBasic_escaped letter, ih (Nat.zero_le 2)]
            rfl
          · rw [multiEscaped, if_pos rfl, if_neg full, List.cons_append] at unclosed ⊢
            rw [multiBasic_text, unclosed]
            simp only [Char.reduceEq, if_false]
            rw [breaksLine_eq_false (by decide) (by decide), ih (Nat.lt_of_le_of_ne le full)]
            rfl
        · by_cases feed : c = '\n'
          · subst feed
            change multiBasic .text ('\n' :: (multiEscaped 0 s ++ _)) = _
            rw [multiBasic_text, closing?_of_ne (by decide), ih (Nat.zero_le 2)]
            rfl
          · rw [multiEscaped, if_neg quote, if_neg feed, List.append_assoc,
              multiBasic_escaped (escaped_escapeText c), ih (Nat.zero_le 2)]
            rfl
      · rw [ht, hs]
        exact multiBasic_of_closing
          (closing?_replicate (Nat.le_of_add_right_le all) (by decide) rest)

private theorem leading_of_longestRunOf {quote : Char} {s : List Char} {run : Nat}
    (short : longestRunOf quote run s ≤ 2) (rest : List Char) :
    leading quote (s ++ rest) + run ≤ 2 ∨ ∃ k, k + run ≤ 2 ∧ s = List.replicate k quote := by
  induction s generalizing run with
  | nil => exact .inr ⟨0, by simpa [longestRunOf] using short, rfl⟩
  | cons c s ih =>
      rw [longestRunOf] at short
      by_cases same : c = quote
      · subst same
        rw [if_pos rfl] at short
        rcases ih short with few | ⟨k, all, hs⟩
        · rw [List.cons_append, leading_cons_self]
          exact .inl (by omega)
        · exact .inr ⟨k + 1, by omega, congrArg _ hs⟩
      · rw [if_neg same] at short
        rw [List.cons_append, leading_of_ne same]
        exact .inl (by omega)

private theorem multiLiteral_plain {s : List Char} (plain : isPlainMultiLiteral s = true)
    (rest : List Char) :
    multiLiteral (s ++ (List.replicate 3 '\x27' ++ '\n' :: rest)) = some (s, '\n' :: rest) := by
  rw [isPlainMultiLiteral, Bool.and_eq_true, decide_eq_true_eq] at plain
  obtain ⟨fits, short⟩ := plain
  -- behind a quote the rest of the text has a run that is under way
  generalize (0 : Nat) = run at short
  induction s generalizing run with
  | nil => exact multiLiteral_of_closing (closing?_replicate (Nat.zero_le 2) (by decide) rest)
  | cons c s ih =>
      rw [List.all_cons, Bool.and_eq_true] at fits
      rcases leading_of_longestRunOf short (List.replicate 3 '\x27' ++ '\n' :: rest) with
        few | ⟨k, all, hs⟩
      · have unclosed := closing?_of_leading (Nat.lt_succ_of_le (Nat.le_of_add_right_le few))
        have shorter : ∃ run', longestRunOf '\x27' run' s ≤ 2 := by
          rw [longestRunOf] at short
          split at short
          · exact ⟨_, short⟩
          · exact ⟨0, Nat.le_trans (Nat.le_max_right ..) short⟩
        obtain ⟨run', shorter⟩ := shorter
        rw [List.cons_append] at unclosed ⊢
        rw [multiLiteral, unclosed]
        simp only [ih fits.2 run' shorter]
        by_cases feed : c = '\n'
        · rw [if_pos feed, feed]
          rfl
        · have line : fitsLine c = true := by simpa [fitsLines, feed] using fits.1
          have carriage : c ≠ '\r' := by rintro rfl; cases line
          rw [if_neg feed, breaksLine_eq_false feed carriage, isVisible_of_fitsLine line]
          rfl
      · rw [hs]
        exact multiLiteral_of_closing
          (closing?_replicate (Nat.le_of_add_right_le all) (by decide) rest)

/-! ## Any string -/

private theorem afterOpening_openingBreak {s : List Char} {c : Char} {cs : List Char}
    (carriage : c ≠ '\r')
    (feed : c = '\n' → '\n' ∈ s) : afterOpening (openingBreak s ++ c :: cs) = c :: cs := by
  rw [openingBreak]
  by_cases mem : '\n' ∈ s
  · rw [if_pos (by simpa using mem)]
    rfl
  · rw [if_neg (by simpa using mem), List.nil_append, afterOpening]
    · rintro rest ⟨⟩
      exact mem (feed rfl)
    · rintro rest ⟨⟩
      exact carriage rfl

theorem readString?_basicText (s rest : List Char) :
    readString? (basicText s ++ '\n' :: rest) = some (s, '\n' :: rest) := by
  have text : basicText s ++ '\n' :: rest =
      '\x22' :: (s.flatMap escapeText ++ '\x22' :: '\n' :: rest) := by
    simp [basicText]
  rw [text, readString?, basic_escapes]
  cases s with
  | nil => rintro rest' ⟨⟩
  | cons c s =>
      obtain ⟨e, es, text, ne, -⟩ := (escaped_escapeText c).head
      intro rest' h
      rw [List.flatMap_cons, text] at h
      exact ne (List.cons.inj h).1

theorem readString?_literalText {s : List Char} (plain : isPlainLiteral s = true)
    (rest : List Char) :
    readString? (literalText s ++ '\n' :: rest) = some (s, '\n' :: rest) := by
  have text : literalText s ++ '\n' :: rest = '\x27' :: (s ++ '\x27' :: '\n' :: rest) := by
    simp [literalText]
  rw [text, readString?, literal_plain plain]
  cases s with
  | nil => rintro rest' ⟨⟩
  | cons c s =>
      intro rest' h
      obtain rfl := (List.cons.inj h).1
      cases plain

theorem readString?_multiBasicText (s rest : List Char) :
    readString? (multiBasicText s ++ '\n' :: rest) = some (s, '\n' :: rest) := by
  have head : ∃ c cs, multiEscaped 0 s ++ (List.replicate 3 '\x22' ++ '\n' :: rest) = c :: cs ∧
      c ≠ '\r' ∧ (c = '\n' → '\n' ∈ s) := by
    cases s with
    | nil => exact ⟨_, _, rfl, by decide, by decide⟩
    | cons c s =>
        rw [multiEscaped]
        split
        · exact ⟨_, _, rfl, by decide, fun h => absurd h (by decide)⟩
        · split
          · rename_i feed
            exact ⟨_, _, rfl, by decide, fun _ => feed ▸ List.mem_cons_self⟩
          · obtain ⟨e, es, text, -, feed, carriage⟩ := (escaped_escapeText c).head
            rw [text]
            exact ⟨_, _, rfl, carriage, fun h => absurd h feed⟩
  obtain ⟨c, cs, body, carriage, feed⟩ := head
  have text : multiBasicText s ++ '\n' :: rest = '\x22' :: '\x22' :: '\x22' ::
      (openingBreak s ++ (multiEscaped 0 s ++ (List.replicate 3 '\x22' ++ '\n' :: rest))) := by
    simp [multiBasicText, List.replicate]
  rw [text, readString?, body, afterOpening_openingBreak carriage feed, ← body,
    multiBasic_escapes s (Nat.zero_le 2)]

theorem readString?_multiLiteralText {s : List Char} (plain : isPlainMultiLiteral s = true)
    (rest : List Char) :
    readString? (multiLiteralText s ++ '\n' :: rest) = some (s, '\n' :: rest) := by
  have head : ∃ c cs, s ++ (List.replicate 3 '\x27' ++ '\n' :: rest) = c :: cs ∧
      c ≠ '\r' ∧ (c = '\n' → '\n' ∈ s) := by
    cases s with
    | nil => exact ⟨_, _, rfl, by decide, by decide⟩
    | cons c s =>
        refine ⟨c, _, rfl, ?_, fun feed => feed ▸ List.mem_cons_self⟩
        rintro rfl
        cases plain
  obtain ⟨c, cs, body, carriage, feed⟩ := head
  have text : multiLiteralText s ++ '\n' :: rest = '\x27' :: '\x27' :: '\x27' ::
      (openingBreak s ++ (s ++ (List.replicate 3 '\x27' ++ '\n' :: rest))) := by
    simp [multiLiteralText, List.replicate]
  rw [text, readString?, body, afterOpening_openingBreak carriage feed, ← body,
    multiLiteral_plain plain]

theorem readString?_stringText (s rest : List Char) :
    readString? (stringText s ++ '\n' :: rest) = some (s, '\n' :: rest) := by
  rw [stringText]
  split_ifs with basic literal multiBasic multiLiteral break'
  · exact readString?_basicText s rest
  · exact readString?_literalText literal rest
  · exact readString?_multiBasicText s rest
  · exact readString?_multiLiteralText multiLiteral rest
  · exact readString?_multiBasicText s rest
  · exact readString?_basicText s rest

example : stringText "'''\"\"\"\n".toList = "\"\"\"\n'''\"\"\\\"\n\"\"\"".toList := by decide

end Toml

end TunnelClient
