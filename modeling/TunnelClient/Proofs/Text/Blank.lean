import TunnelClient.Text.Blank

/-!
# Words and lines

Words and lines of a text, one after another, and what trimming leaves of it.
-/

namespace TunnelClient.Text

def Solid (word : List Char) : Prop := ∀ c ∈ word, isBlank c = false

instance (word : List Char) : Decidable (Solid word) := List.decidableBAll _ word

def Breaks (rest : List Char) : Prop := ∀ c ∈ rest.head?, isBlank c = true

variable {word rest : List Char}

/-! ## Words -/

theorem wordsFrom_append (solid : Solid word) (rest begun : List Char) :
    wordsFrom (word ++ rest) begun = wordsFrom rest (word.reverse ++ begun) := by
  induction word generalizing begun with
  | nil => rfl
  | cons c word ih =>
      rw [List.cons_append, wordsFrom, solid c List.mem_cons_self, if_neg Bool.false_ne_true,
        ih fun d mem => solid d (List.mem_cons_of_mem c mem)]
      simp

theorem words_blank_cons {c : Char} (blank : isBlank c = true) (rest : List Char) :
    words (c :: rest) = words rest := by
  rw [words, wordsFrom, if_pos blank]
  rfl

theorem words_append (solid : Solid word) (nonempty : word ≠ [])
    (breaks : Breaks rest) : words (word ++ rest) = word :: words rest := by
  have begun : (word.reverse ++ []).isEmpty = false := by simpa using nonempty
  rw [words, wordsFrom_append solid]
  cases rest with
  | nil =>
      cases hw : word.reverse with
      | nil => exact absurd (List.reverse_eq_nil_iff.mp hw) nonempty
      | cons c cs =>
          rw [List.append_nil, wordsFrom, ← hw, List.reverse_reverse]
          rfl
          exact List.cons_ne_nil c cs
  | cons c rest =>
      rw [wordsFrom, if_pos (breaks c rfl), begun, if_neg Bool.false_ne_true, List.append_nil,
        List.reverse_reverse, words_blank_cons (breaks c rfl)]
      rfl

/-! ## Lines -/

private theorem linesFrom_nil {line : List Char} (nonempty : line ≠ []) :
    linesFrom [] line = [line.reverse] := by
  cases line with
  | nil => exact absurd rfl nonempty
  | cons c line => rfl

private theorem linesFrom_return (line rest : List Char) :
    linesFrom ('\n' :: rest) ('\r' :: line) = line.reverse :: linesFrom rest [] := rfl

private theorem linesFrom_feed {line : List Char} (ne : line.head? ≠ some '\r') (rest : List Char) :
    linesFrom ('\n' :: rest) line = line.reverse :: linesFrom rest [] := by
  cases line with
  | nil => rfl
  | cons c line =>
      have other : c ≠ '\r' := fun eq => ne (congrArg some eq)
      simp [linesFrom, other]

private theorem linesFrom_of_ne {c : Char} (ne : c ≠ '\n') (line rest : List Char) :
    linesFrom (c :: rest) line = linesFrom rest (c :: line) := by
  rw [linesFrom]
  · exact fun eq => absurd eq ne
  · exact fun _ _ eq => absurd eq ne

theorem linesFrom_append {text : List Char} (whole : '\n' ∉ text) (begun rest : List Char) :
    linesFrom (text ++ rest) begun = linesFrom rest (text.reverse ++ begun) := by
  induction text generalizing begun with
  | nil => rfl
  | cons c text ih =>
      rw [List.mem_cons, not_or] at whole
      rw [List.cons_append, linesFrom_of_ne (Ne.symm whole.1), ih whole.2]
      simp

private theorem linesFrom_cons {last : Char} (ne : last ≠ '\r') (line begun rest : List Char) :
    ∃ more others, linesFrom rest (begun.reverse ++ last :: line) =
      (line.reverse ++ last :: more) :: others ∧ more <+: begun ++ rest := by
  induction rest generalizing begun with
  | nil =>
      refine ⟨begun, [], ?_, List.prefix_append ..⟩
      rw [linesFrom_nil (by simp)]
      simp
  | cons c rest ih =>
      by_cases feed : c = '\n'
      · subst feed
        by_cases back : begun.getLast? = some '\r'
        · obtain ⟨kept, rfl⟩ := List.getLast?_eq_some_iff.mp back
          refine ⟨kept, linesFrom rest [], ?_, by simp⟩
          rw [List.reverse_append, List.reverse_singleton, List.singleton_append, List.cons_append,
            linesFrom_return]
          simp
        · refine ⟨begun, linesFrom rest [], ?_, List.prefix_append ..⟩
          rw [linesFrom_feed]
          · simp
          · cases hb : begun.getLast? <;> simp_all [List.head?_append, List.head?_reverse]
      · obtain ⟨more, others, lines, inside⟩ := ih (begun ++ [c])
        rw [List.reverse_append, List.reverse_singleton, List.singleton_append,
          List.cons_append] at lines
        rw [linesFrom_of_ne feed, lines]
        exact ⟨more, others, rfl, by simpa using inside⟩

theorem lines_append {text rest : List Char} {last : Char} (whole : '\n' ∉ text)
    (ends : text.getLast? = some last) (ne : last ≠ '\r') (breaks : Breaks rest) :
    ∃ more others, lines (text ++ rest) = (text ++ more) :: others ∧ Breaks more := by
  obtain ⟨front, rfl⟩ := List.getLast?_eq_some_iff.mp ends
  obtain ⟨more, others, lines_eq, inside⟩ := linesFrom_cons ne front.reverse [] rest
  refine ⟨more, others, ?_, ?_⟩
  · rw [lines, linesFrom_append whole]
    simpa using lines_eq
  · intro c first
    refine breaks c ?_
    obtain ⟨after, rfl⟩ := inside
    rw [Option.mem_def] at first ⊢
    simp [first]

/-! ## Trimming -/

variable {solid : List Char}

theorem trimLeft_of_solid (head : ∀ c ∈ solid.head?, isBlank c = false) :
    trimLeft solid = solid := by
  cases solid with
  | nil => rfl
  | cons c cs => rw [trimLeft, List.dropWhile_cons, head c rfl, if_neg Bool.false_ne_true]

theorem trimLeft_append (nonempty : solid ≠ []) (head : ∀ c ∈ solid.head?, isBlank c = false)
    (before after : List Char) :
    ∃ kept, trimLeft (before ++ solid ++ after) = kept ++ solid ++ after := by
  rw [List.append_assoc, trimLeft, List.dropWhile_append]
  split
  · refine ⟨[], ?_⟩
    have front : ∀ c ∈ (solid ++ after).head?, isBlank c = false := by
      intro c first
      refine head c ?_
      cases solid with
      | nil => exact absurd rfl nonempty
      | cons d cs => exact first
    exact trimLeft_of_solid front
  · exact ⟨before.dropWhile isBlank, by rw [List.append_assoc]⟩

theorem trimChars_append (nonempty : solid ≠ []) (head : ∀ c ∈ solid.head?, isBlank c = false)
    (last : ∀ c ∈ solid.getLast?, isBlank c = false) (before after : List Char) :
    ∃ front back, trimChars (before ++ solid ++ after) = front ++ solid ++ back := by
  obtain ⟨front, left⟩ := trimLeft_append nonempty head before after
  have reversed : solid.reverse ≠ [] := fun eq => nonempty (List.reverse_eq_nil_iff.mp eq)
  have tail : ∀ c ∈ solid.reverse.head?, isBlank c = false := by
    rw [List.head?_reverse]
    exact last
  obtain ⟨back, right⟩ := trimLeft_append reversed tail after.reverse front.reverse
  refine ⟨front, back.reverse, ?_⟩
  have turned : (front ++ solid ++ after).reverse =
      after.reverse ++ solid.reverse ++ front.reverse := by
    simp
  rw [trimChars, left, turned, right]
  simp

def AllBlank (cs : List Char) : Prop := ∀ c ∈ cs, isBlank c = true

theorem trimLeft_of_blank {blank : List Char} (all : AllBlank blank) (rest : List Char) :
    trimLeft (blank ++ rest) = trimLeft rest :=
  List.dropWhile_append_of_pos all

theorem blank_trimLeft (cs : List Char) : ∃ before, AllBlank before ∧ cs = before ++ trimLeft cs :=
  ⟨cs.takeWhile isBlank, List.all_eq_true.mp List.all_takeWhile,
    List.takeWhile_append_dropWhile.symm⟩

theorem trimChars_eq_iff (head : ∀ c ∈ solid.head?, isBlank c = false)
    (last : ∀ c ∈ solid.getLast?, isBlank c = false) (cs : List Char) :
    trimChars cs = solid ↔
      ∃ before after, AllBlank before ∧ AllBlank after ∧ cs = before ++ solid ++ after := by
  constructor
  · intro trimmed
    obtain ⟨before, blank, left⟩ := blank_trimLeft cs
    obtain ⟨after, blank', right⟩ := blank_trimLeft (trimLeft cs).reverse
    refine ⟨before, after.reverse, blank, fun c mem => blank' c (List.mem_reverse.mp mem), ?_⟩
    have kept : trimLeft cs = solid ++ after.reverse := by
      rw [← trimmed, trimChars, ← List.reverse_append, ← right, List.reverse_reverse]
    rw [List.append_assoc, ← kept, ← left]
  · rintro ⟨before, after, blank, blank', rfl⟩
    have left : trimLeft (before ++ solid ++ after) = trimLeft (solid ++ after) := by
      rw [List.append_assoc, trimLeft_of_blank blank]
    rw [trimChars, left]
    by_cases empty : solid = []
    · subst empty
      rw [List.nil_append, ← List.append_nil after, trimLeft_of_blank blank']
      rfl
    · have front : trimLeft (solid ++ after) = solid ++ after := by
        obtain ⟨c, rest, rfl⟩ := List.exists_cons_of_ne_nil empty
        exact trimLeft_of_solid head
      have back : trimLeft solid.reverse = solid.reverse :=
        trimLeft_of_solid (by rw [List.head?_reverse]; exact last)
      have behind : AllBlank after.reverse := fun c mem => blank' c (List.mem_reverse.mp mem)
      rw [front, List.reverse_append, trimLeft_of_blank behind, back, List.reverse_reverse]

theorem isEmpty_trim_iff {text : String} : (trim text).isEmpty = true ↔ AllBlank text.toList := by
  have head : ∀ c ∈ ([] : List Char).head?, isBlank c = false := by simp
  rw [trim, String.isEmpty_iff, String.ofList_eq_empty_iff, trimChars_eq_iff head head]
  constructor
  · rintro ⟨before, after, blank, blank', all⟩
    rw [all, List.append_nil]
    intro c mem
    exact (List.mem_append.mp mem).elim (blank c) (blank' c)
  · intro blank
    exact ⟨text.toList, [], blank, by simp [AllBlank], by simp⟩

end TunnelClient.Text
