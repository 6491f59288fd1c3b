import TunnelClient.Proofs.Toml.Values

/-!
# Printed documents

A printed document reads back as its sections, each a table of its fields, if names and
keys are bare and distinct.
-/

namespace TunnelClient.Toml

/-! ## Keys -/

structure IsBare (key : String) : Prop where
  nonempty : key.toList ≠ []
  plain : ∀ c ∈ key.toList, isBare c = true

private theorem ne_of_isBare {c other : Char} (bare : isBare c = true) (h : isBare other = false) :
    c ≠ other := by
  rintro rfl
  exact Bool.false_ne_true (h.symm.trans bare)

theorem IsBare.head {key : String} (bare : IsBare key) :
    ∃ c cs, key.toList = c :: cs ∧ isBare c = true := by
  cases h : key.toList with
  | nil => exact absurd h bare.nonempty
  | cons c cs => exact ⟨c, cs, rfl, bare.plain c (h ▸ List.mem_cons_self)⟩

private theorem skipSpace_of_not_isSpace {c : Char} (h : isSpace c = false) (cs : List Char) :
    skipSpace (c :: cs) = c :: cs := by
  simp [skipSpace, h]

private theorem isSpace_of_isBare {c : Char} (bare : isBare c = true) : isSpace c = false := by
  have space := ne_of_isBare bare (show isBare ' ' = false by decide)
  have tab := ne_of_isBare bare (show isBare '\t' = false by decide)
  simp [isSpace, space, tab]

private theorem keyPart?_bare {key : String} (bare : IsBare key) {c : Char}
    (stop : isBare c = false)
    (cs : List Char) : keyPart? (key.toList ++ c :: cs) = some (key, c :: cs) := by
  have taken : (key.toList ++ c :: cs).takeWhile isBare = key.toList := by
    rw [List.takeWhile_append_of_pos bare.plain]
    simp [stop]
  have left : (key.toList ++ c :: cs).dropWhile isBare = c :: cs := by
    rw [List.dropWhile_append_of_pos bare.plain]
    simp [stop]
  obtain ⟨k, ks, head, start⟩ := bare.head
  rw [keyPart?]
  · simp [taken, left, bare.nonempty]
  · intro rest h
    rw [head] at h
    exact ne_of_isBare start (by decide) (List.cons.inj h).1
  · intro rest h
    rw [head] at h
    exact ne_of_isBare start (by decide) (List.cons.inj h).1

private theorem key?_bare {key : String} (bare : IsBare key) {c d : Char} {cs rest : List Char}
    (stop : isBare c = false) (skipped : skipSpace (c :: cs) = d :: rest) (dot : d ≠ '.') :
    key? (key.toList ++ c :: cs) = some ([key], d :: rest) := by
  obtain ⟨k, ks, head, start⟩ := bare.head
  have whole : skipSpace (key.toList ++ c :: cs) = key.toList ++ c :: cs := by
    rw [head]
    exact skipSpace_of_not_isSpace (isSpace_of_isBare start) _
  rw [key?, maxKeyParts, keyPath?, whole, keyPart?_bare bare stop]
  simp only [Option.bind_eq_bind, Option.bind_some, skipped]
  split
  · rename_i h
    exact absurd (List.cons.inj h).1 dot
  · rfl

/-! ## Lines -/

/-- Lines that a reader has taken from a text, and what they have added to a layout. -/
inductive Reads : Layout → List Char → Layout → List Char → Prop
  | refl (l : Layout) (cs : List Char) : Reads l cs l cs
  | line {l l₁ l₂ : Layout} {c : Char} {cs stop rest rest' : List Char} {s : Statement}
      (start : isSpace c = false) (read : statement? (c :: cs) = some (s, stop))
      (applied : l.apply s = some l₁) (ended : lineEnd? stop = some rest)
      (shorter : rest.length ≤ cs.length) (next : Reads l₁ rest l₂ rest') :
      Reads l (c :: cs) l₂ rest'

theorem Reads.trans {l l₁ l₂ : Layout} {cs rest rest' : List Char} (h : Reads l cs l₁ rest)
    (h' : Reads l₁ rest l₂ rest') : Reads l cs l₂ rest' := by
  induction h with
  | refl => exact h'
  | line start read applied ended shorter next ih =>
      exact .line start read applied ended shorter (ih h')

private theorem lines?_of_reads {l l' : Layout} {cs : List Char} (h : Reads l cs l' []) {fuel : Nat}
    (enough : cs.length < fuel) : lines? fuel l cs = some l' := by
  -- every line takes a character at least, so that the fuel lasts
  generalize done : ([] : List Char) = rest at h
  induction h generalizing fuel with
  | refl l cs =>
      subst done
      obtain ⟨fuel, rfl⟩ : ∃ n, fuel = n + 1 := ⟨fuel - 1, by omega⟩
      rfl
  | @line l l₁ l₂ c cs stop rest rest' s start read applied ended shorter next ih =>
      obtain ⟨fuel, rfl⟩ : ∃ n, fuel = n + 1 := ⟨fuel - 1, by omega⟩
      rw [List.length_cons] at enough
      simp only [lines?, skipSpace_of_not_isSpace start, read, applied, ended,
        Option.bind_eq_bind, Option.bind_some]
      exact ih (by omega) done

private theorem lineEnd?_newline (rest : List Char) : lineEnd? ('\n' :: rest) = some rest := rfl

private theorem reads_blank (l : Layout) (rest : List Char) : Reads l ('\n' :: rest) l rest :=
  .line rfl rfl rfl (lineEnd?_newline rest) (Nat.le_refl _) (.refl l rest)

private theorem reads_header {l l' : Layout} {name : String} (bare : IsBare name)
    (applied : l.apply (.table [name]) = some l') (rest : List Char) :
    Reads l ('[' :: (name.toList ++ ']' :: '\n' :: rest)) l' rest := by
  obtain ⟨k, ks, head, start⟩ := bare.head
  have key : key? (name.toList ++ ']' :: '\n' :: rest) = some ([name], ']' :: '\n' :: rest) :=
    key?_bare bare (by decide) rfl (by decide)
  have read : statement? ('[' :: (name.toList ++ ']' :: '\n' :: rest)) =
      some (.table [name], '\n' :: rest) := by
    rw [statement?, key]
    · rfl
    · intro rest' h
      rw [head] at h
      exact ne_of_isBare start (by decide) (List.cons.inj h).1
  refine .line rfl read applied (lineEnd?_newline rest) ?_ (.refl l' rest)
  simp
  omega

private theorem statement?_bare {key : String} (bare : IsBare key) (cs : List Char) :
    statement? (key.toList ++ cs) = (do
      let (path, rest) ← key? (key.toList ++ cs)
      let rest ← char? '=' rest
      let (v, rest) ← value? (skipSpace rest)
      some (.assign path v, rest)) := by
  obtain ⟨k, ks, head, start⟩ := bare.head
  rw [head, List.cons_append, statement?]
  all_goals
    intro rest h
    exact ne_of_isBare start (by decide) (List.cons.inj h).1

private theorem skipSpace_written (f : Field) (rest : List Char) :
    skipSpace (' ' :: (f.written ++ rest)) = f.written ++ rest := by
  obtain ⟨c, cs, head, -⟩ := f.written_head
  have space : c ≠ ' ' := f.written_ne head (by decide) (by decide) (by decide)
  have tab : c ≠ '\t' := f.written_ne head (by decide) (by decide) (by decide)
  rw [head]
  simp [skipSpace, isSpace, space, tab]

private theorem reads_field {l l' : Layout} {f : String × Field} (bare : IsBare f.1)
    (fits : f.2.Fits) (applied : l.apply (.assign [f.1] f.2.value) = some l') (rest : List Char) :
    Reads l (fieldText f ++ rest) l' rest := by
  obtain ⟨k, ks, head, start⟩ := bare.head
  have text : fieldText f ++ rest = f.1.toList ++ ' ' :: '=' :: ' ' ::
      (f.2.written ++ '\n' :: rest) := by
    simp [fieldText]
  have key : key? (f.1.toList ++ ' ' :: '=' :: ' ' :: (f.2.written ++ '\n' :: rest)) =
      some ([f.1], '=' :: ' ' :: (f.2.written ++ '\n' :: rest)) :=
    key?_bare bare (by decide) rfl (by decide)
  have read : statement? (fieldText f ++ rest) =
      some (.assign [f.1] f.2.value, '\n' :: rest) := by
    rw [text, statement?_bare bare, key]
    simp only [Option.bind_eq_bind, Option.bind_some, char?, if_true, skipSpace_written,
      value?_written fits]
  rw [text, head] at read ⊢
  refine .line (isSpace_of_isBare start) read applied (lineEnd?_newline rest) ?_ (.refl l' rest)
  simp
  omega

/-! ## Tables -/

namespace Node

variable {key : String} {node old : Node} {entries : List (String × Node)}

private theorem lookup_eq_none_of_fresh (fresh : key ∉ entries.map Prod.fst) :
    entries.lookup key = none := by
  rw [List.lookup_eq_none_iff]
  intro entry mem
  rw [bne_iff_ne]
  rintro rfl
  exact fresh (List.mem_map_of_mem mem)

private theorem set_of_fresh (fresh : key ∉ entries.map Prod.fst) :
    set key node entries = entries ++ [(key, node)] := by
  rw [set, if_neg]
  intro taken
  obtain ⟨entry, mem, same⟩ := List.any_eq_true.mp taken
  exact fresh (beq_iff_eq.mp same ▸ List.mem_map_of_mem mem)

private theorem lookup_last (fresh : key ∉ entries.map Prod.fst) :
    (entries ++ [(key, node)]).lookup key = some node := by
  rw [List.lookup_append, lookup_eq_none_of_fresh fresh]
  simp

private theorem set_last (fresh : key ∉ entries.map Prod.fst) :
    set key node (entries ++ [(key, old)]) = entries ++ [(key, node)] := by
  have others : entries.map (fun entry => if entry.1 == key then (key, node) else entry) =
      entries := by
    refine (List.map_congr_left fun entry mem => ?_).trans (List.map_id _)
    rw [if_neg]
    · rfl
    · intro same
      exact fresh (beq_iff_eq.mp same ▸ List.mem_map_of_mem mem)
  rw [set, if_pos (by simp), List.map_append, others]
  simp

end Node

/-! ## Sections -/

structure Section.WellFormed (s : Section) : Prop where
  name : IsBare s.name
  keys : ∀ f ∈ s.fields, IsBare f.1
  fits : ∀ f ∈ s.fields, f.2.Fits
  distinct : (s.fields.map Prod.fst).Nodup

def Section.entry (s : Section) : String × Value :=
  (s.name, .table (s.fields.map fun f => (f.1, f.2.value)))

def fieldNodes (fields : List (String × Field)) : List (String × Node) :=
  fields.map fun f => (f.1, .value f.2.value)

def sectionNodes (sections : List Section) : List (String × Node) :=
  sections.map fun s => (s.name, .table false false (fieldNodes s.fields))

def layoutAt (done : List Section) (s : Section) : Layout :=
  ⟨.table false false (sectionNodes (done ++ [s])), [s.name]⟩

private theorem keys_fieldNodes (fields : List (String × Field)) :
    (fieldNodes fields).map Prod.fst = fields.map Prod.fst := by
  simp [fieldNodes]

private theorem keys_sectionNodes (sections : List Section) :
    (sectionNodes sections).map Prod.fst = sections.map Section.name := by
  simp [sectionNodes]

private theorem not_mem_of_distinct {α β : Type} {f : α → β} {before after : List α} {a : α}
    (distinct : ((before ++ a :: after).map f).Nodup) : f a ∉ before.map f := by
  rw [List.map_append, List.map_cons, List.nodup_append] at distinct
  exact fun taken => distinct.2.2 _ taken _ List.mem_cons_self rfl

variable {done : List Section} {name : String} {fields : List (String × Field)} {l : Layout}

private theorem apply_header (root : l.root = .table false false (sectionNodes done))
    (fresh : name ∉ done.map Section.name) :
    l.apply (.table [name]) = some (layoutAt done ⟨name, []⟩) := by
  rw [← keys_sectionNodes] at fresh
  have defined : l.root.openHeader Node.defineTable [name] =
      some (.table false false (sectionNodes done ++ [(name, .root)])) := by
    simp [Node.openHeader, Node.descend, Node.defineTable, root,
      Node.lookup_eq_none_of_fresh fresh, Node.set_of_fresh fresh]
  simp only [Layout.apply, defined, Option.map_some, layoutAt, sectionNodes, List.map_append]
  rfl

private theorem apply_assign {key : String} {f : Field} (fresh : name ∉ done.map Section.name)
    (free : key ∉ fields.map Prod.fst) :
    (layoutAt done ⟨name, fields⟩).apply (.assign [key] f.value) =
      some (layoutAt done ⟨name, fields ++ [(key, f)]⟩) := by
  rw [← keys_sectionNodes] at fresh
  rw [← keys_fieldNodes] at free
  have split : ∀ fields, sectionNodes (done ++ [⟨name, fields⟩]) =
      sectionNodes done ++ [(name, .table false false (fieldNodes fields))] := by
    simp [sectionNodes]
  have longer : fieldNodes (fields ++ [(key, f)]) =
      fieldNodes fields ++ [(key, .value f.value)] := by
    simp [fieldNodes]
  simp [Layout.apply, layoutAt, split, longer, Node.descend, Node.insert, Node.insertValue,
    Node.lookup_last fresh, Node.set_last fresh, Node.lookup_eq_none_of_fresh free,
    Node.set_of_fresh free]

private theorem reads_fields (before : List (String × Field)) (fresh : name ∉ done.map Section.name)
    (wf : Section.WellFormed ⟨name, before ++ fields⟩) (rest : List Char) :
    Reads (layoutAt done ⟨name, before⟩) (fields.flatMap fieldText ++ rest)
      (layoutAt done ⟨name, before ++ fields⟩) rest := by
  induction fields generalizing before with
  | nil =>
      rw [List.append_nil]
      exact .refl _ rest
  | cons f fields ih =>
      have together : before ++ f :: fields = before ++ [f] ++ fields := by simp
      have mem : f ∈ before ++ f :: fields := List.mem_append_right _ List.mem_cons_self
      have free : f.1 ∉ before.map Prod.fst := not_mem_of_distinct wf.distinct
      have first := reads_field (wf.keys f mem) (wf.fits f mem) (apply_assign fresh free)
        (fields.flatMap fieldText ++ rest)
      rw [together] at wf ⊢
      rw [List.flatMap_cons, List.append_assoc]
      exact first.trans (ih _ wf)

private theorem reads_section {s : Section} (root : l.root = .table false false (sectionNodes done))
    (fresh : s.name ∉ done.map Section.name) (wf : s.WellFormed) (rest : List Char) :
    Reads l (sectionText s ++ rest) (layoutAt done s) rest := by
  have text : sectionText s ++ rest =
      '[' :: (s.name.toList ++ ']' :: '\n' :: (s.fields.flatMap fieldText ++ rest)) := by
    simp [sectionText]
  have header := reads_header wf.name (apply_header root fresh) (s.fields.flatMap fieldText ++ rest)
  rw [text]
  exact header.trans (reads_fields [] fresh wf rest)

private theorem reads_sections {s : Section} {sections : List Section}
    (root : l.root = .table false false (sectionNodes done))
    (wf : ∀ s' ∈ s :: sections, s'.WellFormed)
    (distinct : ((done ++ s :: sections).map Section.name).Nodup) :
    ∃ l', Reads l (sectionsText (s :: sections)) l' [] ∧
      l'.root = .table false false (sectionNodes (done ++ s :: sections)) := by
  have fresh := not_mem_of_distinct distinct
  induction sections generalizing done s l with
  | nil =>
      have first := reads_section root fresh (wf s List.mem_cons_self) []
      rw [List.append_nil] at first
      rw [sectionsText, List.map_singleton, List.intercalate_singleton]
      exact ⟨_, first, rfl⟩
  | cons s' sections ih =>
      have text : sectionsText (s :: s' :: sections) =
          sectionText s ++ '\n' :: sectionsText (s' :: sections) := by
        simp [sectionsText, List.intercalate_cons_cons]
      have together : done ++ s :: s' :: sections = done ++ [s] ++ s' :: sections := by simp
      have first := reads_section root fresh (wf s List.mem_cons_self)
        ('\n' :: sectionsText (s' :: sections))
      rw [together] at distinct ⊢
      obtain ⟨l', others, root'⟩ := ih (l := layoutAt done s) rfl
        (fun t mem => wf t (List.mem_cons_of_mem s mem)) distinct (not_mem_of_distinct distinct)
      rw [text]
      exact ⟨l', first.trans ((reads_blank _ _).trans others), root'⟩

private theorem entriesToValues_fieldNodes (fields : List (String × Field)) :
    Node.entriesToValues (fieldNodes fields) = fields.map fun f => (f.1, f.2.value) := by
  induction fields with
  | nil => rfl
  | cons f fields ih => exact congrArg _ ih

private theorem entriesToValues_sectionNodes (sections : List Section) :
    Node.entriesToValues (sectionNodes sections) = sections.map Section.entry := by
  induction sections with
  | nil => rfl
  | cons s sections ih =>
      have fields := entriesToValues_fieldNodes s.fields
      rw [sectionNodes, List.map_cons, Node.entriesToValues, Node.toValue, fields]
      exact congrArg _ ih

theorem parse?_sectionsText {sections : List Section} (wf : ∀ s ∈ sections, s.WellFormed)
    (distinct : (sections.map Section.name).Nodup) :
    parse? (String.ofList (sectionsText sections)) = some (sections.map Section.entry) := by
  cases sections with
  | nil => rfl
  | cons s sections =>
      have empty : ({} : Layout).root = .table false false (sectionNodes []) := rfl
      obtain ⟨l, reads, root⟩ := reads_sections empty wf distinct
      have unmarked : skipMark (sectionsText (s :: sections)) = sectionsText (s :: sections) := by
        cases sections <;> rfl
      have lines := lines?_of_reads reads (Nat.lt_succ_self _)
      rw [List.nil_append] at root
      simp only [parse?, String.toList_ofList, unmarked, lines, Option.bind_eq_bind,
        Option.bind_some, root, Node.toValue, entriesToValues_sectionNodes]

end TunnelClient.Toml
