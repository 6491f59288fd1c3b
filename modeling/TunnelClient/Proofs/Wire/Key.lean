import TunnelClient.Proofs.Text.Base64
import TunnelClient.Proofs.Text.Blank
import TunnelClient.Proofs.Text.Numeral
import TunnelClient.Wire.Key

/-!
# The text of a key

The text of a preshared key.  A key is read from the one base64 text of its bytes, with white space
around it or not; what any other text is answered with tells how many bytes it spells, if it spells
any.
-/

namespace TunnelClient

namespace Text.Base64

variable {bytes bytes' : List UInt8} {text : List Char}

theorem Spells.solid (spells : Spells bytes text) : Solid text := by
  obtain ⟨signs, rfl, -, known, -⟩ := spells
  have visible : Solid alphabet := by decide +kernel
  intro c mem
  rcases List.mem_append.mp mem with sign | pad
  · exact visible c (known c sign)
  · rw [(List.mem_replicate.mp pad).2]
    decide

theorem Spells.unique (spells : Spells bytes text) (spells' : Spells bytes' text) :
    bytes = bytes' := by
  have same : decode? text = some bytes := decode?_eq_some_iff.mpr (spells_iff.mp spells)
  rw [decode?_eq_some_iff.mpr (spells_iff.mp spells')] at same
  exact (Option.some.inj same).symm

end Text.Base64

namespace PresharedKey

open Text.Base64

variable {text : String} {bytes : List UInt8} {key : PresharedKey}

/-! ## The two complaints -/

def garbled : WireError := .invalidKey "not valid base64"

def miscounted (n : Nat) : WireError := .invalidKey s!"expected 32 bytes, got {n}"

private theorem miscounted_inj {m n : Nat} (same : miscounted m = miscounted n) : m = n := by
  have texts : "expected 32 bytes, got " ++ m.repr = "expected 32 bytes, got " ++ n.repr :=
    WireError.invalidKey.inj same
  have digits : String.ofList (Nat.toDigits 10 m) = String.ofList (Nat.toDigits 10 n) :=
    (String.append_right_inj _).mp texts
  have values := congrArg (fun text : String => Text.Numeral.value 10 text.toList) digits
  simpa only [String.toList_ofList, Text.Numeral.value_toDigits] using values

private theorem miscounted_ne (n : Nat) : miscounted n ≠ garbled := by
  intro same
  have texts : "expected 32 bytes, got " ++ n.repr = "not valid base64" :=
    WireError.invalidKey.inj same
  have first := congrArg (fun text : String => text.toList.head?) texts
  simp [String.toList_append] at first

/-! ## One answer for each text -/

private theorem toList_trim (text : String) :
    (Text.trim text).toList = Text.trimChars text.toList :=
  String.toList_ofList

private theorem spells_toBase64 (key : PresharedKey) : Spells key.bytes key.toBase64.toList := by
  rw [toBase64, String.toList_ofList]
  exact spells_encode key.bytes

private theorem trim_eq_toBase64 :
    Text.trim text = key.toBase64 ↔ Spells key.bytes (Text.trim text).toList := by
  rw [spells_iff, toBase64, ← String.toList_inj, String.toList_ofList]

private theorem ofBase64_of_key (spells : Spells key.bytes (Text.trim text).toList) :
    ofBase64 text = .ok key := by
  rw [spells_iff, toList_trim] at spells
  rw [ofBase64, spells, decode?_encode]
  simp only [ofBytes?, dif_pos key.length_eq]

private theorem ofBase64_of_miscount (spells : Spells bytes (Text.trim text).toList)
    (ne : bytes.length ≠ 32) : ofBase64 text = .error (miscounted bytes.length) := by
  rw [spells_iff, toList_trim] at spells
  rw [ofBase64, spells, decode?_encode]
  simp only [ofBytes?, dif_neg ne]
  rfl

private theorem ofBase64_of_garbled (none : ∀ bytes, ¬Spells bytes (Text.trim text).toList) :
    ofBase64 text = .error garbled := by
  have undecoded : decode? (Text.trimChars text.toList) = Option.none := by
    refine Option.eq_none_iff_forall_ne_some.mpr fun bytes decoded => none bytes ?_
    rw [spells_iff, toList_trim]
    exact decode?_eq_some_iff.mp decoded
  rw [ofBase64, undecoded]
  rfl

theorem spelled_cases (text : String) :
    (∃ key : PresharedKey, Spells key.bytes (Text.trim text).toList ∧ ofBase64 text = .ok key) ∨
      (∃ bytes, Spells bytes (Text.trim text).toList ∧ bytes.length ≠ 32 ∧
        ofBase64 text = .error (miscounted bytes.length)) ∨
      (∀ bytes, ¬Spells bytes (Text.trim text).toList) ∧ ofBase64 text = .error garbled := by
  by_cases spelled : ∃ bytes, Spells bytes (Text.trim text).toList
  · obtain ⟨bytes, spells⟩ := spelled
    by_cases full : bytes.length = 32
    · exact .inl ⟨⟨bytes, full⟩, spells, ofBase64_of_key spells⟩
    · exact .inr (.inl ⟨bytes, spells, full, ofBase64_of_miscount spells full⟩)
  · have none := not_exists.mp spelled
    exact .inr (.inr ⟨none, ofBase64_of_garbled none⟩)

theorem ofBase64_eq_ok_iff : ofBase64 text = .ok key ↔ Text.trim text = key.toBase64 := by
  rw [trim_eq_toBase64]
  constructor
  · intro read
    rcases spelled_cases text with ⟨key', spells, answer⟩ | ⟨bytes, -, -, answer⟩ | ⟨-, answer⟩
    · rw [answer] at read
      cases read
      exact spells
    · rw [answer] at read
      cases read
    · rw [answer] at read
      cases read
  · exact ofBase64_of_key

theorem ofBase64_eq_miscounted_iff {n : Nat} : ofBase64 text = .error (miscounted n) ↔
    n ≠ 32 ∧ ∃ bytes, bytes.length = n ∧ Spells bytes (Text.trim text).toList := by
  constructor
  · intro read
    rcases spelled_cases text with ⟨key, -, answer⟩ | ⟨bytes, spells, ne, answer⟩ | ⟨-, answer⟩
    · rw [answer] at read
      cases read
    · rw [answer] at read
      obtain rfl := miscounted_inj (Except.error.inj read)
      exact ⟨ne, bytes, rfl, spells⟩
    · rw [answer] at read
      exact absurd (Except.error.inj read).symm (miscounted_ne n)
  · rintro ⟨ne, bytes, rfl, spells⟩
    exact ofBase64_of_miscount spells ne

theorem ofBase64_eq_garbled_iff : ofBase64 text = .error garbled ↔
    ∀ bytes, ¬Spells bytes (Text.trim text).toList := by
  constructor
  · intro read
    rcases spelled_cases text with ⟨key, -, answer⟩ | ⟨bytes, -, -, answer⟩ | ⟨none, -⟩
    · rw [answer] at read
      cases read
    · rw [answer] at read
      exact absurd (Except.error.inj read) (miscounted_ne _)
    · exact none
  · exact ofBase64_of_garbled

theorem trim_eq_toBase64_iff : Text.trim text = key.toBase64 ↔
    ∃ before after : String, Text.AllBlank before.toList ∧ Text.AllBlank after.toList ∧
      text = before ++ key.toBase64 ++ after := by
  have solid := (spells_toBase64 key).solid
  have framed := Text.trimChars_eq_iff (fun c first => solid c (List.mem_of_mem_head? first))
    (fun c last => solid c (List.mem_of_mem_getLast? last)) text.toList
  rw [← String.toList_inj, toList_trim, framed]
  constructor
  · rintro ⟨before, after, blank, blank', written⟩
    refine ⟨String.ofList before, String.ofList after, ?_, ?_, ?_⟩
    · rwa [String.toList_ofList]
    · rwa [String.toList_ofList]
    · rw [← String.toList_inj, written]
      simp
  · rintro ⟨before, after, blank, blank', rfl⟩
    exact ⟨before.toList, after.toList, blank, blank', by simp⟩

/-! ## What a text is read as -/

/-- The key of which it is the spelling, or an error that says what it spells in its place. -/
structure ReadExactly (text : String) : Prop where
  accepted : ∀ key, ofBase64 text = .ok key ↔ Text.trim text = key.toBase64
  framed : ∀ key, ofBase64 text = .ok key ↔
    ∃ before after : String, Text.AllBlank before.toList ∧ Text.AllBlank after.toList ∧
      text = before ++ key.toBase64 ++ after
  refused : (∀ key : PresharedKey, Text.trim text ≠ key.toBase64) →
    ∃ reason, ofBase64 text = .error (.invalidKey reason)
  miscounted : ∀ n : Nat,
    ofBase64 text = .error (.invalidKey s!"expected 32 bytes, got {n}") ↔
      n ≠ 32 ∧ ∃ bytes, bytes.length = n ∧ Spells bytes (Text.trim text).toList
  garbled : ofBase64 text = .error (.invalidKey "not valid base64") ↔
    ∀ bytes, ¬Spells bytes (Text.trim text).toList

/-- Bytes have one base64 text and share it with no others, the text of a key is that of its bytes,
and the key is read from no other text. -/
theorem key_has_one_spelling :
    (∀ bytes bytes' text text', Spells bytes text → Spells bytes' text' →
        (bytes = bytes' ↔ text = text')) ∧
      (∀ key : PresharedKey, Spells key.bytes key.toBase64.toList) ∧
      ∀ text, ReadExactly text := by
  refine ⟨?_, spells_toBase64, fun text => ?_⟩
  · intro bytes bytes' text text' spells spells'
    constructor
    · rintro rfl
      rw [spells_iff.mp spells, spells_iff.mp spells']
    · rintro rfl
      exact spells.unique spells'
  · refine ⟨fun key => ofBase64_eq_ok_iff, fun key => ?_, fun unlike => ?_,
      fun n => ofBase64_eq_miscounted_iff, ofBase64_eq_garbled_iff⟩
    · rw [ofBase64_eq_ok_iff, trim_eq_toBase64_iff]
    · rcases spelled_cases text with ⟨key, spells, -⟩ | ⟨bytes, -, -, answer⟩ | ⟨-, answer⟩
      · exact absurd (trim_eq_toBase64.mpr spells) (unlike key)
      · exact ⟨_, answer⟩
      · exact ⟨_, answer⟩

end PresharedKey

end TunnelClient
