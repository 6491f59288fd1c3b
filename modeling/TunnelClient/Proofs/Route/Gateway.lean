import TunnelClient.Proofs.Address.Dotted
import TunnelClient.Route.Command

/-!
# The gateway that is read

Which default route the gateway is read from.  It is the first that names an IPv4 gateway: the ones
above it, that name none, are passed over.  So the first default route of all is the one that
counts, unless it names no gateway and one below it does.
-/

namespace TunnelClient.IpCommand

variable {line : List Char} {g : Ipv4}

/-! ## One line -/

def IsDefault (line : List Char) : Prop :=
  ∃ before after, Text.AllBlank before ∧ line = before ++ "default".toList ++ after

def Names (line : List Char) (g : Ipv4) : Prop :=
  ∃ before after, Text.words line = before ++ ['v', 'i', 'a'] :: g.text.toList :: after ∧
    ['v', 'i', 'a'] ∉ before

theorem startsWithDefault_iff : startsWithDefault line = true ↔ IsDefault line := by
  rw [startsWithDefault, List.isPrefixOf_iff_prefix]
  constructor
  · rintro ⟨after, kept⟩
    obtain ⟨before, blank, whole⟩ := Text.blank_trimLeft line
    exact ⟨before, after, blank, by rw [List.append_assoc, kept, ← whole]⟩
  · rintro ⟨before, after, blank, rfl⟩
    refine ⟨after, ?_⟩
    rw [List.append_assoc, Text.trimLeft_of_blank blank, Text.trimLeft_of_solid]
    rintro c ⟨⟩
    decide

theorem gatewayAfterVia?_eq_some_iff {words : List (List Char)} :
    gatewayAfterVia? words = some g ↔
      ∃ before after, words = before ++ ['v', 'i', 'a'] :: g.text.toList :: after ∧
        ['v', 'i', 'a'] ∉ before := by
  induction words with
  | nil => simp [gatewayAfterVia?]
  | cons word rest ih =>
      rw [gatewayAfterVia?]
      by_cases via : word = ['v', 'i', 'a']
      · rw [if_pos via, Option.bind_eq_some_iff]
        subst via
        constructor
        · rintro ⟨address, first, reads⟩
          obtain rfl := Ipv4.parseChars?_eq_some_iff.mp reads
          obtain ⟨after, rfl⟩ := List.head?_eq_some_iff.mp first
          exact ⟨[], after, rfl, List.not_mem_nil⟩
        · rintro ⟨before, after, split, fresh⟩
          cases before with
          | nil =>
              obtain rfl := (List.cons.inj split).2
              exact ⟨g.text.toList, rfl, g.parseChars?_text⟩
          | cons head before =>
              rw [(List.cons.inj split).1] at fresh
              exact absurd List.mem_cons_self fresh
      · rw [if_neg via, ih]
        constructor
        · rintro ⟨before, after, rfl, fresh⟩
          refine ⟨word :: before, after, rfl, ?_⟩
          rw [List.mem_cons, not_or]
          exact ⟨Ne.symm via, fresh⟩
        · rintro ⟨before, after, split, fresh⟩
          cases before with
          | nil => exact absurd (List.cons.inj split).1 via
          | cons head before =>
              refine ⟨before, after, (List.cons.inj split).2, ?_⟩
              exact fun mem => fresh (List.mem_cons_of_mem _ mem)

def defaultVia? (line : List Char) : Option Ipv4 :=
  if startsWithDefault line then gatewayAfterVia? (Text.words line) else none

theorem defaultVia?_eq_some_iff : defaultVia? line = some g ↔ IsDefault line ∧ Names line g := by
  rw [defaultVia?, ← startsWithDefault_iff, Names, ← gatewayAfterVia?_eq_some_iff,
    Option.ite_none_right_eq_some]

theorem defaultVia?_eq_none_iff :
    defaultVia? line = none ↔ IsDefault line → ∀ g, ¬Names line g := by
  rw [Option.eq_none_iff_forall_ne_some]
  constructor
  · exact fun none default g names => none g (defaultVia?_eq_some_iff.mpr ⟨default, names⟩)
  · intro nameless g found
    obtain ⟨default, names⟩ := defaultVia?_eq_some_iff.mp found
    exact nameless default g names

/-! ## All of them -/

theorem gateway?_eq (output : String) :
    gateway? output = (Text.lines output.toList).findSome? defaultVia? := by
  rw [gateway?]
  induction Text.lines output.toList with
  | nil => rfl
  | cons line lines ih =>
      rw [List.filter_cons, List.findSome?_cons, defaultVia?]
      by_cases default : startsWithDefault line = true
      · rw [if_pos default, if_pos default, List.findSome?_cons, ih]
      · rw [if_neg default, if_neg default, ih]

/-- The first line of a default route, and what comes below it. -/
def FirstDefault (output : String) (line : List Char) (below : List (List Char)) : Prop :=
  ∃ above, Text.lines output.toList = above ++ line :: below ∧ IsDefault line ∧
    ∀ other ∈ above, ¬IsDefault other

theorem gateway?_of_firstDefault {output : String} {below : List (List Char)}
    (first : FirstDefault output line below) :
    gateway? output = (defaultVia? line).or (below.findSome? defaultVia?) := by
  obtain ⟨above, split, default, clear⟩ := first
  have passed : above.findSome? defaultVia? = none := by
    refine List.findSome?_eq_none_iff.mpr fun other mem => defaultVia?_eq_none_iff.mpr ?_
    exact fun default => absurd default (clear other mem)
  rw [gateway?_eq, split, List.findSome?_append, passed, Option.none_or, List.findSome?_cons]
  cases defaultVia? line <;> rfl

/-- The first default route alone gives the answer: the gateway that it names, if it names one. -/
def FirstCounts (output : String) (answer : Option Ipv4) : Prop :=
  (∀ line below, FirstDefault output line below → ∀ g, answer = some g ↔ Names line g) ∧
    ((∀ line ∈ Text.lines output.toList, ¬IsDefault line) → answer = none)

theorem gateway?_eq_none_iff {output : String} : gateway? output = none ↔
    ∀ line ∈ Text.lines output.toList, IsDefault line → ∀ g, ¬Names line g := by
  simp only [gateway?_eq, List.findSome?_eq_none_iff, defaultVia?_eq_none_iff]

theorem firstCounts_iff {output : String} : FirstCounts output (gateway? output) ↔
    ∀ line below, FirstDefault output line below →
      (∃ g, Names line g) ∨ ∀ other ∈ below, IsDefault other → ∀ g, ¬Names other g := by
  constructor
  · rintro ⟨counts, -⟩ line below first
    by_cases named : ∃ g, Names line g
    · exact .inl named
    · have none : gateway? output = none :=
        Option.eq_none_iff_forall_ne_some.mpr fun g found =>
          named ⟨g, (counts line below first g).mp found⟩
      obtain ⟨above, split, -⟩ := first
      refine .inr fun other mem => gateway?_eq_none_iff.mp none other ?_
      rw [split]
      exact List.mem_append_right _ (List.mem_cons_of_mem _ mem)
  · intro decides
    refine ⟨fun line below first g => ?_, fun clear => ?_⟩
    · have default : IsDefault line := first.choose_spec.2.1
      have own : (defaultVia? line).or (below.findSome? defaultVia?) = defaultVia? line := by
        rcases decides line below first with ⟨g', names⟩ | nameless
        · rw [defaultVia?_eq_some_iff.mpr ⟨default, names⟩]
          rfl
        · have none : below.findSome? defaultVia? = none := by
            simpa only [List.findSome?_eq_none_iff, defaultVia?_eq_none_iff] using nameless
          rw [none, Option.or_none]
      rw [gateway?_of_firstDefault first, own, defaultVia?_eq_some_iff]
      exact and_iff_right default
    · exact gateway?_eq_none_iff.mpr fun line mem default => absurd default (clear line mem)

/-- What the search for the gateway finds, and when that is what the first default route says. -/
theorem first_naming_default_counts (output : String) :
    (∀ g, gateway? output = some g ↔ ∃ above line below,
        Text.lines output.toList = above ++ line :: below ∧ IsDefault line ∧ Names line g ∧
          ∀ other ∈ above, IsDefault other → ∀ g', ¬Names other g') ∧
      (gateway? output = none ↔
        ∀ line ∈ Text.lines output.toList, IsDefault line → ∀ g, ¬Names line g) ∧
      (FirstCounts output (gateway? output) ↔ ∀ line below, FirstDefault output line below →
        (∃ g, Names line g) ∨ ∀ other ∈ below, IsDefault other → ∀ g, ¬Names other g) := by
  refine ⟨fun g => ?_, gateway?_eq_none_iff, firstCounts_iff⟩
  simp only [gateway?_eq, List.findSome?_eq_some_iff, defaultVia?_eq_some_iff,
    defaultVia?_eq_none_iff, and_assoc]

/-- A link without a gateway that is preferred, and a gateway below it. -/
def dialUp : String :=
  "default dev ppp0 scope link\ndefault via 192.168.1.1 dev eth0 metric 600\n"

theorem second_default_counts :
    gateway? dialUp = some (.ofOctets 192 168 1 1) ∧ ¬FirstCounts dialUp (gateway? dialUp) := by
  have found : gateway? dialUp = some (.ofOctets 192 168 1 1) := by decide +kernel
  refine ⟨found, fun counts => ?_⟩
  have first : FirstDefault dialUp "default dev ppp0 scope link".toList
      ["default via 192.168.1.1 dev eth0 metric 600".toList] :=
    ⟨[], by decide +kernel, ⟨[], " dev ppp0 scope link".toList, nofun, by decide +kernel⟩, nofun⟩
  have names := (counts.1 _ _ first _).mp found
  have nameless : gatewayAfterVia? (Text.words "default dev ppp0 scope link".toList) = none := by
    decide +kernel
  rw [Names, ← gatewayAfterVia?_eq_some_iff, nameless] at names
  cases names

end TunnelClient.IpCommand
