import TunnelClient.Proofs.Address.Host
import TunnelClient.Route.Faulty

/-!
# Routes of a link

A link that goes down takes along the routes whose gateways lie on its network, bit for bit, and
nothing else.  So it matters neither how often links go down nor in which order, and a wider
network takes all that a narrower one does.
-/

namespace TunnelClient

/-! ## Leading bits -/

namespace Ipv4

def leadingBit (a : Ipv4) (i : Nat) : Bool := a.bits.toBitVec.getMsbD i

/-- Two addresses agree in each of their first `n` bits. -/
def Agree (n : Nat) (a b : Ipv4) : Prop := ∀ i < n, a.leadingBit i = b.leadingBit i

variable {a b : Ipv4} {m n length amount : Nat}

theorem Agree.mono (agree : Agree n a b) (le : m ≤ n) : Agree m a b := by
  intro i lt
  exact agree i (Nat.lt_of_lt_of_le lt le)

theorem not_agree_iff : ¬Agree n a b ↔ ∃ i < n, a.leadingBit i ≠ b.leadingBit i := by
  simp [Agree]

private theorem shiftLeft?_of_lt (within : amount < 32) (word : UInt32) :
    shiftLeft? word amount = some (word <<< UInt32.ofNat amount) :=
  if_pos within

private theorem mask_of_pos (positive : 0 < length) :
    mask length = 0xFFFFFFFF <<< UInt32.ofNat (32 - min length 32) := by
  rw [mask, shiftLeft?_of_lt (by omega), Option.getD_some]

private theorem toBitVec_shiftLeft (within : amount < 32) (word : UInt32) :
    (word <<< UInt32.ofNat amount).toBitVec = word.toBitVec <<< amount := by
  -- A word reduces the amounts of its shifts, which changes nothing below its width.
  have small : amount % 2 ^ 32 % 32 = amount := by omega
  rw [UInt32.toBitVec_shiftLeft, BitVec.shiftLeft_eq', BitVec.toNat_umod, UInt32.toNat_toBitVec,
    UInt32.toNat_ofNat']
  exact congrArg (word.toBitVec <<< ·) small

private theorem getMsbD_mask (length i : Nat) :
    (mask length).toBitVec.getMsbD i = decide (i < min length 32) := by
  cases length with
  | zero =>
      have empty : (mask 0).toBitVec = 0#32 := rfl
      rw [empty, BitVec.getMsbD_zero, Nat.zero_min]
      simp
  | succ length =>
      have ones : (0xFFFFFFFF : UInt32).toBitVec = BitVec.allOnes 32 := rfl
      rw [mask_of_pos (Nat.succ_pos length), toBitVec_shiftLeft (by omega), ones,
        BitVec.getMsbD_shiftLeft, BitVec.getMsbD_allOnes, decide_eq_decide]
      omega

private theorem getMsbD_and_mask (a : Ipv4) (length i : Nat) :
    (a.bits &&& mask length).toBitVec.getMsbD i =
      (a.leadingBit i && decide (i < min length 32)) := by
  rw [UInt32.toBitVec_and, BitVec.getMsbD_and, getMsbD_mask]
  rfl

private theorem sameNetwork_iff_agree (length : Nat) (a b : Ipv4) :
    a.sameNetwork length b = true ↔ Agree (min length 32) a b := by
  rw [sameNetwork, beq_iff_eq]
  constructor
  · intro same i lt
    have bit := getMsbD_and_mask a length i
    rw [same, getMsbD_and_mask, decide_eq_true lt, Bool.and_true, Bool.and_true] at bit
    exact bit.symm
  · intro agree
    apply UInt32.toBitVec_inj.mp
    apply BitVec.eq_of_getMsbD_eq
    intro i _
    rw [getMsbD_and_mask, getMsbD_and_mask]
    by_cases lt : i < min length 32
    · rw [agree i lt]
    · rw [decide_eq_false lt, Bool.and_false, Bool.and_false]

end Ipv4

namespace RouteTable

/-! ## Links that go down one after another -/

def keep (pass : Ipv4 → Bool) (t : RouteTable) : RouteTable :=
  ⟨t.default.filter pass, t.hosts.filter fun entry => pass entry.2⟩

private theorem keep_keep (pass pass' : Ipv4 → Bool) (t : RouteTable) :
    (t.keep pass).keep pass' = t.keep fun gateway => pass gateway && pass' gateway := by
  simp [keep, Option.filter_filter, List.filter_filter, Bool.and_comm]

private theorem keep_all (t : RouteTable) : (t.keep fun _ => true) = t := by
  obtain ⟨default, hosts⟩ := t
  cases default <;> simp [keep]

def linksDown (links : List (Ipv4 × Nat)) (t : RouteTable) : RouteTable :=
  links.foldl (fun t link => t.linkDown link.1 link.2) t

/-- The network of one of the links has the gateway. -/
def Covered (links : List (Ipv4 × Nat)) (gateway : Ipv4) : Prop :=
  ∃ link ∈ links, Ipv4.Agree (min link.2 32) link.1 gateway

theorem linksDown_eq_keep (links : List (Ipv4 × Nat)) (t : RouteTable) :
    t.linksDown links =
      t.keep fun gateway => links.all fun link => !link.1.sameNetwork link.2 gateway := by
  induction links generalizing t with
  | nil => exact (keep_all t).symm
  | cons link links ih =>
      -- What the first link leaves is filtered by the others, so the two filters join.
      change (t.linkDown link.1 link.2).linksDown links = _
      rw [ih]
      exact keep_keep (fun gateway => !link.1.sameNetwork link.2 gateway) _ t

theorem linksDown_congr (links others : List (Ipv4 × Nat))
    (same : ∀ gateway, Covered links gateway ↔ Covered others gateway) (t : RouteTable) :
    t.linksDown links = t.linksDown others := by
  have covered : ∀ (links : List (Ipv4 × Nat)) gateway,
      (links.all fun link => !link.1.sameNetwork link.2 gateway) = true ↔
        ¬Covered links gateway := by
    intro links gateway
    simp [Covered, ← Ipv4.sameNetwork_iff_agree]
  rw [linksDown_eq_keep, linksDown_eq_keep]
  congr 1
  funext gateway
  rw [Bool.eq_iff_iff, covered, covered, same]

variable (a b : Ipv4) (p q : Nat) (t : RouteTable)

theorem linkDown_linkDown_self : (t.linkDown a p).linkDown a p = t.linkDown a p :=
  linksDown_congr [(a, p), (a, p)] [(a, p)] (by simp [Covered]) t

theorem linkDown_comm : (t.linkDown a p).linkDown b q = (t.linkDown b q).linkDown a p :=
  linksDown_congr [(a, p), (b, q)] [(b, q), (a, p)] (by simp [Covered, or_comm]) t

variable {p q}

theorem linkDown_linkDown_of_le (le : p ≤ q) :
    (t.linkDown a q).linkDown a p = t.linkDown a p := by
  have wider : ∀ gateway, Ipv4.Agree (min q 32) a gateway → Ipv4.Agree (min p 32) a gateway :=
    fun gateway agree => agree.mono (by omega)
  refine linksDown_congr [(a, q), (a, p)] [(a, p)] ?_ t
  intro gateway
  simpa [Covered] using wider gateway

/-! ## A link that goes down -/

theorem default_linkDown_eq_some_iff {gateway : Ipv4} : (t.linkDown a p).default = some gateway ↔
    t.default = some gateway ∧ ¬Ipv4.Agree (min p 32) a gateway := by
  rw [linkDown, Option.filter_eq_some_iff, Bool.not_eq_true', ← Bool.not_eq_true,
    Ipv4.sameNetwork_iff_agree]

theorem default_linkDown_eq_none_iff : (t.linkDown a p).default = none ↔
    t.default = none ∨ ∃ gateway, t.default = some gateway ∧ Ipv4.Agree (min p 32) a gateway := by
  cases known : t.default with
  | none => simp [linkDown, known]
  | some gateway => simp [linkDown, known, Option.filter_eq_none_iff, Ipv4.sameNetwork_iff_agree]

theorem mem_hosts_linkDown_iff {entry : Ipv4 × Ipv4} : entry ∈ (t.linkDown a p).hosts ↔
    entry ∈ t.hosts ∧ ¬Ipv4.Agree (min p 32) a entry.2 := by
  rw [linkDown, List.mem_filter, Bool.not_eq_true', ← Bool.not_eq_true, Ipv4.sameNetwork_iff_agree]

/-- What the link of an address and a prefix takes from a table, and what it leaves. -/
structure TakesItsRoutes (a : Ipv4) (p : Nat) (t : RouteTable) : Prop where
  amount : 32 - min p 32 + min p 32 = 32
  shift : p ≠ 0 → Ipv4.shiftLeft? 0xFFFFFFFF (32 - min p 32) = some (Ipv4.mask p)
  noShift : p = 0 → Ipv4.shiftLeft? 0xFFFFFFFF (32 - min p 32) = none ∧ Ipv4.mask p = 0
  defaultGone : (t.linkDown a p).default = none ↔ t.default = none ∨
    ∃ gateway, t.default = some gateway ∧ Ipv4.Agree (min p 32) a gateway
  defaultKept : ∀ gateway, (t.linkDown a p).default = some gateway → t.default = some gateway
  hostKept : ∀ host gateway, (host, gateway) ∈ (t.linkDown a p).hosts ↔
    (host, gateway) ∈ t.hosts ∧ ∃ i < min p 32, a.leadingBit i ≠ gateway.leadingBit i
  order : (t.linkDown a p).hosts.Sublist t.hosts
  around : ∀ r : FaultyRoutes, r.table = t →
    r.mapTable (linkDown a p) = { r with table := t.linkDown a p }
  again : (t.linkDown a p).linkDown a p = t.linkDown a p
  exchange : ∀ b q, (t.linkDown a p).linkDown b q = (t.linkDown b q).linkDown a p
  wider : ∀ q, p ≤ q → ((t.linkDown a q).default = none → (t.linkDown a p).default = none) ∧
    ∀ entry ∈ t.hosts, entry ∉ (t.linkDown a q).hosts → entry ∉ (t.linkDown a p).hosts

/-- A link takes the routes on its network, whatever the length of its prefix: lengths beyond 32
count as 32, and with the length 0, for which there is no shift, every gateway is on it. -/
theorem link_takes_its_routes (a : Ipv4) (p : Nat) (t : RouteTable) : TakesItsRoutes a p t where
  amount := by omega
  shift := by
    intro nonzero
    rw [Ipv4.shiftLeft?_of_lt (by omega), Ipv4.mask_of_pos (Nat.pos_of_ne_zero nonzero)]
  noShift := by
    rintro rfl
    exact ⟨rfl, rfl⟩
  defaultGone := default_linkDown_eq_none_iff a t
  defaultKept := by
    intro gateway kept
    exact ((default_linkDown_eq_some_iff a t).mp kept).1
  hostKept := by
    intro host gateway
    rw [mem_hosts_linkDown_iff, Ipv4.not_agree_iff]
  order := List.filter_sublist
  around := by
    rintro r rfl
    rfl
  again := linkDown_linkDown_self a p t
  exchange := fun b q => linkDown_comm a b p q t
  wider := by
    intro q le
    -- What the narrower network has taken is not there any more for the wider one.
    rw [← linkDown_linkDown_of_le a t le]
    refine ⟨?_, ?_⟩
    · intro gone
      exact (default_linkDown_eq_none_iff a _).mpr (.inl gone)
    · intro entry _ gone left
      exact gone ((mem_hosts_linkDown_iff a _).mp left).1

example : (RouteTable.mk (some (.ofOctets 10 8 0 6)) [(.ofOctets 1 1 1 1, .ofOctets 10 8 0 8)]
      |>.linkDown (.ofOctets 10 8 0 7) 31) =
    ⟨none, [(.ofOctets 1 1 1 1, .ofOctets 10 8 0 8)]⟩ := by
  decide

end RouteTable

end TunnelClient
