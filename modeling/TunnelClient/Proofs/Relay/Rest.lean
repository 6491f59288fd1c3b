import TunnelClient.Proofs.Relay.Downlink
import TunnelClient.Proofs.Relay.Uplink

/-!
# A relay at rest

A relay that nothing more comes in to takes only so many steps.  Where it cannot take another
one, all that was injected was sent and all that arrived was delivered, unless a loop hangs or
has ended before.
-/

namespace TunnelClient

namespace RelayRun

open Relay

def Move.isLoop : Move → Bool
  | .stimulus _ => false
  | .uplink _ | .downlink _ => true

variable {c : Setup} {d : Device} {w : World} {r r' : RelayRun} {moves more : List Move}

theorem move_of_steps (h : Steps c r r') : ∃ m, Move.isLoop m = true ∧ r.move c m = r' := by
  obtain ⟨obey, up | down⟩ := h
  · exact ⟨.uplink obey, rfl, by rw [move, up]; rfl⟩
  · exact ⟨.downlink obey, rfl, by rw [move, down]; rfl⟩

theorem Path.run {n : Nat} (h : Path c r n r') :
    ∃ more, (∀ m ∈ more, Move.isLoop m = true) ∧ r' = run c r more := by
  induction h with
  | here => exact ⟨[], by simp, rfl⟩
  | next path step ih =>
      obtain ⟨more, loops, rfl⟩ := ih
      obtain ⟨m, loop, rfl⟩ := move_of_steps step
      refine ⟨more ++ [m], ?_, ?_⟩
      · intro m' mem
        rcases List.mem_append.mp mem with mem | mem
        · exact loops m' mem
        · rw [List.mem_singleton.mp mem]
          exact loop
      · rw [run_append]
        rfl

private theorem quiet_of_isLoop {m : Move} (loop : m.isLoop = true) :
    m.datagrams = [] ∧ m.packets = [] := by
  cases m with
  | stimulus x => cases loop
  | uplink obey | downlink obey => exact ⟨rfl, rfl⟩

private theorem arrived_of_loops (w : World) (moves : List Move)
    (loops : ∀ m ∈ more, Move.isLoop m = true) :
    arrived w (moves ++ more) = arrived w moves := by
  have none : more.flatMap Move.datagrams = [] :=
    List.flatMap_eq_nil_iff.mpr fun m mem => (quiet_of_isLoop (loops m mem)).1
  rw [arrived, arrived, List.flatMap_append, none, List.append_nil]

private theorem injected_of_loops (d : Device) (moves : List Move)
    (loops : ∀ m ∈ more, Move.isLoop m = true) :
    injected d (moves ++ more) = injected d moves := by
  have none : more.flatMap Move.packets = [] :=
    List.flatMap_eq_nil_iff.mpr fun m mem => (quiet_of_isLoop (loops m mem)).2
  rw [injected, injected, List.flatMap_append, none, List.append_nil]

/-- Both loops have done what there was to do, or hang, or have ended before. -/
structure Settled (c : Setup) (arrived : List Datagram) (injected before : List Packet)
    (r : RelayRun) : Prop where
  uplink : r.uplink = .stuck ∨ (∃ e, r.uplink = .ended e) ∨
    r.told = false ∧ List.Forall₂ (Carries c.key) r.world.outflow.sent injected
  downlink : CutShort r.downlink ∨ (r.downlink = .waiting → r.told = false) ∧
    ∃ accepted, r.world.inflow.written = before ++ accepted ∧ Authentic c.key arrived accepted

theorem settled_of_still {moves : List Move}
    (datagrams : ∀ x ∈ arrived w moves, x.length ≤ Frame.maxDatagram)
    (packets : ∀ p ∈ injected d moves, p.length ≤ Frame.maxDatagram)
    (still : ∀ r', ¬Steps c (run c (begun d w) moves) r') :
    Settled c (arrived w moves) (injected d moves) d.outbound (run c (begun d w) moves) := by
  obtain ⟨passed, passing⟩ := passing_run c d w moves
  obtain ⟨accepted, delivering⟩ := delivering_run c d w moves
  have read := passing.conserved.eq_append packets
  have received := delivering.conserved.eq_append datagrams
  have up : (run c (begun d w) moves).stepUplink c false = none :=
    Option.eq_none_iff_forall_ne_some.mpr fun r' step => still r' ⟨false, .inl step⟩
  have down : (run c (begun d w) moves).stepDownlink c false = none :=
    Option.eq_none_iff_forall_ne_some.mpr fun r' step => still r' ⟨false, .inr step⟩
  constructor
  · rcases passing.rest read up with stuck | ended | ⟨untold, all⟩
    · exact .inl stuck
    · exact .inr (.inl ended)
    · exact .inr (.inr ⟨untold, all ▸ passing.sent⟩)
  · rcases authentic_of_rest delivering received down with short | ⟨untold, authentic⟩
    · exact .inl short
    · exact .inr ⟨untold, accepted, delivering.written, authentic⟩

/-- Whichever loop goes first, a relay left to itself takes no more steps than there is work, and
it goes on until it has forwarded and delivered all there is. -/
theorem comes_to_rest {n : Nat} (datagrams : ∀ x ∈ arrived w moves, x.length ≤ Frame.maxDatagram)
    (packets : ∀ p ∈ injected d moves, p.length ≤ Frame.maxDatagram)
    (path : Path c (run c (begun d w) moves) n r) :
    n + r.work ≤ (run c (begun d w) moves).work ∧
      ((∃ r', Steps c r r') ∨
        Settled c (arrived w moves) (injected d moves) d.outbound r) := by
  refine ⟨path.length_le, ?_⟩
  obtain ⟨more, loops, rfl⟩ := path.run
  have sameIn := arrived_of_loops w moves loops
  have sameOut := injected_of_loops d moves loops
  by_cases possible : ∃ r', Steps c (run c (run c (begun d w) moves) more) r'
  · exact .inl possible
  · right
    rw [← sameIn] at datagrams ⊢
    rw [← sameOut] at packets ⊢
    rw [← run_append] at possible ⊢
    exact settled_of_still datagrams packets fun r' step => possible ⟨r', step⟩

theorem rest_trial :
    (∀ x ∈ arrived Session.Trial.world [.stimulus (.packet [6])],
        x.length ≤ Frame.maxDatagram) ∧
      (∀ p ∈ injected Trial.device [.stimulus (.packet [6])], p.length ≤ Frame.maxDatagram) ∧
      ∃ r, r.uplink = .holding [6] ∧
        1 + r.work ≤ (run Session.Trial.setup (begun Trial.device Session.Trial.world)
          [.stimulus (.packet [6])]).work ∧
        ((∃ r', Steps Session.Trial.setup r r') ∨
          Settled Session.Trial.setup (arrived Session.Trial.world [.stimulus (.packet [6])])
            (injected Trial.device [.stimulus (.packet [6])]) Trial.device.outbound r) := by
  have datagrams : ∀ x ∈ arrived Session.Trial.world [.stimulus (.packet [6])],
      x.length ≤ Frame.maxDatagram := by
    decide
  have packets : ∀ p ∈ injected Trial.device [.stimulus (.packet [6])],
      p.length ≤ Frame.maxDatagram := by
    decide
  have path : Path Session.Trial.setup (run Session.Trial.setup
      (begun Trial.device Session.Trial.world) [.stimulus (.packet [6])]) 1
      (run Session.Trial.setup (begun Trial.device Session.Trial.world)
        [.stimulus (.packet [6]), .uplink false]) :=
    .next .here ⟨false, .inl rfl⟩
  exact ⟨datagrams, packets, _, rfl, comes_to_rest datagrams packets path⟩

end RelayRun

end TunnelClient
