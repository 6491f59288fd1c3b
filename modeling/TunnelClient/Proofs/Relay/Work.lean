import TunnelClient.Proofs.Relay.Flow
import TunnelClient.Proofs.Session.Steps
import TunnelClient.Session.Schedule

/-!
# The work of a relay

Each step of a loop uses up input that is at hand, or takes the loop closer to its end.
So a relay that nothing more comes in to takes only so many steps.
-/

namespace TunnelClient

/-- An input is worth two steps: one takes it, and one passes it on. -/
def worth {ε α : Type} : Except ε α → Nat
  | .ok _ => 2
  | .error _ => 0

namespace World

def load (w : World) : Nat := 2 * w.outflow.unread.length + 2 * w.inflow.queued.length

theorem backlog_eq (w : World) : w.backlog = w.load + 40 := by
  rw [backlog, load, unread, inflow, outflow]
  cases w.device <;> rfl

theorem load_receive? {w w' : World} {outcome : Except HostError Datagram}
    (h : w.receive? = some (outcome, w')) : w'.load + worth outcome = w.load := by
  have spec := receive?_spec w
  rw [h] at spec
  cases outcome with
  | error e =>
      obtain ⟨inflow, outflow⟩ := spec
      rw [load, inflow, outflow]
      rfl
  | ok d =>
      obtain ⟨outflow, whole, rest, queue, -, inflow⟩ := spec
      simp only [load, outflow, inflow, queue, List.length_cons, worth]
      omega

theorem load_readPacket? {w w' : World} {outcome : Except HostError Packet}
    (h : w.readPacket? = some (outcome, w')) : w'.load + worth outcome = w.load := by
  have spec := readPacket?_spec w
  rw [h] at spec
  cases outcome with
  | error e =>
      obtain ⟨inflow, outflow⟩ := spec
      rw [load, inflow, outflow]
      rfl
  | ok p =>
      obtain ⟨inflow, whole, rest, queue, -, outflow⟩ := spec
      simp only [load, outflow, inflow, queue, List.length_cons, worth]
      omega

theorem load_send (c : Setup) (d : Datagram) (w : World) : (w.send c d).2.load = w.load := by
  obtain ⟨inflow, outflow⟩ := send_spec c d w
  rw [load, inflow, outflow]
  split <;> rfl

theorem load_writePacket (p : Packet) (w : World) : (w.writePacket p).2.load = w.load := by
  cases hd : w.device with
  | none =>
      rw [writePacket, hd]
      split <;> rfl
  | some device =>
      obtain ⟨inflow, outflow⟩ := writePacket_spec p (by rw [hd]; rfl : w.device.isSome = true)
      rw [load, inflow, outflow]
      cases (w.writePacket p).1 <;> rfl

end World

def Loop.cost : Loop → Nat
  | waiting => 1
  | holding _ => 2
  | stuck | ended _ => 0

namespace Relay

variable {c : Setup} {told obey : Bool} {l l' : Loop} {t t' : Traffic}

theorem cost_uplinkStep (h : uplinkStep c told obey l t = some (l', t')) :
    l'.cost + t'.world.load < l.cost + t.world.load := by
  cases l with
  | stuck | ended e => cases h
  | waiting =>
      rcases cancel_cases h with ⟨-, rfl, rfl⟩ | hinput
      · simp [Loop.cost]
      · rw [uplinkInput] at hinput
        cases hread : t.world.readPacket? with
        | none => simp [hread] at hinput
        | some reading =>
            obtain ⟨outcome, w⟩ := reading
            have less := World.load_readPacket? hread
            rw [hread] at hinput
            cases outcome with
            | ok p | error e =>
                cases hinput
                simp only [Loop.cost, worth] at less ⊢
                omega
  | holding p =>
      have sealed : (t.world.sealFrame c ⟨.data, p⟩).2.load = t.world.load := rfl
      simp only [uplinkStep, uplinkOutput, Option.some.injEq] at h
      cases hseal : t.world.sealFrame c ⟨.data, p⟩ with
      | mk outcome w =>
          simp only [hseal] at sealed h
          cases outcome with
          | error e =>
              cases h
              simp only [Loop.cost]
              omega
          | ok d =>
              have same := World.load_send c d w
              cases hsend : w.send c d with
              | mk result w' =>
                  simp only [hsend] at same h
                  cases result with
                  | done | failed e | hangs =>
                      cases h
                      simp only [Loop.cost]
                      omega

theorem cost_downlinkStep (h : downlinkStep c told obey l t = some (l', t')) :
    l'.cost + t'.world.load < l.cost + t.world.load := by
  cases l with
  | stuck | ended e => cases h
  | waiting =>
      rcases cancel_cases h with ⟨-, rfl, rfl⟩ | hinput
      · simp [Loop.cost]
      · rw [downlinkInput] at hinput
        cases hreceive : t.world.receive? with
        | none => simp [hreceive] at hinput
        | some received =>
            obtain ⟨outcome, w⟩ := received
            have less := World.load_receive? hreceive
            rw [hreceive] at hinput
            cases outcome with
            | error e =>
                cases hinput
                simp only [Loop.cost, worth] at less ⊢
                omega
            | ok d =>
                simp only at hinput
                cases hpacket : packetOf c.key d with
                | ok p | error e =>
                    simp only [hpacket] at hinput
                    cases hinput
                    simp only [Loop.cost, worth] at less ⊢
                    omega
  | holding p =>
      have same := World.load_writePacket p t.world
      simp only [downlinkStep, downlinkOutput, Option.some.injEq] at h
      cases hwrite : t.world.writePacket p with
      | mk result w =>
          simp only [hwrite] at same h
          cases result with
          | done | failed e | hangs =>
              cases h
              simp only [Loop.cost]
              omega

end Relay

/-! ## A relay on its own -/

namespace RelayRun

variable {c : Setup} {r r' : RelayRun}

def work (r : RelayRun) : Nat := r.uplink.cost + r.downlink.cost + r.traffic.world.load

def Steps (c : Setup) (r r' : RelayRun) : Prop :=
  ∃ obey, r.stepUplink c obey = some r' ∨ r.stepDownlink c obey = some r'

inductive Path (c : Setup) (r : RelayRun) : Nat → RelayRun → Prop
  | here : Path c r 0 r
  | next {n : Nat} {r₁ r₂ : RelayRun} (path : Path c r n r₁) (step : Steps c r₁ r₂) :
      Path c r (n + 1) r₂

theorem work_steps (h : Steps c r r') : r'.work < r.work := by
  obtain ⟨obey, up | down⟩ := h
  · rw [stepUplink, Option.map_eq_some_iff] at up
    obtain ⟨⟨l, t⟩, hstep, rfl⟩ := up
    have less := Relay.cost_uplinkStep hstep
    simp only [work]
    omega
  · rw [stepDownlink, Option.map_eq_some_iff] at down
    obtain ⟨⟨l, t⟩, hstep, rfl⟩ := down
    have less := Relay.cost_downlinkStep hstep
    simp only [work]
    omega

theorem Path.length_le {n : Nat} (h : Path c r n r') : n + r'.work ≤ r.work := by
  induction h with
  | here => exact Nat.le_of_eq (Nat.zero_add _)
  | next path step ih =>
      have less := work_steps step
      omega

theorem Path.le_work {n : Nat} (h : Path c r n r') : n ≤ r.work :=
  Nat.le_trans (Nat.le_add_right n r'.work) h.length_le

end RelayRun

end TunnelClient
