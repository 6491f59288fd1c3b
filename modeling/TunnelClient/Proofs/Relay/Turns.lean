import TunnelClient.Proofs.Relay.Flow
import TunnelClient.Proofs.Session.Steps
import TunnelClient.Proofs.Wire.Seal

/-!
# Turns of a loop

What one step of a relay loop can be.  It takes an item in, passes one on, or ends the
loop, and it leaves the flow of the other loop alone; a loop that cannot go on hangs in a
call, has ended, or has nothing to take in.
-/

namespace TunnelClient

namespace Relay

variable {c : Setup} {key : PresharedKey} {d : Datagram} {p : Packet}

/-! ## What datagrams hold -/

/-- A datagram carries a packet: it opens under the key, and decodes to a Data frame. -/
def Carries (key : PresharedKey) (d : Datagram) (p : Packet) : Prop :=
  ∃ text, Seal.unwrap key d = .ok text ∧ Frame.decode text = .ok ⟨.data, p⟩

/-- The first stage at which a datagram fails, with its error. -/
inductive Fails (key : PresharedKey) (d : Datagram) : WireError → Prop
  | opening {e : WireError} (closed : Seal.unwrap key d = .error e) : Fails key d e
  | decoding {text : List UInt8} {e : WireError} (opened : Seal.unwrap key d = .ok text)
      (malformed : Frame.decode text = .error e) : Fails key d e
  | kind {text : List UInt8} {f : Frame} (opened : Seal.unwrap key d = .ok text)
      (decoded : Frame.decode text = .ok f) (other : f.kind ≠ .data) :
      Fails key d (.unexpectedKind .data f.kind)

theorem packetOf_spec (key : PresharedKey) (d : Datagram) :
    match packetOf key d with
    | .ok p => Carries key d p
    | .error e => Fails key d e := by
  rw [packetOf, Seal.unwrapFrame]
  cases hopen : Seal.unwrap key d with
  | error e => exact .opening hopen
  | ok text =>
      cases hdecode : Frame.decode text with
      | error e =>
          simp only [bind, Except.bind, hdecode]
          exact .decoding hopen hdecode
      | ok f =>
          by_cases data : f.kind = .data
          · simp only [bind, Except.bind, hdecode, Frame.expect, if_pos data, pure, Except.pure]
            exact ⟨text, hopen, by rw [hdecode, ← data]⟩
          · simp only [bind, Except.bind, hdecode, Frame.expect, if_neg data]
            exact .kind hopen hdecode data

theorem packetOf_of_carries (h : Carries key d p) : packetOf key d = .ok p := by
  obtain ⟨text, hopen, hdecode⟩ := h
  rw [packetOf, Seal.unwrapFrame, hopen]
  simp only [bind, Except.bind, hdecode, Frame.expect, if_true]
  rfl

theorem carries_of_wrapFrame {nonce : Nonce} (h : Seal.wrapFrame key nonce ⟨.data, p⟩ = .ok d) :
    Carries key d p :=
  ⟨_, Seal.unwrap_of_wrap h, Frame.decode_encode _⟩

theorem fits_encode (short : p.length ≤ Frame.maxDatagram) :
    Cipher.Aead.fits (Frame.encode ⟨.data, p⟩) = true := by
  rw [Cipher.Aead.fits, decide_eq_true_eq, Frame.length_encode]
  calc (p.length + Frame.headerLength) / 64
      ≤ (Frame.maxDatagram + Frame.headerLength) / 64 :=
        Nat.div_le_div_right (Nat.add_le_add_right short _)
    _ < Cipher.Aead.maxBlocks := by decide

/-! ## Turns of the loops -/

inductive DownlinkTurn (key : PresharedKey) (told : Bool) (events : List Event) (i i' : Inflow)
    (s s' : RelayStats) : Loop → Loop → Prop
  | stop (obeyed : told = true) (flow : i' = i) (counts : s' = s) :
      DownlinkTurn key told events i i' s s' .waiting (.ended none)
  | lose {e : HostError} (failed : .receiveFailed e ∈ events) (flow : i' = i) (counts : s' = s) :
      DownlinkTurn key told events i i' s s' .waiting (.ended (some (.ofHost e)))
  | take {whole : Datagram} {rest : List Datagram} {p : Packet} (queue : i.queued = whole :: rest)
      (carries : Carries key (cut whole) p)
      (flow : i' = { i with queued := rest, received := i.received ++ [cut whole] })
      (counts : s' = s) : DownlinkTurn key told events i i' s s' .waiting (.holding p)
  | reject {whole : Datagram} {rest : List Datagram} {e : WireError}
      (queue : i.queued = whole :: rest) (fails : Fails key (cut whole) e)
      (flow : i' = { i with queued := rest, received := i.received ++ [cut whole] })
      (counts : s' = s) :
      DownlinkTurn key told events i i' s s' .waiting (.ended (some (.ofWire e)))
  | write {p : Packet} (flow : i' = i.afterWrite p .done) (counts : s' = s.countDownlink p.length) :
      DownlinkTurn key told events i i' s s' (.holding p) .waiting
  | fail {p : Packet} {e : HostError} (flow : i' = i.afterWrite p (.failed e)) (counts : s' = s) :
      DownlinkTurn key told events i i' s s' (.holding p) (.ended (some (.ofHost e)))
  | hang {p : Packet} (flow : i' = i) (counts : s' = s) :
      DownlinkTurn key told events i i' s s' (.holding p) .stuck

inductive UplinkTurn (key : PresharedKey) (told : Bool) (events : List Event) (o o' : Outflow)
    (s s' : RelayStats) : Loop → Loop → Prop
  | stop (obeyed : told = true) (flow : o' = o) (counts : s' = s) :
      UplinkTurn key told events o o' s s' .waiting (.ended none)
  | lose {e : HostError} (failed : .readFailed e ∈ events) (flow : o' = o) (counts : s' = s) :
      UplinkTurn key told events o o' s s' .waiting (.ended (some (.ofHost e)))
  | take {whole : Packet} {rest : List Packet} (queue : o.unread = whole :: rest)
      (flow : o' = { o with unread := rest, read := o.read ++ [cut whole] }) (counts : s' = s) :
      UplinkTurn key told events o o' s s' .waiting (.holding (cut whole))
  | send {p : Packet} {d : Datagram} (carries : Carries key d p)
      (flow : o' = { o with sent := o.sent ++ [d] }) (counts : s' = s.countUplink p.length) :
      UplinkTurn key told events o o' s s' (.holding p) .waiting
  | fail {p : Packet} {e : HostError} (failed : .sendFailed e ∈ events) (flow : o' = o)
      (counts : s' = s) :
      UplinkTurn key told events o o' s s' (.holding p) (.ended (some (.ofHost e)))
  | hang {p : Packet} (flow : o' = o) (counts : s' = s) :
      UplinkTurn key told events o o' s s' (.holding p) .stuck

variable {told obey : Bool} {l l' : Loop} {t t' : Traffic}

theorem downlink_turn (opened : t.world.device.isSome = true)
    (h : downlinkStep c told obey l t = some (l', t')) :
    DownlinkTurn c.key told t'.world.events t.world.inflow t'.world.inflow t.stats t'.stats l l' ∧
      t'.world.outflow = t.world.outflow ∧ World.Relayed t.world t'.world := by
  cases l with
  | stuck | ended e => cases h
  | waiting =>
      rcases cancel_cases h with ⟨obeyed, rfl, rfl⟩ | hinput
      · exact ⟨.stop obeyed rfl rfl, rfl, World.Relayed.refl _⟩
      · rw [downlinkInput] at hinput
        have spec := World.receive?_spec t.world
        cases hreceive : t.world.receive? with
        | none => simp [hreceive] at hinput
        | some received =>
            obtain ⟨outcome, w⟩ := received
            obtain ⟨relayed, hevents⟩ := World.relayed_receive? hreceive
            rw [hreceive] at hinput spec
            cases outcome with
            | error e =>
                cases hinput
                refine ⟨.lose ?_ spec.1 rfl, spec.2, relayed⟩
                simp [hevents, World.receipt]
            | ok d =>
                obtain ⟨outflow, whole, rest, queue, rfl, inflow⟩ := spec
                have packet := packetOf_spec c.key (cut whole)
                simp only at hinput
                cases hpacket : packetOf c.key (cut whole) with
                | ok p =>
                    rw [hpacket] at packet hinput
                    cases hinput
                    exact ⟨.take queue packet inflow rfl, outflow, relayed⟩
                | error e =>
                    rw [hpacket] at packet hinput
                    cases hinput
                    exact ⟨.reject queue packet inflow rfl, outflow, relayed⟩
  | holding p =>
      have relayed := World.relayed_writePacket p t.world
      have spec := World.writePacket_spec p opened
      simp only [downlinkStep, downlinkOutput, Option.some.injEq] at h
      cases hwrite : t.world.writePacket p with
      | mk result w =>
          rw [hwrite] at relayed spec
          simp only [hwrite] at h
          cases result with
          | done =>
              cases h
              exact ⟨.write spec.1 rfl, spec.2, relayed⟩
          | hangs =>
              cases h
              exact ⟨.hang spec.1 rfl, spec.2, relayed⟩
          | failed e =>
              cases h
              exact ⟨.fail spec.1 rfl, spec.2, relayed⟩

theorem uplink_turn (short : ∀ p, l = .holding p → p.length ≤ Frame.maxDatagram)
    (h : uplinkStep c told obey l t = some (l', t')) :
    UplinkTurn c.key told t'.world.events t.world.outflow t'.world.outflow t.stats t'.stats l l' ∧
      t'.world.inflow = t.world.inflow ∧ World.Relayed t.world t'.world := by
  cases l with
  | stuck | ended e => cases h
  | waiting =>
      rcases cancel_cases h with ⟨obeyed, rfl, rfl⟩ | hinput
      · exact ⟨.stop obeyed rfl rfl, rfl, World.Relayed.refl _⟩
      · rw [uplinkInput] at hinput
        have spec := World.readPacket?_spec t.world
        cases hread : t.world.readPacket? with
        | none => simp [hread] at hinput
        | some reading =>
            obtain ⟨outcome, w⟩ := reading
            obtain ⟨relayed, hevents⟩ := World.relayed_readPacket? hread
            rw [hread] at hinput spec
            cases outcome with
            | error e =>
                cases hinput
                refine ⟨.lose ?_ spec.2 rfl, spec.1, relayed⟩
                simp [hevents, World.reading]
            | ok p =>
                obtain ⟨inflow, whole, rest, queue, rfl, outflow⟩ := spec
                cases hinput
                exact ⟨.take queue outflow rfl, inflow, relayed⟩
  | holding p =>
      obtain ⟨d, hwrap⟩ := Seal.exists_wrap c.key (c.nonces t.world.drawn)
        (fits_encode (short p rfl))
      have sealed := World.relayed_sealFrame c ⟨.data, p⟩ t.world
      have inflow : (t.world.sealFrame c ⟨.data, p⟩).2.inflow = t.world.inflow := rfl
      have outflow : (t.world.sealFrame c ⟨.data, p⟩).2.outflow = t.world.outflow := rfl
      simp only [uplinkStep, uplinkOutput, Option.some.injEq] at h
      cases hseal : t.world.sealFrame c ⟨.data, p⟩ with
      | mk outcome w =>
          obtain rfl : outcome = .ok d := (congrArg Prod.fst hseal).symm.trans hwrap
          obtain ⟨sent, hevents⟩ := World.relayed_send c d w
          obtain ⟨inflow', outflow'⟩ := World.send_spec c d w
          rw [hseal] at sealed inflow outflow
          rw [inflow] at inflow'
          rw [outflow] at outflow'
          simp only [hseal] at h
          cases hsend : w.send c d with
          | mk result w' =>
              simp only [hsend] at sent hevents inflow' outflow' h
              have relayed := sealed.trans sent
              cases result with
              | done =>
                  cases h
                  exact ⟨.send (carries_of_wrapFrame hwrap) outflow' rfl, inflow', relayed⟩
              | failed e =>
                  cases h
                  refine ⟨.fail ?_ outflow' rfl, inflow', relayed⟩
                  simp [hevents, World.sending]
              | hangs =>
                  cases h
                  exact ⟨.hang outflow' rfl, inflow', relayed⟩

/-! ## Loops at rest -/

private theorem cancel_eq_none {input : Option (Loop × Traffic)}
    (h : cancel told obey input t = none) : told = false ∧ input = none := by
  cases input with
  | some next =>
      simp only [cancel] at h
      split at h <;> cases h
  | none =>
      simp only [cancel] at h
      split at h
      · cases h
      · rename_i untold
        exact ⟨by simpa using untold, rfl⟩

theorem downlink_rest (h : downlinkStep c told obey l t = none) :
    l = .stuck ∨ (∃ e, l = .ended e) ∨
      l = .waiting ∧ told = false ∧ t.world.inflow.queued = [] := by
  cases l with
  | stuck => exact .inl rfl
  | ended e => exact .inr (.inl ⟨e, rfl⟩)
  | holding p => cases h
  | waiting =>
      obtain ⟨untold, none⟩ := cancel_eq_none h
      have spec := World.receive?_spec t.world
      rw [downlinkInput] at none
      cases hreceive : t.world.receive? with
      | none =>
          rw [hreceive] at spec
          exact .inr (.inr ⟨rfl, untold, spec⟩)
      | some received =>
          obtain ⟨outcome, w⟩ := received
          rw [hreceive] at none
          cases outcome with
          | error e => cases none
          | ok d => cases hpacket : packetOf c.key d <;> simp [hpacket] at none

theorem uplink_rest (h : uplinkStep c told obey l t = none) :
    l = .stuck ∨ (∃ e, l = .ended e) ∨
      l = .waiting ∧ told = false ∧ t.world.outflow.unread = [] := by
  cases l with
  | stuck => exact .inl rfl
  | ended e => exact .inr (.inl ⟨e, rfl⟩)
  | holding p => cases h
  | waiting =>
      obtain ⟨untold, none⟩ := cancel_eq_none h
      have spec := World.readPacket?_spec t.world
      rw [uplinkInput] at none
      cases hread : t.world.readPacket? with
      | none =>
          rw [hread] at spec
          exact .inr (.inr ⟨rfl, untold, spec⟩)
      | some reading =>
          obtain ⟨outcome, w⟩ := reading
          rw [hread] at none
          cases outcome <;> cases none

end Relay

end TunnelClient
