import TunnelClient.Session.Handshake
import TunnelClient.Session.Relay
import TunnelClient.Session.Stimulus

/-!
# Sessions

A whole session: the handshake, then three tasks that relay and listen until the
first of them reports, then the teardown.  The tasks and their coordinator move
one step at a time, in any order that a scheduler picks.
-/

namespace TunnelClient

/-! ## State -/

structure Report where
  address : TunnelAddress
  cause : Cause
  restore : RestoreReport
  stats : RelayStats
  deriving DecidableEq, Repr

def Report.isClean (r : Report) : Bool := r.cause.isSignal && r.restore.isClean

/-- A task before, while and after it runs.  One that has something to report waits for room in
the channel. -/
inductive Worker (σ : Type) where
  | unborn
  | running (state : σ)
  | reporting (cause : Cause)
  | finished
  deriving DecidableEq, Repr

def Worker.isBorn : Worker σ → Bool
  | unborn => false
  | _ => true

def Worker.isOver : Worker σ → Bool
  | finished => true
  | _ => false

inductive Listening where
  | fresh
  | waiting
  deriving DecidableEq, Repr

inductive Coordinator where
  | fresh
  | handshaking (h : Handshake)
  | awaiting (t : Tunnel)
  | joining (t : Tunnel) (cause : Cause) (role : Role) (deadline : Nat)
  | finished (outcome : Except ClientError Report)

/-- `subscribers` holds the tasks that listen for the shutdown message, and `told` those that have
it before them.  A task in `abandoned` is not waited for any more; it stops when it waits next, and
until then it may go on. -/
structure Session where
  traffic : Traffic
  trigger : Trigger := {}
  phase : Phase := .disconnected
  coordinator : Coordinator := .fresh
  uplink : Worker Loop := .unborn
  downlink : Worker Loop := .unborn
  listener : Worker Listening := .unborn
  subscribers : List Role := []
  told : List Role := []
  abandoned : List Role := []
  channel : List Cause := []

namespace Session

def channelCapacity : Nat := 3

/-- How long the teardown waits for each task, in milliseconds. -/
def joinTimeout : Nat := 5000

def world (s : Session) : World := s.traffic.world

def withWorld (w : World) (s : Session) : Session :=
  { s with traffic := { s.traffic with world := w } }

def record (e : Event) (s : Session) : Session := s.withWorld (s.world.record e)

def isOver (role : Role) (s : Session) : Bool :=
  match role with
  | .uplink => s.uplink.isOver
  | .downlink => s.downlink.isOver
  | .listener => s.listener.isOver

def abandon (role : Role) (s : Session) : Session :=
  { s with abandoned := s.abandoned ++ [role] }.record (.abandoned role)

def enter (next : Phase) (s : Session) : Except ClientError Session :=
  match s.phase.become next with
  | .ok phase => .ok ({ s with phase := phase }.record (.entered phase))
  | .error e => .error e

def finish (outcome : Except ClientError Report) (s : Session) : Session :=
  { s with coordinator := .finished outcome }

/-! ## Start -/

def spawn (s : Session) : Session :=
  { s with
    uplink := .running .waiting
    downlink := .running .waiting
    listener := .running .fresh
    subscribers := [.uplink, .downlink, .listener] }

/-- What follows the handshake: the three tasks, or the end. -/
def conclude (outcome : Except ClientError Tunnel) (s : Session) : Session :=
  match outcome with
  | .error e =>
    match s.enter .closed with
    | .error e' => s.finish (.error e')
    | .ok s => (s.withWorld s.world.closeSocket).finish (.error e)
  | .ok tunnel =>
    match s.enter .established with
    | .error e => s.finish (.error e)
    | .ok s => { s.spawn with coordinator := .awaiting tunnel }

def afterHandshake (h : Handshake) (s : Session) : Session :=
  match h with
  | .finished outcome => s.conclude outcome
  | h => { s with coordinator := .handshaking h }

def start (c : Setup) (s : Session) : Session :=
  match s.enter .handshaking with
  | .error e => s.finish (.error e)
  | .ok s =>
    let (h, w) := Handshake.start c s.world
    (s.withWorld w).afterHandshake h

/-! ## Tasks -/

def afterLoop (report : ClientError → Cause) : Loop → Worker Loop
  | .ended none => .finished
  | .ended (some e) => .reporting (report e)
  | l => .running l

def post? (cause : Cause) (s : Session) : Option Session :=
  if s.channel.length < channelCapacity then
    some ({ s with channel := s.channel ++ [cause] }.record (.reported cause))
  else none

def stepUplink (c : Setup) (obey : Bool) (s : Session) : Option Session :=
  match s.uplink with
  | .running l =>
    (Relay.uplinkStep c (s.told.contains .uplink) obey l s.traffic).map fun (l, t) =>
      { s with uplink := afterLoop .uplink l, traffic := t }
  | .reporting cause => (s.post? cause).map fun s => { s with uplink := .finished }
  | _ => none

def stepDownlink (c : Setup) (obey : Bool) (s : Session) : Option Session :=
  match s.downlink with
  | .running l =>
    (Relay.downlinkStep c (s.told.contains .downlink) obey l s.traffic).map fun (l, t) =>
      { s with downlink := afterLoop .downlink l, traffic := t }
  | .reporting cause => (s.post? cause).map fun s => { s with downlink := .finished }
  | _ => none

def stepListener (obey : Bool) (s : Session) : Option Session :=
  let told := s.told.contains .listener
  match s.listener with
  | .running .fresh =>
    if told && obey then some { s with listener := .finished }
    else
      match s.trigger.take with
      | .ok trigger => some { s with trigger := trigger, listener := .running .waiting }
      | .error e => some { s with listener := .reporting (.signalFailed e) }
  | .running .waiting =>
    match s.trigger.request? with
    | some r =>
      if told && obey then some { s with listener := .finished }
      else some { s with listener := .reporting (.signal r) }
    | none => if told then some { s with listener := .finished } else none
  | .reporting cause => (s.post? cause).map fun s => { s with listener := .finished }
  | _ => none

/-! ## Teardown -/

def beginTeardown (t : Tunnel) (cause : Cause) (s : Session) : Session :=
  match s.enter .terminating with
  | .error e => s.finish (.error e)
  | .ok s =>
    { s.record .broadcast with
      told := s.subscribers
      coordinator := .joining t cause .uplink (s.world.clock + joinTimeout) }

def endTeardown (t : Tunnel) (cause : Cause) (s : Session) : Session :=
  let (restore, w) := Detour.restore World.router t.snapshot s.world.bringDown.closeSocket
  let s := s.withWorld w
  match s.enter .closed with
  | .error e => s.finish (.error e)
  | .ok s => s.finish (.ok ⟨t.address, cause, restore, s.traffic.stats⟩)

def joinNext (t : Tunnel) (cause : Cause) (role : Role) (s : Session) : Session :=
  let wait (next : Role) : Session :=
    { s with coordinator := .joining t cause next (s.world.clock + joinTimeout) }
  match role with
  | .uplink => wait .downlink
  | .downlink => wait .listener
  | .listener => s.endTeardown t cause

def stepCoordinator (c : Setup) (s : Session) : Option Session :=
  match s.coordinator with
  | .handshaking h =>
    (h.step c s.world).map fun (h, w) => (s.withWorld w).afterHandshake h
  | .awaiting t =>
    match s.channel with
    | cause :: rest => some ({ s with channel := rest }.beginTeardown t cause)
    | [] =>
      if s.uplink.isOver && s.downlink.isOver && s.listener.isOver then
        some (s.beginTeardown t .aborted)
      else none
  | .joining t cause role deadline =>
    if s.isOver role then some (s.joinNext t cause role)
    else if deadline ≤ s.world.clock then some ((s.abandon role).joinNext t cause role)
    else none
  | .fresh | .finished _ => none

/-! ## Moves -/

def feel (x : Stimulus) (s : Session) : Session :=
  match x with
  | .request r => { s with trigger := s.trigger.fire r }
  | .dropTrigger => { s with trigger := s.trigger.drop }
  | x => s.withWorld (s.world.feel x)

/-- One thing that can happen to a session.  `obey` says what a task sees first if it is told to
stop and has input at once. -/
inductive Move where
  | stimulus (x : Stimulus)
  | task (role : Role) (obey : Bool)
  | coordinator
  deriving DecidableEq, Repr

def stepRole (c : Setup) (role : Role) (obey : Bool) (s : Session) : Option Session :=
  match role with
  | .uplink => s.stepUplink c obey
  | .downlink => s.stepDownlink c obey
  | .listener => s.stepListener obey

def move (c : Setup) (s : Session) : Move → Session
  | .stimulus x => s.feel x
  | .task role obey => (s.stepRole c role obey).getD s
  | .coordinator => (s.stepCoordinator c).getD s

def run (c : Setup) (s : Session) (moves : List Move) : Session := moves.foldl (move c) s

def dump (c : Setup) (s : Session) : String :=
  "Client \x7b peer: " ++ c.peer.text ++ ", device: " ++ Text.Quoted.quote c.device.name
    ++ ", state: " ++ s.phase.name ++ " \x7d"

end Session

end TunnelClient
