import TunnelClient.Session.Run
import TunnelClient.Session.Runner

/-!
# A fair scheduler

A fair scheduler: every task runs until it waits, tasks that were woken first go
first, and the coordinator follows.
-/

namespace TunnelClient

/-- Repeats a step until there is none, at most `fuel` times. -/
def iterate (step : σ → Option σ) : Nat → σ → σ
  | 0, s => s
  | fuel + 1, s =>
    match step s with
    | some next => iterate step fuel next
    | none => s

def firstStep (steps : List (σ → Option σ)) (s : σ) : Option σ := steps.findSome? fun f => f s

def roleOrder (woken : List Role) : List Role :=
  (woken ++ [Role.uplink, Role.downlink, Role.listener]).eraseDups

def World.unread (w : World) : Nat := (w.device.map fun d => d.inbound.length).getD 0

/-- More steps than the input at hand can cause. -/
def World.backlog (w : World) : Nat := 2 * w.unread + 2 * w.socket.inbound.length + 40

/-! ## Sessions -/

namespace Session

def settle (c : Setup) (woken : List Role) (s : Session) : Session :=
  let tasks := (roleOrder woken).map fun role s => stepRole c role false s
  iterate (firstStep (tasks ++ [stepCoordinator c])) s.world.backlog s

def deadline? (s : Session) : Option Nat :=
  match s.coordinator with
  | .handshaking (.waiting deadline) => some deadline
  | .joining _ _ _ deadline => some deadline
  | _ => none

def has (need : Need) (s : Session) : Bool :=
  match need with
  | .device => s.world.device.isSome
  | .trigger => !s.trigger.isGone
  | .shutdownChannel => false

def isBorn (role : Role) (s : Session) : Bool :=
  match role with
  | .uplink => s.uplink.isBorn
  | .downlink => s.downlink.isBorn
  | .listener => s.listener.isBorn

def runner (c : Setup) : Runner Session where
  has := has
  isBorn := isBorn
  feel := feel
  settle := settle c
  clock s := s.world.clock
  deadline? := deadline?

end Session

/-! ## A handshake on its own -/

structure HandshakeRun where
  handshake : Handshake
  world : World

namespace HandshakeRun

def start (c : Setup) (w : World) : HandshakeRun :=
  let (h, w) := Handshake.start c w
  ⟨h, w⟩

def step (c : Setup) (r : HandshakeRun) : Option HandshakeRun :=
  (r.handshake.step c r.world).map fun (h, w) => ⟨h, w⟩

def settle (c : Setup) (r : HandshakeRun) : HandshakeRun := iterate (step c) r.world.backlog r

def deadline? (r : HandshakeRun) : Option Nat :=
  match r.handshake with
  | .waiting deadline => some deadline
  | .stuck | .finished _ => none

def has (need : Need) (r : HandshakeRun) : Bool := need = .device && r.world.device.isSome

def runner (c : Setup) : Runner HandshakeRun where
  has := has
  isBorn _ _ := false
  feel x r := { r with world := r.world.feel x }
  settle _ := settle c
  clock r := r.world.clock
  deadline? := deadline?

end HandshakeRun

/-! ## A relay on its own -/

namespace RelayRun

def settle (c : Setup) (woken : List Role) (r : RelayRun) : RelayRun :=
  let step (role : Role) (r : RelayRun) : Option RelayRun :=
    match role with
    | .uplink => r.stepUplink c false
    | .downlink => r.stepDownlink c false
    | .listener => none
  iterate (firstStep ((roleOrder woken).map step)) r.traffic.world.backlog r

def has (need : Need) (r : RelayRun) : Bool :=
  match need with
  | .device => r.traffic.world.device.isSome
  | .trigger => false
  | .shutdownChannel => !r.told

def feel (x : Stimulus) (r : RelayRun) : RelayRun :=
  match x with
  | .stop => { r with told := true }
  | x => { r with traffic := { r.traffic with world := r.traffic.world.feel x } }

def runner (c : Setup) : Runner RelayRun where
  has := has
  isBorn _ _ := true
  feel := feel
  settle := settle c
  clock r := r.traffic.world.clock
  deadline? _ := none

end RelayRun

end TunnelClient
