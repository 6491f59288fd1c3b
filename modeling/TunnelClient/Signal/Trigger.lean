import TunnelClient.Failure.Client

/-!
# Requests to end

Requests to end a session.  A trigger asks once; its signal can be waited on
once, and a trigger that is dropped leaves the one who waits waiting for ever.
-/

namespace TunnelClient

inductive TerminateRequest where
  | interrupt
  | terminate
  deriving DecidableEq, Repr

def TerminateRequest.all : List TerminateRequest := [interrupt, terminate]

def TerminateRequest.text : TerminateRequest → String
  | interrupt => "interrupt"
  | terminate => "terminate"

inductive TriggerState where
  | armed
  | fired (request : TerminateRequest)
  | dropped
  deriving DecidableEq, Repr

/-- `taken` is set once somebody has begun to wait. -/
structure Trigger where
  state : TriggerState := .armed
  taken : Bool := false
  deriving DecidableEq, Repr

namespace Trigger

def consumed : Trigger := ⟨.fired .interrupt, true⟩

def isGone (t : Trigger) : Bool := t.state != .armed

def fire (request : TerminateRequest) (t : Trigger) : Trigger :=
  if t.isGone then t else { t with state := .fired request }

def drop (t : Trigger) : Trigger := if t.isGone then t else { t with state := .dropped }

def consumedError : ClientError := .signal "signal already consumed"

def take (t : Trigger) : Except ClientError Trigger :=
  if t.taken then .error consumedError else .ok { t with taken := true }

def request? (t : Trigger) : Option TerminateRequest :=
  match t.state with
  | .fired request => some request
  | _ => none

end Trigger

/-! ## Calls that wait -/

inductive WaitResult where
  | request (r : TerminateRequest)
  | failed (e : ClientError)
  deriving DecidableEq, Repr

/-- One call waits at a time and the others queue behind it. -/
structure TriggerCalls where
  trigger : Trigger := {}
  waiting : Option Nat := none
  queue : List Nat := []
  returned : List (Nat × WaitResult) := []
  deriving DecidableEq, Repr

namespace TriggerCalls

def finish (caller : Nat) (r : WaitResult) (c : TriggerCalls) : TriggerCalls :=
  { c with returned := c.returned ++ [(caller, r)] }

def start (c : TriggerCalls) (caller : Nat) : TriggerCalls :=
  match c.waiting with
  | some _ => { c with queue := c.queue ++ [caller] }
  | none =>
    match c.trigger.take with
    | .error e => c.finish caller (.failed e)
    | .ok trigger =>
      match trigger.request? with
      | some r => { c with trigger := trigger }.finish caller (.request r)
      | none => { c with trigger := trigger, waiting := some caller }

def advance (c : TriggerCalls) : TriggerCalls :=
  c.queue.foldl start { c with waiting := none, queue := [] }

def wait (caller : Nat) (c : TriggerCalls) : TriggerCalls := c.start caller

def fire (r : TerminateRequest) (c : TriggerCalls) : TriggerCalls :=
  let fired := { c with trigger := c.trigger.fire r }
  match c.waiting, fired.trigger.request? with
  | some caller, some r => (fired.finish caller (.request r)).advance
  | _, _ => fired

def drop (c : TriggerCalls) : TriggerCalls := { c with trigger := c.trigger.drop }

/-- Abandons a call; one that had begun to wait has used up the signal. -/
def cancel (caller : Nat) (c : TriggerCalls) : TriggerCalls :=
  if c.waiting = some caller then c.advance
  else { c with queue := c.queue.filter (· != caller) }

end TriggerCalls

/-! ## Signals of the operating system -/

structure OsSignals where
  interrupt : Bool := false
  terminate : Bool := false
  deriving DecidableEq, Repr

namespace OsSignals

def raise (s : OsSignals) (r : TerminateRequest) : OsSignals :=
  match r with
  | .interrupt => { s with interrupt := true }
  | .terminate => { s with terminate := true }

def receive? (s : OsSignals) : Option (TerminateRequest × OsSignals) :=
  if s.interrupt then some (.interrupt, { s with interrupt := false })
  else if s.terminate then some (.terminate, { s with terminate := false })
  else none

def receiveEach : List TerminateRequest → OsSignals → List TerminateRequest
  | [], _ => []
  | r :: rest, s =>
    match (s.raise r).receive? with
    | some (received, s) => received :: receiveEach rest s
    | none => receiveEach rest (s.raise r)

def dump : String := "OsSignals"

end OsSignals

end TunnelClient
