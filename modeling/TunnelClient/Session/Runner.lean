import TunnelClient.Session.Stimulus

/-!
# Runners

Things that run on a clock of their own.  Stimuli come in batches: what comes at
one moment comes before anything runs, and only time that passes lets the tasks
run in between.
-/

namespace TunnelClient

/-- What a scheduler needs of a thing that runs.  `settle` lets every task run until it waits, those
that were woken first, and `deadline?` is the next moment at which one of them goes on by itself. -/
structure Runner (σ : Type) where
  has : Need → σ → Bool
  isBorn : Role → σ → Bool
  feel : Stimulus → σ → σ
  settle : List Role → σ → σ
  clock : σ → Nat
  deadline? : σ → Option Nat

structure Batch (σ : Type) where
  state : σ
  woken : List Role := []
  lacking : List Need := []

namespace Runner

def elapse (R : Runner σ) (target : Nat) (s : σ) : σ := R.feel (.elapse (target - R.clock s)) s

/-- Moves the clock to `target`, with a stop at each of at most `stops` deadlines before it. -/
def advanceTo (R : Runner σ) (target : Nat) : Nat → σ → σ
  | 0, s => R.elapse target s
  | stops + 1, s =>
    match R.deadline? s with
    | some deadline =>
      if deadline < target then
        advanceTo R target stops (R.settle [] (R.elapse deadline s))
      else R.elapse target s
    | none => R.elapse target s

def stops : Nat := 8

def pass (R : Runner σ) (milliseconds : Nat) (b : Batch σ) : Batch σ :=
  let s := R.settle b.woken b.state
  { b with state := R.advanceTo (R.clock s + milliseconds) stops s, woken := [] }

def wake (R : Runner σ) (x : Stimulus) (b : Batch σ) : Batch σ :=
  let born := x.wakes.toList.filter fun role => R.isBorn role b.state
  { b with state := R.feel x b.state, woken := b.woken ++ born }

/-- No time at all lets nothing run. -/
def take (R : Runner σ) (b : Batch σ) (x : Stimulus) : Batch σ :=
  match x.need?.filter fun need => !R.has need b.state with
  | some need => { b with lacking := b.lacking ++ [need] }
  | none =>
    match x with
    | .elapse 0 => b
    | .elapse milliseconds => R.pass milliseconds b
    | x => R.wake x b

def apply (R : Runner σ) (xs : List Stimulus) (s : σ) : σ × List Need :=
  let b := xs.foldl R.take { state := s }
  (R.settle b.woken b.state, b.lacking)

end Runner

end TunnelClient
