import StackForth.Machine.Trace

namespace StackForth

structure Machine where
  image   : Image
  state   : State := {}
  limit   : Option Int := none
  tracing : Bool := false
  output  : String := ""

inductive Machine.Ending
  | finished
  | failed (f : Failure)
  | unwritable
  | unfinished
deriving DecidableEq

def Stop.ending : Stop → Machine.Ending
  | .failure f  => .failed f
  | .unwritable => .unwritable

namespace Machine

def failure (m : Machine) (i : Instruction) (fault : Fault) : Failure where
  fault       := fault
  ip          := m.state.ip
  instruction := some i
  stack       := m.state.stack

def stop (m : Machine) (i : Instruction) (fault : Fault) : Stop :=
  if fault.writable then .failure (m.failure i fault) else .unwritable

def emit (m : Machine) (text : String) : Machine :=
  { m with output := m.output ++ text }

-- The machine and the answer after what a step came to. The answer says whether there is more to
-- execute. A failed instruction leaves all but the number of steps as it was.
def after (m : Machine) : Step → Machine × Except Stop Bool
  | .rest            => (m, .ok false)
  | .refused i fault => (m, .error (m.stop i fault))
  | .failed i fault  =>
    ({ m with state := { m.state with steps := m.state.steps + 1 } }, .error (m.stop i fault))
  | .next _ s        => ({ m with state := s }, .ok (s.running m.image.program))

-- Executes one instruction. With tracing on, one that has to be recorded and cannot be written is not
-- executed, and it does not count.
def step (m : Machine) : Machine × Except Stop Bool :=
  let step := m.state.step m.image m.limit
  if m.tracing then
    match step.trace? m.state with
    | some text => (m.emit text).after step
    | none      => (m, .error .unwritable)
  else
    m.after step

def run : Nat → Machine → Machine × Ending
  | 0,        m => (m, .unfinished)
  | fuel + 1, m =>
    match m.step with
    | (m, .ok true)    => run fuel m
    | (m, .ok false)   => (m, .finished)
    | (m, .error stop) => (m, stop.ending)

-- The fuel for a run. A step limit bounds the run by itself; without one it is the given bound.
def horizon (m : Machine) (bound : Nat) : Nat :=
  match m.limit with
  | some n => n.toNat + 1
  | none   => bound

def runToEnd (bound : Nat) (m : Machine) : Machine × Ending :=
  m.run (m.horizon bound)

def install (m : Machine) (entries : Entries) : Machine × Except (Failure ⊕ Refusal) Unit :=
  if m.state.steps ≠ 0 then
    (m, .error (.inl ⟨.dictionaryLocked, m.state.ip, none, m.state.stack⟩))
  else
    match Dictionary.ofEntries entries with
    | .error r => (m, .error (.inr r))
    | .ok d    =>
      ({ m with image := { m.image with dictionary := m.image.dictionary.merge d } }, .ok ())

end Machine

end StackForth
