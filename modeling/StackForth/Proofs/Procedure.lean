import StackForth.Proofs.Run

/-!
Instructions carried out in place, one action after the other. An action that fails leaves the state
as the actions before it have made it. A step of a machine comes to the same state or fault, so none
of its actions reaches for what is not there, and only the count changes in front of one that fails.
-/

namespace StackForth

-- What stops a procedure: a fault, a text that cannot be written, or a reach for something that is not
-- there.
inductive Trap
  | fault (f : Fault)
  | unwritable
  | stray
deriving DecidableEq

def Fault.trap (f : Fault) : Trap :=
  if f.writable then .fault f else .unwritable

abbrev Procedure := EStateM Trap State

namespace Procedure

def count : Procedure Unit :=
  modify fun s => { s with steps := s.steps + 1 }

def advance : Procedure Unit :=
  modify fun s => { s with ip := s.ip + 1 }

def top : Procedure Int := do
  match (← get).stack with
  | []     => throw .stray
  | n :: _ => return n

def pop : Procedure Int := do
  let n ← top
  modify fun s => { s with stack := s.stack.tail }
  return n

def push (n : Int) : Procedure Unit :=
  modify fun s => { s with stack := n :: s.stack }

def branch (size : Nat) (target : Int) : Procedure Unit :=
  if 0 ≤ target ∧ target ≤ size
  then modify fun s => { s with ip := target.toNat }
  else throw (Fault.branchOutside target size).trap

def enter (size address : Nat) : Procedure Unit := do
  if address ≤ size then
    modify fun s => { s with returns := (s.ip + 1) :: s.returns }
    modify fun s => { s with ip := address }
  else
    throw (Fault.callOutside address size).trap

def leave : Procedure Unit := do
  match (← get).returns with
  | []           => throw Fault.emptyReturnStack.trap
  | r :: returns =>
    modify fun s => { s with returns }
    modify fun s => { s with ip := r }

def fetch (program : Program) : Procedure Instruction := do
  match program[(← get).ip]? with
  | some i => return i
  | none   => throw .stray

end Procedure

open Procedure

def Primitive.procedure : Primitive → Procedure Unit
  | .add     => do let b ← pop; let a ← pop; push (Cell.wrap (a + b))
  | .mul     => do let b ← pop; let a ← pop; push (Cell.wrap (a * b))
  | .dup     => do let a ← top; push a
  | .drop    => do let _ ← pop
  | .swap    => do let b ← pop; let a ← pop; push b; push a
  | .over    => do let b ← pop; let a ← top; push b; push a
  | .rot     => do let c ← pop; let b ← pop; let a ← pop; push b; push c; push a
  | .nip     => do let b ← pop; let _ ← pop; push b
  | .tuck    => do let b ← pop; let a ← pop; push b; push a; push b
  | .twoDup  => do let b ← pop; let a ← top; push b; push a; push b
  | .twoDrop => do let _ ← pop; let _ ← pop
  | .twoSwap => do
    let d ← pop; let c ← pop; let b ← pop; let a ← pop
    push c; push d; push a; push b
  | .depth   => do push (← get).stack.length

-- A branch on zero looks at the target before it takes the cell away.
def Instruction.procedure (image : Image) : Instruction → Procedure Unit
  | .prim p       => do p.procedure; advance
  | .push v       => do Procedure.push v.toInt; advance
  | .jump k _     => do branch image.program.size ((← get).ip + k)
  | .ifZero k     => do
    if (← top) = 0 then
      branch image.program.size ((← get).ip + k)
      let _ ← pop
    else
      let _ ← pop
      advance
  | .call a       => enter image.program.size a
  | .callWord w _ =>
    match image.dictionary.find? w with
    | some a => enter image.program.size a
    | none   => throw (Fault.unknownWord w).trap
  | .ret          => leave
  | .halt         => modify fun s => { s with halted := true }

namespace Procedure

def keepLimit : Option Int → Procedure Unit
  | none   => pure ()
  | some n => do if n ≤ (← get).steps then throw (Fault.stepLimit n).trap

def demandCells (i : Instruction) : Procedure Unit := do
  let depth := (← get).stack.length
  if depth < i.needs then throw (Fault.stackUnderflow i.opcode i.needs depth).trap

def record (tracing : Bool) (i : Instruction) : Procedure Unit := do
  if tracing && !i.writable then throw .unwritable

-- The instruction counts before it is carried out. The answer says whether there is more to do.
def attempt (image : Image) (tracing : Bool) (i : Instruction) : Procedure Bool := do
  demandCells i
  record tracing i
  count
  i.procedure image
  return (← get).running image.program

def step (image : Image) (limit : Option Int) (tracing : Bool) : Procedure Bool := do
  let s ← get
  if s.halted ∨ image.program.size ≤ s.ip then
    return false
  else
    let i ← fetch image.program
    keepLimit limit
    attempt image tracing i

end Procedure

namespace Procedure

def settle (s : State) : Except Fault State → EStateM.Result Trap State Unit
  | .ok t    => .ok () t
  | .error f => .error f.trap s

theorem run_branch (s : State) (size : Nat) (k : Int) :
    (branch size (s.ip + k)).run s = settle s (s.branch size k) := by
  simp only [branch, State.branch]
  split <;> rfl

theorem run_enter (s : State) (size address : Nat) :
    (enter size address).run s = settle s (s.enter size address) := by
  simp only [enter, State.enter]
  split <;> rfl

end Procedure

-- The procedure of an operation that finds fewer cells than it needs takes them all and strays.
theorem Primitive.run_procedure (p : Primitive) (s : State) :
    p.procedure.run s =
      if p.needs ≤ s.stack.length then .ok () { s with stack := p.effect s.stack }
      else .error .stray { s with stack := [] } := by
  obtain ⟨stack, returns, ip, steps, halted⟩ := s
  match stack with
  | []                    => cases p <;> rfl
  | [_]                   => cases p <;> rfl
  | [_, _]                => cases p <;> rfl
  | [_, _, _]             => cases p <;> rfl
  | _ :: _ :: _ :: _ :: _ => cases p <;> rfl

namespace Instruction

theorem run_procedure_ifZero (image : Image) (s : State) (k : Int) :
    ((ifZero k).procedure image).run s =
      if 1 ≤ s.stack.length then settle s (s.execute image (.ifZero k))
      else .error .stray { s with stack := [] } := by
  obtain ⟨_ | ⟨n, stack⟩, returns, ip, steps, halted⟩ := s
  case nil  => rfl
  case cons =>
    by_cases hn : n = 0
    case neg => simp [procedure, State.execute, hn, top, pop, advance, settle]
    case pos =>
      by_cases ht : 0 ≤ ip + k ∧ ip + k ≤ image.program.size <;>
        simp [procedure, State.execute, State.branch, Procedure.branch, hn, ht, top, pop, settle]

theorem run_procedure (i : Instruction) (image : Image) (s : State) :
    (i.procedure image).run s =
      if i.needs ≤ s.stack.length then settle s (s.execute image i)
      else .error .stray { s with stack := [] } := by
  cases i
  case push         => rfl
  case halt         => rfl
  case jump k _     => exact run_branch s image.program.size k
  case ifZero k     => exact run_procedure_ifZero image s k
  case call a       => exact run_enter s image.program.size a
  case ret          => obtain ⟨_, _ | _⟩ := s <;> rfl
  case callWord w _ =>
    simp only [procedure, State.execute]
    cases image.dictionary.find? w
    case none   => rfl
    case some a => exact run_enter s image.program.size a
  case prim p =>
    simp only [procedure, EStateM.run_bind, p.run_procedure]
    by_cases h : p.needs ≤ s.stack.length
    case pos => simp [needs, h, advance, State.execute, settle]
    case neg => simp [needs, h]

end Instruction

def Step.result (image : Image) (s : State) : Step → EStateM.Result Trap State Bool
  | .rest        => .ok false s
  | .refused _ f => .error f.trap s
  | .failed _ f  => .error f.trap { s with steps := s.steps + 1 }
  | .next _ t    => .ok (t.running image.program) t

def Step.recorded (image : Image) (tracing : Bool) (s : State) (step : Step) :
    EStateM.Result Trap State Bool :=
  if tracing && step.counted?.any (!·.writable) then .error .unwritable s
  else step.result image s

namespace State

theorem branch_steps (s : State) (size : Nat) (k : Int) (n : Nat) :
    { s with steps := n }.branch size k =
      (s.branch size k).map fun t => { t with steps := n } := by
  simp only [branch]
  split <;> rfl

theorem enter_steps (s : State) (size address n : Nat) :
    { s with steps := n }.enter size address =
      (s.enter size address).map fun t => { t with steps := n } := by
  simp only [enter]
  split <;> rfl

theorem execute_steps (s : State) (image : Image) (i : Instruction) (n : Nat) :
    { s with steps := n }.execute image i =
      (s.execute image i).map fun t => { t with steps := n } := by
  cases i
  case prim         => rfl
  case push         => rfl
  case halt         => rfl
  case jump k _     => exact s.branch_steps image.program.size k n
  case call a       => exact s.enter_steps image.program.size a n
  case ret          => obtain ⟨_, _ | _⟩ := s <;> rfl
  case callWord w _ =>
    simp only [execute]
    cases image.dictionary.find? w
    case none   => rfl
    case some a => exact s.enter_steps image.program.size a n
  case ifZero k     =>
    simp only [execute]
    split
    case isTrue  => exact { s with stack := s.stack.tail }.branch_steps image.program.size k n
    case isFalse => rfl

end State

namespace Procedure

theorem run_fetch {program : Program} {s : State} {i : Instruction} (h : program[s.ip]? = some i) :
    (fetch program).run s = .ok i s := by
  simp only [fetch, EStateM.run_bind, EStateM.run_get]
  rw [h]
  rfl

theorem run_record (tracing : Bool) (i : Instruction) (s : State) :
    (record tracing i).run s =
      if tracing && !i.writable then .error .unwritable s else .ok () s := by
  simp only [record]
  split <;> rfl

theorem run_attempt (image : Image) (tracing : Bool) (s : State) (i : Instruction) :
    (attempt image tracing i).run s = (s.attempt image i).recorded image tracing s := by
  simp only [attempt, demandCells, State.attempt, reaches_iff]
  by_cases h : i.needs ≤ s.stack.length
  case neg => simp [h, Nat.lt_of_not_le h, Step.recorded, Step.counted?, Step.result]
  case pos =>
    simp only [h, Nat.not_lt_of_le h, count, run_record, i.run_procedure, State.execute_steps, if_true,
      if_false, EStateM.run_bind, EStateM.run_get, EStateM.run_modify, EStateM.run_pure]
    cases long : tracing && !i.writable <;> cases executed : s.execute image i <;>
      simp [Step.recorded, Step.counted?, Step.result, Except.map, settle, h, long, executed]

theorem run_step (image : Image) (limit : Option Int) (tracing : Bool) (s : State) :
    (step image limit tracing).run s = (s.step image limit).recorded image tracing s := by
  simp only [step, EStateM.run_bind, EStateM.run_get]
  split
  case isTrue done =>
    have current : s.current? image.program = none := by
      cases done
      case inl halted => simp [State.current?, halted]
      case inr past   => simp [State.current?, past]
    simp [State.step, current, Step.recorded, Step.counted?, Step.result]
  case isFalse running =>
    obtain ⟨awake, inside⟩ := not_or.mp running
    have hi : image.program[s.ip]? = some image.program[s.ip] :=
      Array.getElem?_eq_getElem (Nat.lt_of_not_le inside)
    have current : s.current? image.program = image.program[s.ip]? := if_neg awake
    rw [EStateM.run_bind, run_fetch hi, State.step, current.trans hi]
    cases limit
    case none   => exact run_attempt image tracing s _
    case some n =>
      by_cases hn : n ≤ s.steps
      case pos => simp [keepLimit, hn, Step.recorded, Step.counted?, Step.result]
      case neg => simp [keepLimit, hn, run_attempt]

end Procedure

namespace Machine

def outcome : Machine × Except Stop Bool → EStateM.Result Trap State Bool
  | (n, .ok more)            => .ok more n.state
  | (n, .error (.failure f)) => .error (.fault f.fault) n.state
  | (n, .error .unwritable)  => .error .unwritable n.state

theorem outcome_ne_stray (r : Machine × Except Stop Bool) (s : State) :
    outcome r ≠ .error .stray s := by
  obtain ⟨n, (_ | _) | _⟩ := r <;> simp [outcome]

theorem outcome_stop (n m : Machine) (i : Instruction) (f : Fault) :
    outcome (n, .error (m.stop i f)) = .error f.trap n.state := by
  simp only [stop, Fault.trap]
  split <;> rfl

theorem outcome_after (m : Machine) (step : Step) :
    outcome (m.after step) = step.result m.image m.state := by
  cases step
  case rest         => rfl
  case refused i f  => exact m.outcome_stop m i f
  case failed i f   => exact outcome_stop _ m i f
  case next         => rfl

-- A step of a machine, carried out in place, never strays and comes to the same state.
theorem step_procedure (m : Machine) :
    (Procedure.step m.image m.limit m.tracing).run m.state = outcome m.step := by
  rw [Procedure.run_step, Step.recorded]
  by_cases balks : m.Balks
  case pos =>
    obtain ⟨traced, i, counted, long⟩ := balks
    rw [step_of_balks ⟨traced, i, counted, long⟩]
    simp [traced, counted, long, outcome]
  case neg =>
    have ⟨output, hm⟩ := step_of_not_balks balks
    have quiet : (m.tracing && (m.state.step m.image m.limit).counted?.any (!·.writable)) = false := by
      simpa [Balks, CountsLong, Option.any_eq_false] using balks
    rw [hm, outcome_after, quiet]
    rfl

end Machine

end StackForth
