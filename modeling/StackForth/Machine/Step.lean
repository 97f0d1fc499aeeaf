import StackForth.Machine.Fault

namespace StackForth

-- What changes while a program runs. Both stacks have their top first.
@[ext]
structure State where
  stack   : List Int := []
  returns : List Nat := []
  ip      : Nat := 0
  steps   : Nat := 0
  halted  : Bool := false
deriving DecidableEq

def reaches : Nat → List Int → Bool
  | 0,     _      => true
  | _ + 1, []     => false
  | n + 1, _ :: s => reaches n s

theorem reaches_iff {n : Nat} {s : List Int} : reaches n s = true ↔ n ≤ s.length := by
  fun_induction reaches n s <;> simp_all

namespace State

-- Goes to an address relative to the instruction pointer. The end of the program is an address.
def branch (s : State) (size : Nat) (offset : Int) : Except Fault State :=
  let target := s.ip + offset
  if 0 ≤ target ∧ target ≤ size
  then .ok { s with ip := target.toNat }
  else .error (.branchOutside target size)

def enter (s : State) (size address : Nat) : Except Fault State :=
  if address ≤ size
  then .ok { s with ip := address, returns := (s.ip + 1) :: s.returns }
  else .error (.callOutside address size)

-- The state after an instruction, if the stack has the cells that it needs. Steps are not counted
-- here.
def execute (s : State) (image : Image) : Instruction → Except Fault State
  | .prim p   => .ok { s with stack := p.effect s.stack, ip := s.ip + 1 }
  | .push v   => .ok { s with stack := v.toInt :: s.stack, ip := s.ip + 1 }
  | .jump k _ => s.branch image.program.size k
  | .ifZero k =>
    if s.stack.head? = some 0
    then { s with stack := s.stack.tail }.branch image.program.size k
    else .ok { s with stack := s.stack.tail, ip := s.ip + 1 }
  | .call a   => s.enter image.program.size a
  | .callWord w _ =>
    match image.dictionary.find? w with
    | some a => s.enter image.program.size a
    | none   => .error (.unknownWord w)
  | .ret =>
    match s.returns with
    | r :: returns => .ok { s with ip := r, returns := returns }
    | []           => .error .emptyReturnStack
  | .halt     => .ok { s with halted := true }

def current? (s : State) (program : Program) : Option Instruction :=
  if s.halted then none else program[s.ip]?

end State

inductive Step
  | rest
  | refused (i : Instruction) (fault : Fault)
  | failed (i : Instruction) (fault : Fault)
  | next (i : Instruction) (s : State)

namespace State

-- The step on an instruction that the limit allows. A stack that is too short refuses it before it
-- counts.
def attempt (s : State) (image : Image) (i : Instruction) : Step :=
  if reaches i.needs s.stack then
    match s.execute image i with
    | .ok t        => .next i { t with steps := s.steps + 1 }
    | .error fault => .failed i fault
  else
    .refused i (.stackUnderflow i.opcode i.needs s.stack.length)

def step (s : State) (image : Image) (limit : Option Int) : Step :=
  match s.current? image.program with
  | none   => .rest
  | some i =>
    match limit with
    | none   => s.attempt image i
    | some n => if n ≤ s.steps then .refused i (.stepLimit n) else s.attempt image i

def running (s : State) (program : Program) : Bool :=
  (s.current? program).isSome

end State

end StackForth
