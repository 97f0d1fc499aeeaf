import StackForth.Proofs.Bounds
import StackForth.Proofs.Independence

namespace StackForth

abbrev Effect := Primitive → List Int → List Int

namespace State

def executeBy (effect : Effect) (s : State) (image : Image) : Instruction → Except Fault State
  | .prim p => .ok { s with stack := effect p s.stack, ip := s.ip + 1 }
  | i       => s.execute image i

def attemptBy (effect : Effect) (s : State) (image : Image) (i : Instruction) : Step :=
  if reaches i.needs s.stack then
    match s.executeBy effect image i with
    | .ok t        => .next i { t with steps := s.steps + 1 }
    | .error fault => .failed i fault
  else
    .refused i (.stackUnderflow i.opcode i.needs s.stack.length)

def stepBy (effect : Effect) (s : State) (image : Image) (limit : Option Int) : Step :=
  match s.current? image.program with
  | none   => .rest
  | some i =>
    match limit with
    | none   => s.attemptBy effect image i
    | some n => if n ≤ s.steps then .refused i (.stepLimit n) else s.attemptBy effect image i

theorem attemptBy_effect (s : State) (image : Image) (i : Instruction) :
    s.attemptBy Primitive.effect image i = s.attempt image i := by
  have same : s.executeBy Primitive.effect image i = s.execute image i := by cases i <;> rfl
  simp only [attemptBy, same]
  rfl

theorem stepBy_effect (s : State) (image : Image) (limit : Option Int) :
    s.stepBy Primitive.effect image limit = s.step image limit := by
  simp only [stepBy, attemptBy_effect]
  rfl

end State

namespace Machine

def stepBy (effect : Effect) (m : Machine) : Machine × Except Stop Bool :=
  m.recorded (m.state.stepBy effect m.image m.limit)

def runBy (effect : Effect) : Nat → Machine → Machine × Ending
  | 0,        m => (m, .unfinished)
  | fuel + 1, m =>
    match m.stepBy effect with
    | (m, .ok true)    => runBy effect fuel m
    | (m, .ok false)   => (m, .finished)
    | (m, .error stop) => (m, stop.ending)

theorem stepBy_effect (m : Machine) : m.stepBy Primitive.effect = m.step := by
  rw [stepBy, State.stepBy_effect, step_eq]

theorem runBy_effect (fuel : Nat) (m : Machine) : m.runBy Primitive.effect fuel = m.run fuel := by
  induction fuel generalizing m
  case zero => rfl
  case succ fuel ih =>
    simp only [runBy, stepBy_effect, ih]
    rfl

end Machine

section

variable (R : List Int → List Int → Prop)

def Level : Prop :=
  ∀ s t, R s t → t.length = s.length

-- States in the same place, with related stacks.
structure State.Alongside (s t : State) : Prop where
  stack   : R s.stack t.stack
  returns : t.returns = s.returns
  ip      : t.ip = s.ip
  steps   : t.steps = s.steps
  halted  : t.halted = s.halted

def Instruction.Keeps (effect : Effect) : Instruction → Prop
  | .prim p   => ∀ s t, R s t → p.needs ≤ s.length → R (p.effect s) (effect p t)
  | .push v   => ∀ s t, R s t → R (v.toInt :: s) (v.toInt :: t)
  | .ifZero _ => ∀ s t, R s t → 1 ≤ s.length → t.head? = s.head? ∧ R s.tail t.tail
  | _         => True

structure Program.Keeps (effect : Effect) (p : Program) : Prop where
  deeper       : ∀ s t, R s t → s.length ≤ t.length
  instructions : ∀ i ∈ p, i.Keeps R effect

-- No instruction of the program looks at a cell to decide where to go on.
def Program.Unbranched (p : Program) : Prop :=
  ∀ k, .ifZero k ∉ p

-- Steps that come to the same. If the second stack is the longer one, the first may be too short for
-- an instruction, and then nothing is said of the second step.
inductive Step.Alongside : Step → Step → Prop
  | rest : Alongside .rest .rest
  | refused : Alongside (.refused i f) (.refused i f)
  | failed : Alongside (.failed i f) (.failed i f)
  | next (states : s.Alongside R t) : Alongside (.next i s) (.next i t)
  | short (uneven : ¬Level R) (kind : f.kind = .stackUnderflow) : Alongside (.refused i f) step

structure Failure.Alongside (f g : Failure) : Prop where
  fault       : g.fault = f.fault
  ip          : g.ip = f.ip
  instruction : g.instruction = f.instruction
  stack       : R f.stack g.stack

inductive Stop.Alongside : Stop → Stop → Prop
  | failure (failures : f.Alongside R g) : Alongside (.failure f) (.failure g)
  | unwritable : Alongside .unwritable .unwritable

namespace Machine

structure Alongside (m n : Machine) : Prop where
  image   : n.image = m.image
  limit   : n.limit = m.limit
  tracing : n.tracing = m.tracing
  state   : m.state.Alongside R n.state

-- Answers that say the same, as long as the first machine finds the cells that it needs.
inductive Answers : Machine × Except Stop Bool → Machine × Except Stop Bool → Prop
  | ok (machines : m.Alongside R n) : Answers (m, .ok more) (n, .ok more)
  | error (machines : m.Alongside R n) (stops : x.Alongside R y) : Answers (m, .error x) (n, .error y)
  | short (uneven : ¬Level R) (kind : f.fault.kind = .stackUnderflow) :
      Answers (m, .error (.failure f)) r

inductive Ending.Alongside : Ending → Ending → Prop
  | finished : Alongside .finished .finished
  | failed (failures : f.Alongside R g) : Alongside (.failed f) (.failed g)
  | unwritable : Alongside .unwritable .unwritable
  | unfinished : Alongside .unfinished .unfinished

structure Together (p q : Machine × Ending) : Prop where
  state  : p.1.state.Alongside R q.1.state
  ending : p.2.Alongside R q.2

end Machine

end

variable {R : List Int → List Int → Prop} {effect : Effect}

theorem Program.Unbranched.keeps {p : Program} (h : p.Unbranched) (level : Level R)
    (prim : ∀ o s t, R s t → o.needs ≤ s.length → R (o.effect s) (effect o t))
    (push : ∀ c s t, R s t → R (c :: s) (c :: t)) : p.Keeps R effect where
  deeper s t related := Nat.le_of_eq (level s t related).symm
  instructions i m := by
    cases i
    case prim o => exact prim o
    case push v => exact push v.toInt
    case ifZero => exact absurd m (h _)
    all_goals trivial

namespace State.Alongside

variable {s t : State} {image : Image} {i : Instruction}

theorem current? (a : s.Alongside R t) (p : Program) : t.current? p = s.current? p := by
  simp only [State.current?, a.halted, a.ip]

theorem count (a : s.Alongside R t) :
    { s with steps := s.steps + 1 }.Alongside R { t with steps := t.steps + 1 } :=
  ⟨a.stack, a.returns, a.ip, congrArg (· + 1) a.steps, a.halted⟩

theorem branch (a : s.Alongside R t) (size : Nat) (k : Int) :
    Both (State.Alongside R) (s.branch size k) (t.branch size k) := by
  simp only [State.branch, a.ip]
  split
  case isTrue  => exact .ok ⟨a.stack, a.returns, rfl, a.steps, a.halted⟩
  case isFalse => exact .error

theorem enter (a : s.Alongside R t) (size address : Nat) :
    Both (State.Alongside R) (s.enter size address) (t.enter size address) := by
  simp only [State.enter, a.ip, a.returns]
  split
  case isTrue  => exact .ok ⟨a.stack, rfl, rfl, a.steps, a.halted⟩
  case isFalse => exact .error

theorem execute (a : s.Alongside R t) (image : Image) (keeps : i.Keeps R effect)
    (enough : i.needs ≤ s.stack.length) :
    Both (State.Alongside R) (s.execute image i) (t.executeBy effect image i) := by
  have next : t.ip + 1 = s.ip + 1 := congrArg (· + 1) a.ip
  cases i <;> simp only [State.execute, executeBy]
  case prim         => exact .ok ⟨keeps _ _ a.stack enough, a.returns, next, a.steps, a.halted⟩
  case push         => exact .ok ⟨keeps _ _ a.stack, a.returns, next, a.steps, a.halted⟩
  case halt         => exact .ok ⟨a.stack, a.returns, a.ip, a.steps, rfl⟩
  case jump k _     => exact a.branch _ k
  case call address => exact a.enter _ address
  case callWord w _ =>
    cases image.dictionary.find? w
    case none         => exact .error
    case some address => exact a.enter _ address
  case ret =>
    rw [a.returns]
    cases s.returns
    case nil  => exact .error
    case cons => exact .ok ⟨a.stack, rfl, rfl, a.steps, a.halted⟩
  case ifZero k =>
    obtain ⟨top, rest⟩ := keeps _ _ a.stack enough
    rw [top]
    split
    case isTrue =>
      have popped : { s with stack := s.stack.tail }.Alongside R { t with stack := t.stack.tail } :=
        ⟨rest, a.returns, a.ip, a.steps, a.halted⟩
      exact popped.branch _ k
    case isFalse => exact .ok ⟨rest, a.returns, next, a.steps, a.halted⟩

theorem attempt (a : s.Alongside R t) (image : Image) (keeps : i.Keeps R effect)
    (deeper : s.stack.length ≤ t.stack.length) :
    (s.attempt image i).Alongside R (t.attemptBy effect image i) := by
  simp only [State.attempt, attemptBy, reaches_iff]
  by_cases enough : i.needs ≤ s.stack.length
  case pos =>
    simp only [enough, Nat.le_trans enough deeper, if_true]
    have executed := a.execute image keeps enough
    generalize s.execute image i = x, t.executeBy effect image i = y at executed
    cases executed
    case ok states =>
      have count := congrArg (· + 1) a.steps
      exact .next ⟨states.stack, states.returns, states.ip, count, states.halted⟩
    case error => exact .failed
  case neg =>
    simp only [enough, if_false]
    by_cases same : t.stack.length = s.stack.length
    case pos =>
      simp only [same, enough, if_false]
      exact .refused
    case neg => exact .short (fun level => same (level _ _ a.stack)) rfl

theorem step (a : s.Alongside R t) (keeps : image.program.Keeps R effect) (limit : Option Int) :
    (s.step image limit).Alongside R (t.stepBy effect image limit) := by
  simp only [State.step, stepBy, a.current?, a.steps]
  cases current : s.current? image.program
  case none   => exact .rest
  case some i =>
    have here : image.program[s.ip]? = some i := (current?_eq_some_iff.mp current).right
    have kept := keeps.instructions i (Array.mem_of_getElem? here)
    have attempted := a.attempt image kept (keeps.deeper _ _ a.stack)
    cases limit
    case none   => exact attempted
    case some n =>
      by_cases reached : n ≤ s.steps <;> simp only [reached, if_true, if_false]
      case pos => exact .refused
      case neg => exact attempted

end State.Alongside

theorem Fault.writable_of_kind {f : Fault} (h : f.kind = .stackUnderflow) : f.writable := by
  cases f <;> cases h
  rfl

namespace Machine.Alongside

variable {m n : Machine}

theorem stop (a : m.Alongside R n) (i : Instruction) (fault : Fault) :
    (m.stop i fault).Alongside R (n.stop i fault) := by
  simp only [Machine.stop]
  split
  case isTrue  => exact .failure ⟨rfl, a.state.ip, rfl, a.state.stack⟩
  case isFalse => exact .unwritable

theorem after {s t : Step} (a : m.Alongside R n) (steps : s.Alongside R t) :
    Answers R (m.after s) (n.after t) := by
  cases steps
  case rest              => exact .ok a
  case refused           => exact .error a (a.stop _ _)
  case failed            => exact .error ⟨a.image, a.limit, a.tracing, a.state.count⟩ (a.stop _ _)
  case short uneven kind =>
    rw [Machine.after, stop_of_writable (Fault.writable_of_kind kind)]
    exact .short uneven kind
  case next s t states =>
    have running : t.running n.image.program = s.running m.image.program := by
      simp only [State.running, states.current?, a.image]
    simp only [Machine.after, running]
    exact .ok ⟨a.image, a.limit, a.tracing, states⟩

theorem emit (a : m.Alongside R n) (text text' : String) :
    (m.emit text).Alongside R (n.emit text') :=
  ⟨a.image, a.limit, a.tracing, a.state⟩

theorem recorded {s t : Step} (a : m.Alongside R n) (steps : s.Alongside R t)
    (counted : t.counted? = s.counted?) : Answers R (m.recorded s) (n.recorded t) := by
  have same : (n.written? t).isSome = (m.written? s).isSome := by
    simp only [isSome_written?, a.tracing, counted]
  simp only [Machine.recorded]
  cases hm : m.written? s <;> cases hn : n.written? t <;> simp only [hm, hn] at same ⊢
  case none.none => exact .error a .unwritable
  case some.some => exact (a.emit _ _).after steps
  all_goals cases same

theorem step (a : m.Alongside R n) (keeps : m.image.program.Keeps R effect) :
    Answers R m.step (n.stepBy effect) := by
  simp only [step_eq, stepBy, a.image, a.limit]
  have steps := a.state.step keeps m.limit
  generalize m.state.step m.image m.limit = s, n.state.stepBy effect m.image m.limit = t at steps
  cases steps
  case rest        => exact a.recorded .rest rfl
  case refused     => exact a.recorded .refused rfl
  case failed      => exact a.recorded .failed rfl
  case next states => exact a.recorded (.next states) rfl
  case short uneven kind =>
    rw [recorded_of_not_counted rfl, Machine.after, stop_of_writable (Fault.writable_of_kind kind)]
    exact .short uneven kind

end Machine.Alongside

namespace Machine

variable {m n : Machine}

theorem Stepped.image_eq {r : Machine × Except Stop Bool} (h : m.Stepped r) :
    r.1.image = m.image := by
  cases h <;> rfl

-- The machines stay together, unless the first one runs out of cells where the second has more.
theorem Alongside.run (a : m.Alongside R n) (keeps : m.image.program.Keeps R effect) (fuel : Nat) :
    Together R (m.run fuel) (n.runBy effect fuel) ∨
      ¬Level R ∧ ∃ f, (m.run fuel).2 = .failed f ∧ f.fault.kind = .stackUnderflow := by
  induction fuel generalizing m n
  case zero => exact .inl ⟨a.state, .unfinished⟩
  case succ fuel ih =>
    have image := m.step_stepped.image_eq
    have answers := a.step keeps
    simp only [Machine.run, runBy]
    generalize m.step = p, n.stepBy effect = q at answers image
    cases answers
    case ok more _ machines =>
      cases more
      case false => exact .inl ⟨machines.state, .finished⟩
      case true  => exact ih machines (image ▸ keeps)
    case error machines stops =>
      cases stops
      case failure failures => exact .inl ⟨machines.state, .failed failures⟩
      case unwritable       => exact .inl ⟨machines.state, .unwritable⟩
    case short uneven kind       => exact .inr ⟨uneven, _, rfl, kind⟩

theorem Alongside.run_level (a : m.Alongside R n) (keeps : m.image.program.Keeps R effect)
    (level : Level R) (fuel : Nat) : Together R (m.run fuel) (n.runBy effect fuel) :=
  (a.run keeps fuel).resolve_right fun ⟨uneven, _⟩ => uneven level

end Machine

namespace Machine

variable {items : List Item} {entries : Entries} {setup : Setup} {m : Machine}

theorem load_stack (h : load items entries setup = .ok m) :
    Load.stack [] setup.cells = .ok m.state.stack := by
  have ⟨_, _, h⟩ := exists_ok_of_bind h
  have ⟨_, stack, h⟩ := exists_ok_of_bind h
  have ⟨_, _, h⟩ := exists_ok_of_bind h
  cases h
  exact stack

theorem load_cells (h : load items entries setup = .ok m) (cells : List Datum) :
    load items entries { setup with cells } =
      (Load.stack [] cells).map fun stack => { m with state := { stack } } := by
  have ⟨program, hp, h⟩ := exists_ok_of_bind h
  have ⟨_, _, h⟩ := exists_ok_of_bind h
  have ⟨dictionary, hd, h⟩ := exists_ok_of_bind h
  cases h
  simp only [load, hp, hd]
  cases Load.stack [] cells <;> rfl

theorem load_alongside {cells : List Datum} {n : Machine} (h : load items entries setup = .ok m)
    (h' : load items entries { setup with cells } = .ok n)
    (related : R m.state.stack n.state.stack) : m.Alongside R n := by
  have ⟨_, _, fresh⟩ := load_eq h
  rw [load_cells h] at h'
  cases hs : Load.stack [] cells <;> rw [hs] at h' <;> cases h'
  rw [fresh] at related ⊢
  exact ⟨rfl, rfl, rfl, related, rfl, rfl, rfl, rfl⟩

end Machine

end StackForth
