import StackForth.Proofs.Run

namespace StackForth

inductive Moves (image : Image) (s : State) : Instruction → State → Prop
  | prim : Moves image s (.prim p) { s with stack := p.effect s.stack, ip := s.ip + 1 }
  | push : Moves image s (.push v) { s with stack := v.toInt :: s.stack, ip := s.ip + 1 }
  | jump (target : (s.ip + k : Int) = Int.ofNat t) (inside : t ≤ image.program.size) :
      Moves image s (.jump k h) { s with ip := t }
  | zero (top : s.stack.head? = some 0) (target : (s.ip + k : Int) = Int.ofNat t)
      (inside : t ≤ image.program.size) :
      Moves image s (.ifZero k) { s with stack := s.stack.tail, ip := t }
  | nonzero (top : s.stack.head? ≠ some 0) :
      Moves image s (.ifZero k) { s with stack := s.stack.tail, ip := s.ip + 1 }
  | call (inside : a ≤ image.program.size) :
      Moves image s (.call a) { s with ip := a, returns := (s.ip + 1) :: s.returns }
  | word (known : image.dictionary.find? w = some a) (inside : a ≤ image.program.size) :
      Moves image s (.callWord w h) { s with ip := a, returns := (s.ip + 1) :: s.returns }
  | ret (top : s.returns = r :: returns) : Moves image s .ret { s with ip := r, returns := returns }
  | halt : Moves image s .halt { s with halted := true }

inductive Trips (image : Image) (s : State) : Instruction → Fault → Prop
  | jump (outside : ¬(0 ≤ (s.ip + k : Int) ∧ (s.ip + k : Int) ≤ image.program.size)) :
      Trips image s (.jump k h) (.branchOutside (s.ip + k) image.program.size)
  | zero (top : s.stack.head? = some 0)
      (outside : ¬(0 ≤ (s.ip + k : Int) ∧ (s.ip + k : Int) ≤ image.program.size)) :
      Trips image s (.ifZero k) (.branchOutside (s.ip + k) image.program.size)
  | call (outside : ¬a ≤ image.program.size) :
      Trips image s (.call a) (.callOutside a image.program.size)
  | word (known : image.dictionary.find? w = some a) (outside : ¬a ≤ image.program.size) :
      Trips image s (.callWord w h) (.callOutside a image.program.size)
  | unknown (missing : image.dictionary.find? w = none) :
      Trips image s (.callWord w h) (.unknownWord w)
  | ret (empty : s.returns = []) : Trips image s .ret .emptyReturnStack

namespace State

variable {p : Program} {image : Image} {s t : State} {i : Instruction} {f : Fault} {size : Nat}
variable {k : Int}

theorem current?_eq_some_iff :
    s.current? p = some i ↔ s.halted = false ∧ p[s.ip]? = some i := by
  simp [current?]

theorem lt_size_of_current? (h : s.current? p = some i) : s.ip < p.size :=
  have ⟨_, hi⟩ := current?_eq_some_iff.mp h
  have ⟨inside, _⟩ := Array.getElem?_eq_some_iff.mp hi
  inside

theorem branch_ok (h : s.branch size k = .ok t) :
    ∃ n : Nat, (s.ip + k : Int) = n ∧ n ≤ size ∧ t = { s with ip := n } := by
  simp only [branch] at h
  split at h <;> cases h
  case isTrue inside =>
    have target : (s.ip + k : Int) = (s.ip + k).toNat := (Int.toNat_of_nonneg inside.left).symm
    exact ⟨_, target, by omega, rfl⟩

theorem branch_error (h : s.branch size k = .error f) :
    ¬(0 ≤ s.ip + k ∧ s.ip + k ≤ size) ∧ f = .branchOutside (s.ip + k) size := by
  simp only [branch] at h
  split at h <;> cases h
  case isFalse outside => exact ⟨outside, rfl⟩

theorem enter_ok {a : Nat} (h : s.enter size a = .ok t) :
    a ≤ size ∧ t = { s with ip := a, returns := (s.ip + 1) :: s.returns } := by
  simp only [enter] at h
  split at h <;> cases h
  case isTrue inside => exact ⟨inside, rfl⟩

theorem enter_error {a : Nat} (h : s.enter size a = .error f) :
    ¬a ≤ size ∧ f = .callOutside a size := by
  simp only [enter] at h
  split at h <;> cases h
  case isFalse outside => exact ⟨outside, rfl⟩

theorem moves_of_execute (h : s.execute image i = .ok t) : Moves image s i t := by
  cases i <;> simp only [execute] at h
  case prim => cases h; exact .prim
  case push => cases h; exact .push
  case halt => cases h; exact .halt
  case jump =>
    obtain ⟨_, target, inside, rfl⟩ := branch_ok h
    exact .jump target inside
  case ifZero =>
    split at h
    case isTrue top =>
      obtain ⟨_, target, inside, rfl⟩ := branch_ok h
      exact .zero top target inside
    case isFalse top => cases h; exact .nonzero top
  case call =>
    obtain ⟨inside, rfl⟩ := enter_ok h
    exact .call inside
  case callWord =>
    split at h
    case h_1 known =>
      obtain ⟨inside, rfl⟩ := enter_ok h
      exact .word known inside
    case h_2 => cases h
  case ret =>
    split at h <;> cases h
    case h_1 top => exact .ret top

theorem trips_of_execute (h : s.execute image i = .error f) : Trips image s i f := by
  cases i <;> simp only [execute] at h
  case prim => cases h
  case push => cases h
  case halt => cases h
  case jump =>
    obtain ⟨outside, rfl⟩ := branch_error h
    exact .jump outside
  case ifZero =>
    split at h
    case isTrue top =>
      obtain ⟨outside, rfl⟩ := branch_error h
      exact .zero top outside
    case isFalse => cases h
  case call =>
    obtain ⟨outside, rfl⟩ := enter_error h
    exact .call outside
  case callWord =>
    split at h
    case h_1 known =>
      obtain ⟨outside, rfl⟩ := enter_error h
      exact .word known outside
    case h_2 missing => cases h; exact .unknown missing
  case ret =>
    split at h <;> cases h
    case h_2 empty => exact .ret empty

theorem counted?_attempt (h : i.needs ≤ s.stack.length) :
    (s.attempt image i).counted? = some i := by
  rw [attempt, if_pos (reaches_iff.mpr h)]
  cases s.execute image i <;> rfl

theorem steps_of_next {limit : Option Int} (h : s.step image limit = .next i t) :
    t.steps = s.steps + 1 := by
  simp only [step, attempt] at h
  repeat' split at h
  all_goals cases h
  all_goals rfl

end State

namespace Machine

-- A step of a machine with its answer. Only what is written to the trace is left open.
inductive Stepped (m : Machine) : Machine × Except Stop Bool → Prop
  | rest (done : m.state.current? m.image.program = none) :
      Stepped m ({ m with output := text }, .ok false)
  | limit (current : m.state.current? m.image.program = some i) (limit : m.limit = some n)
      (reached : n ≤ m.state.steps) (stop : m.stop i (.stepLimit n) = x) :
      Stepped m ({ m with output := text }, .error x)
  | underflow (current : m.state.current? m.image.program = some i)
      (below : ∀ n, m.limit = some n → m.state.steps < n) (short : m.state.stack.length < i.needs)
      (stop : m.stop i (.stackUnderflow i.opcode i.needs m.state.stack.length) = x) :
      Stepped m ({ m with output := text }, .error x)
  | balks (current : m.state.current? m.image.program = some i)
      (below : ∀ n, m.limit = some n → m.state.steps < n) (enough : i.needs ≤ m.state.stack.length)
      (traced : m.tracing = true) (long : i.writable = false) :
      Stepped m (m, .error .unwritable)
  | failed (current : m.state.current? m.image.program = some i)
      (below : ∀ n, m.limit = some n → m.state.steps < n) (enough : i.needs ≤ m.state.stack.length)
      (trips : Trips m.image m.state i f) (stop : m.stop i f = x) :
      Stepped m ({ m with state := { m.state with steps := m.state.steps + 1 }, output := text },
        .error x)
  | next (current : m.state.current? m.image.program = some i)
      (below : ∀ n, m.limit = some n → m.state.steps < n) (enough : i.needs ≤ m.state.stack.length)
      (moves : Moves m.image m.state i t) :
      Stepped m ({ m with state := { t with steps := m.state.steps + 1 }, output := text },
        .ok (State.running { t with steps := m.state.steps + 1 } m.image.program))

variable {m : Machine} {i : Instruction}

theorem current?_of_counted (h : (m.state.step m.image m.limit).counted? = some i) :
    m.state.current? m.image.program = some i ∧ (∀ n, m.limit = some n → m.state.steps < n) ∧
      i.needs ≤ m.state.stack.length := by
  simp only [State.step, State.attempt, reaches_iff] at h
  repeat' split at h
  all_goals simp_all [Step.counted?]

theorem stepped_of_attempt {output : String} (current : m.state.current? m.image.program = some i)
    (below : ∀ n, m.limit = some n → m.state.steps < n) :
    m.Stepped ({ m with output }.after (m.state.attempt m.image i)) := by
  simp only [State.attempt]
  split
  case isTrue enough =>
    have enough := reaches_iff.mp enough
    cases he : m.state.execute m.image i
    case ok t    => exact .next current below enough (State.moves_of_execute he)
    case error f => exact .failed current below enough (State.trips_of_execute he) rfl
  case isFalse short =>
    have short := Nat.lt_of_not_le (mt reaches_iff.mpr short)
    exact .underflow current below short rfl

theorem step_stepped (m : Machine) : m.Stepped m.step := by
  by_cases balks : m.Balks
  case pos =>
    obtain ⟨traced, i, counted, long⟩ := balks
    have ⟨current, below, enough⟩ := current?_of_counted counted
    rw [step_of_balks ⟨traced, i, counted, long⟩]
    exact .balks current below enough traced long
  case neg =>
    have ⟨output, hm⟩ := step_of_not_balks balks
    rw [hm, State.step]
    split
    case h_1 done => exact .rest done
    case h_2 current =>
      split
      case h_1 hl => exact stepped_of_attempt current (by simp [hl])
      case h_2 n hl =>
        split
        case isTrue reached => exact .limit current hl reached rfl
        case isFalse reached =>
          refine stepped_of_attempt current fun k hk => ?_
          cases hl.symm.trans hk
          exact Int.lt_of_not_ge reached

variable {n : Machine} {f : Failure}

theorem Stepped.kind (h : m.Stepped (n, .error (.failure f))) :
    f.fault.kind ∈
      [.stackUnderflow, .returnStackUnderflow, .unknownWord, .invalidAddress, .stepLimit] := by
  cases h <;> rename m.stop _ _ = .failure f => stop <;>
    obtain ⟨_, rfl⟩ := stop_eq_failure_iff.mp stop
  case limit          => simp [failure, Fault.kind]
  case underflow      => simp [failure, Fault.kind]
  case failed trips _ => cases trips <;> simp [failure, Fault.kind]

variable {p : Machine} {r : Machine × Except Stop Bool} {k : Nat}

theorem Stepped.limit_eq (h : m.Stepped r) : r.1.limit = m.limit := by
  cases h <;> rfl

theorem Stepped.tracing_eq (h : m.Stepped r) : r.1.tracing = m.tracing := by
  cases h <;> rfl

theorem Stepped.counted (h : m.Stepped (p, .ok true)) :
    (∀ n, m.limit = some n → m.state.steps < n) ∧ p.state.steps = m.state.steps + 1 := by
  generalize more : (Except.ok true : Except Stop Bool) = answer at h
  cases h
  case next _ below _ _ => exact ⟨below, rfl⟩
  all_goals cases more

theorem Stepped.steps_le (h : m.Stepped r) : r.1.state.steps ≤ m.state.steps + 1 := by
  cases h <;> simp

theorem Stepped.le_steps (h : m.Stepped r) : m.state.steps ≤ r.1.state.steps := by
  cases h <;> simp

theorem run_limit (m : Machine) (fuel : Nat) : (m.run fuel).1.limit = m.limit := by
  refine run_invariant (P := fun n => n.limit = m.limit) ?_ rfl fuel
  exact fun n same => n.step_stepped.limit_eq.trans same

theorem run_tracing (m : Machine) (fuel : Nat) : (m.run fuel).1.tracing = m.tracing := by
  refine run_invariant (P := fun n => n.tracing = m.tracing) ?_ rfl fuel
  exact fun n same => n.step_stepped.tracing_eq.trans same

theorem limit_of_unfinished (h : m.run k = (p, .unfinished)) : p.limit = m.limit := by
  have same := m.run_limit k
  rwa [h] at same

theorem tracing_of_unfinished (h : m.run k = (p, .unfinished)) : p.tracing = m.tracing := by
  have same := m.run_tracing k
  rwa [h] at same

theorem steps_of_unfinished (h : m.run k = (p, .unfinished)) :
    p.state.steps = m.state.steps + k := by
  induction k generalizing m
  case zero => cases h; rfl
  case succ k ih =>
    have ⟨q, step, rest⟩ := run_succ_unfinished h
    have stepped : m.Stepped (q, .ok true) := step ▸ m.step_stepped
    rw [ih rest, stepped.counted.right, Nat.add_right_comm, Nat.add_assoc]

theorem le_steps_run (m : Machine) (fuel : Nat) : m.state.steps ≤ (m.run fuel).1.state.steps := by
  refine run_invariant (P := fun n => m.state.steps ≤ n.state.steps) ?_ (Nat.le_refl _) fuel
  exact fun n h => Nat.le_trans h n.step_stepped.le_steps

theorem steps_run_le (m : Machine) (fuel : Nat) :
    (m.run fuel).1.state.steps ≤ m.state.steps + fuel := by
  induction fuel generalizing m
  case zero => exact Nat.le_refl _
  case succ fuel ih =>
    have count := m.step_stepped.steps_le
    rcases hs : m.step with ⟨q, _ | ⟨_ | _⟩⟩ <;> simp only [run, hs] at count ⊢
    case error    => omega
    case ok.false => omega
    case ok.true  =>
      have := ih q
      omega

theorem steps_step (free : ¬m.Balks) :
    m.step.1.state.steps =
      m.state.steps + (m.state.step m.image m.limit).counted?.toList.length := by
  have ⟨_, step⟩ := step_of_not_balks free
  rw [step]
  cases hs : m.state.step m.image m.limit
  case rest    => rfl
  case refused => rfl
  case failed  => rfl
  case next    => exact State.steps_of_next hs

theorem steps_lt_run {fuel : Nat} (pause : m.run k = (p, .unfinished)) (sooner : k < fuel)
    (free : ¬p.Balks) (counted : (p.state.step p.image p.limit).counted? = some i) :
    p.state.steps < (m.run fuel).1.state.steps := by
  obtain ⟨more, rfl⟩ := Nat.exists_eq_add_of_lt sooner
  have count := steps_step free
  have later := p.step.1.le_steps_run more
  rw [Nat.add_assoc, run_resume pause]
  rcases hs : p.step with ⟨q, _ | ⟨_ | _⟩⟩ <;>
    simp only [run, hs, counted, Option.toList_some, List.length_singleton] at count later ⊢ <;>
    omega

end Machine

end StackForth
