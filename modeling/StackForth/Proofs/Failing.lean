import StackForth.Proofs.Moves
import StackForth.Proofs.Procedure
import StackForth.Report

namespace StackForth

-- The steps that are counted for an instruction with an error of this kind.
def Kind.cost : Kind → Nat
  | .invalidAddress       => 1
  | .unknownWord          => 1
  | .returnStackUnderflow => 1
  | _                     => 0

theorem Trips.cost {image : Image} {s : State} {i : Instruction} {f : Fault}
    (h : Trips image s i f) : f.kind.cost = 1 := by
  cases h <;> rfl

namespace Machine

-- The machine is the same as in front of the instruction, but for its trace and its step count. The
-- actions that the step is made of leave the same state behind.
structure FailsAt (m n : Machine) (f : Failure) : Prop where
  step        : m.step = (n, .error (.failure f))
  inPlace     : (Procedure.step m.image m.limit m.tracing).run m.state =
    .error (.fault f.fault) n.state
  image       : n.image = m.image
  state       : n.state = { m.state with steps := m.state.steps + f.fault.kind.cost }
  kind        : f.fault.kind ∈
    [.stackUnderflow, .returnStackUnderflow, .unknownWord, .invalidAddress, .stepLimit]
  ip          : f.ip = n.state.ip
  instruction : ∃ i, f.instruction = some i ∧ n.image.program[n.state.ip]? = some i
  stack       : f.stack = n.state.stack

variable {m n : Machine} {i : Instruction} {f : Failure} {fuel : Nat}

theorem exists_instruction (current : m.state.current? m.image.program = some i) (fault : Fault) :
    ∃ j, (m.failure i fault).instruction = some j ∧ m.image.program[m.state.ip]? = some j :=
  ⟨i, rfl, (State.current?_eq_some_iff.mp current).right⟩

theorem failsAt_of_step (h : m.step = (n, .error (.failure f))) : m.FailsAt n f := by
  have stepped : m.Stepped (n, .error (.failure f)) := h ▸ m.step_stepped
  have kind := stepped.kind
  have inPlace : (Procedure.step m.image m.limit m.tracing).run m.state =
      outcome (n, .error (.failure f)) := h ▸ m.step_procedure
  cases stepped <;> rename m.stop _ _ = .failure f => stop <;>
    obtain ⟨_, rfl⟩ := stop_eq_failure_iff.mp stop
  case limit current _ _ _ =>
    exact ⟨h, inPlace, rfl, rfl, kind, rfl, exists_instruction current _, rfl⟩
  case underflow current _ _ _ =>
    exact ⟨h, inPlace, rfl, rfl, kind, rfl, exists_instruction current _, rfl⟩
  case failed current _ _ trips _ =>
    refine ⟨h, inPlace, rfl, ?state, kind, rfl, exists_instruction current _, rfl⟩
    case state => simp [failure, trips.cost]

theorem failsAt_of_run (h : m.run fuel = (n, .failed f)) :
    ∃ k p, m.run k = (p, .unfinished) ∧ p.FailsAt n f :=
  have ⟨k, p, pause, failed⟩ := run_failed h
  ⟨k, p, pause, failsAt_of_step failed⟩

theorem failsAt_of_report {bound : Nat} {report : Report} {t : Trouble}
    (h : (m.report bound).2 = .ok report) (hv : report.verdict = .failed t) :
    ∃ k p n f, m.run k = (p, .unfinished) ∧ p.FailsAt n f ∧ t = .machine f ∧
      report.stack = p.state.stack := by
  rcases hr : m.runToEnd bound with ⟨n, ending⟩
  simp only [Machine.report, hr] at h
  cases ending <;> cases h <;> cases hv
  case failed f =>
    have ⟨k, p, pause, fails⟩ := failsAt_of_run hr
    have stack : f.stack = p.state.stack := by rw [fails.stack, fails.state]
    exact ⟨k, p, n, f, pause, fails, rfl, stack⟩

end Machine

theorem failsAt_of_runProgram {bound : Nat} {items : List Item} {entries : Entries} {setup : Setup}
    {report : Report} {t : Trouble} (h : (runProgram bound items entries setup).2 = .ok report)
    (hv : report.verdict = .failed t) :
    ∃ m k p n f, Machine.load items entries setup = .ok m ∧ m.run k = (p, .unfinished) ∧
      p.FailsAt n f ∧ t = .machine f ∧ report.stack = p.state.stack := by
  cases hm : Machine.load items entries setup <;> simp only [runProgram, hm] at h
  case error => cases h
  case ok m =>
    have ⟨k, p, n, f, fails⟩ := Machine.failsAt_of_report h hv
    exact ⟨m, k, p, n, f, rfl, fails⟩

-- An instruction that fails changes nothing, and what is said of it is right. So a report shows the
-- stack in front of the instruction that the run fails at.
theorem failing_instruction_changes_nothing :
    (∀ (m n : Machine) f, m.step = (n, .error (.failure f)) → m.FailsAt n f) ∧
    (∀ (m n : Machine) f fuel, m.run fuel = (n, .failed f) →
      ∃ k p, m.run k = (p, .unfinished) ∧ p.FailsAt n f) ∧
    ∀ bound items entries setup report t,
      (runProgram bound items entries setup).2 = .ok report → report.verdict = .failed t →
      ∃ m k p n f, Machine.load items entries setup = .ok m ∧ m.run k = (p, .unfinished) ∧
        p.FailsAt n f ∧ t = .machine f ∧ report.stack = p.state.stack :=
  ⟨fun _ _ _ => Machine.failsAt_of_step, fun _ _ _ _ => Machine.failsAt_of_run,
    fun _ _ _ _ _ _ => failsAt_of_runProgram⟩

def strayBranch : Machine where
  image := { program := #[.ifZero 9] }
  state := { stack := [0, 4] }

theorem failing_instruction_changes_nothing_branch :
    ∃ n f, strayBranch.FailsAt n f ∧ n.state = { stack := [0, 4], steps := 1 } ∧
      f.fault = .branchOutside 9 1 := by
  have ⟨step, _, _⟩ := failing_instruction_changes_nothing
  exact ⟨_, _, step strayBranch _ _ rfl, rfl, rfl⟩

end StackForth
