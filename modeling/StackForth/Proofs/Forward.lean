import StackForth.Proofs.Range
import StackForth.Proofs.Resumption

/-!
Programs without calls whose branches lead forward. A branch on zero may lead onto itself, but it takes a
cell each time. So all of their runs end, and within a number of steps that is known beforehand.
-/

namespace StackForth

def Instruction.isForward : Instruction → Bool
  | .jump k _     => 0 < k
  | .ifZero k     => 0 ≤ k
  | .call _       => false
  | .callWord _ _ => false
  | _             => true

def Program.Forward (p : Program) : Prop :=
  ∀ i ∈ p, i.isForward

instance (p : Program) : Decidable p.Forward :=
  inferInstanceAs (Decidable (∀ i ∈ p, i.isForward))

-- What a run has left to spend: three for each place up to the end of the program, and one for each
-- cell. An instruction that goes to the next place adds no more than two cells.
def State.credit (p : Program) (s : State) : Nat :=
  3 * (p.size - s.ip) + s.stack.length

theorem Moves.forward {image : Image} {s t : State} {i : Instruction} (h : Moves image s i t)
    (forward : i.isForward) (enough : i.needs ≤ s.stack.length) (inside : s.ip < image.program.size)
    (returns : s.returns = []) (more : t.halted = false) :
    t.returns = [] ∧ t.credit image.program < s.credit image.program := by
  have length := h.length_le enough
  cases h <;> simp only [State.credit] at length ⊢
  case prim => exact ⟨returns, by omega⟩
  case push => exact ⟨returns, by omega⟩
  case jump target _ =>
    have ahead := of_decide_eq_true forward
    rw [Int.ofNat_eq_natCast] at target
    exact ⟨returns, by omega⟩
  case zero target _ =>
    -- The target may be the branch itself, and then only the cell is spent.
    have ahead := of_decide_eq_true forward
    rw [Int.ofNat_eq_natCast] at target
    have popped := List.length_tail (l := s.stack)
    have one : 1 ≤ s.stack.length := enough
    exact ⟨returns, by omega⟩
  case nonzero =>
    have popped := List.length_tail (l := s.stack)
    exact ⟨returns, by omega⟩
  case call    => cases forward
  case word    => cases forward
  case ret top => cases returns.symm.trans top
  case halt    => cases more

namespace Machine

structure Forward (m : Machine) : Prop where
  program : m.image.program.Forward
  returns : m.state.returns = []

abbrev credit (m : Machine) : Nat :=
  m.state.credit m.image.program

variable {m p e : Machine} {r : Machine × Except Stop Bool} {x : Stop} {i : Instruction}
variable {k bound : Nat} {n : Int}

theorem Forward.current (h : m.Forward) (current : m.state.current? m.image.program = some i) :
    i.isForward :=
  have ⟨_, hi⟩ := State.current?_eq_some_iff.mp current
  h.program i (Array.mem_of_getElem? hi)

theorem Stepped.forward (h : m.Stepped r) (forward : m.Forward) (more : r.2 = .ok true) :
    r.1.Forward ∧ r.1.credit < m.credit := by
  cases h
  case rest      => cases more
  case limit     => cases more
  case underflow => cases more
  case balks     => cases more
  case failed    => cases more
  case next current _ enough moves =>
    have on := State.current?_eq_some_iff.mp (Option.eq_some_of_isSome (Except.ok.inj more)) |>.left
    have inside := State.lt_size_of_current? current
    have ⟨returns, less⟩ := moves.forward (forward.current current) enough inside forward.returns on
    exact ⟨⟨forward.program, returns⟩, less⟩

namespace Forward

theorem run (h : m.Forward) (pause : m.run k = (p, .unfinished)) :
    p.Forward ∧ p.credit + k ≤ m.credit := by
  induction k generalizing m
  case zero => cases pause; exact ⟨h, Nat.le_refl _⟩
  case succ k ih =>
    have ⟨q, step, rest⟩ := run_succ_unfinished pause
    have stepped : m.Stepped (q, .ok true) := step ▸ m.step_stepped
    have ⟨forward, less⟩ := stepped.forward h rfl
    have ⟨forward, spent⟩ := ih forward rest
    refine ⟨forward, ?_⟩
    have less : q.credit < m.credit := less
    omega

theorem ends (h : m.Forward) (enough : m.credit < bound) : m.Ends (m.run bound) := by
  refine ⟨fun unfinished => ?_, bound, rfl⟩
  have pause : m.run bound = ((m.run bound).1, .unfinished) := Prod.ext rfl unfinished
  have ⟨_, spent⟩ := h.run pause
  omega

theorem limited (h : m.Forward) (hl : m.limit = none) (hs : m.state.steps = 0)
    (enough : m.credit ≤ n.toNat) {r : Machine × Ending} (ends : m.Ends r) (bound : Nat) :
    (m.limited (some n)).runToEnd bound = (r.1.limited (some n), r.2) := by
  have cut := cut_runToEnd hl hs n bound
  generalize (m.limited (some n)).runToEnd bound = limited at cut
  cases cut
  case finished whole _ => rw [ends.unique whole.right]
  case stopped stops _  => rw [ends.unique stops.ends]
  case cut p i pause current =>
    -- After so many steps all is spent, but there is an instruction ahead.
    have ⟨_, spent⟩ := h.run pause
    have inside := State.lt_size_of_current? current
    have left : 0 < p.credit := by
      simp only [credit, State.credit]
      omega
    omega

theorem runToEnd (h : m.Forward) (hl : m.limit = none) (hs : m.state.steps = 0)
    {r : Machine × Ending} (ends : m.Ends r) {limit : Option Int} {n : Nat} (enough : m.credit ≤ n)
    (bounded : (limit = none ∧ n < bound) ∨ limit = some (n : Int)) :
    (m.limited limit).runToEnd bound = (r.1.limited limit, r.2) := by
  rcases bounded with ⟨rfl, late⟩ | rfl
  case inr => exact h.limited hl hs (by simpa using enough) ends bound
  case inl =>
    have same : r = m.run bound := ends.unique (h.ends (by omega))
    rw [limited_self hl, same, limited_self ((m.run_limit bound).trans hl)]
    simp [Machine.runToEnd, horizon, hl]

end Forward

inductive Branches (m : Machine) (k : Int) : Prop
  | jump (current : m.state.current? m.image.program = some (.jump k nonzero))
  | zero (current : m.state.current? m.image.program = some (.ifZero k))
      (top : m.state.stack.head? = some 0)

-- The branch leads past the end, to a place with too long a number.
def Overshoots (m : Machine) : Prop :=
  ∃ k, m.Branches k ∧ m.image.program.size < m.state.ip + k ∧ isWritable (m.state.ip + k) = false

def Overruns (m : Machine) : Prop :=
  ∃ k p, m.run k = (p, .unfinished) ∧ p.Overshoots

theorem Branches.stops {k : Int} (h : m.Branches k) (hl : m.limit = none) (quiet : m.tracing = false)
    (outside : m.image.program.size < m.state.ip + k) :
    ∃ e i, m.step =
      (e, .error (m.stop i (.branchOutside (m.state.ip + k) m.image.program.size))) := by
  have outside : ¬(0 ≤ m.state.ip + k ∧ m.state.ip + k ≤ m.image.program.size) := by omega
  have free := not_balks_of_untraced quiet
  cases h
  case jump current =>
    have attempt := State.step_attempt current (not_exhausted_none m.state.steps)
    simp only [State.attempt, State.execute, State.branch, if_neg outside] at attempt
    obtain ⟨_, step⟩ := step_failed free (hl ▸ attempt)
    exact ⟨_, _, step⟩
  case zero current top =>
    have enough : reaches 1 m.state.stack := by
      obtain ⟨_, hs⟩ := List.head?_eq_some_iff.mp top
      rw [hs]
      rfl
    have attempt := State.step_attempt current (not_exhausted_none m.state.steps)
    simp only [State.attempt, State.execute, State.branch, Instruction.needs, if_pos enough,
      if_pos top, if_neg outside] at attempt
    obtain ⟨_, step⟩ := step_failed free (hl ▸ attempt)
    exact ⟨_, _, step⟩

theorem Overruns.ends (h : m.Overruns) (hl : m.limit = none) (quiet : m.tracing = false) :
    ∃ e, m.Ends (e, .unwritable) := by
  have ⟨n, p, pause, k, branches, outside, long⟩ := h
  have untraced := (tracing_of_unfinished pause).trans quiet
  have ⟨e, i, step⟩ := branches.stops ((limit_of_unfinished pause).trans hl) untraced outside
  have long : (Fault.branchOutside (p.state.ip + k) p.image.program.size).writable = false := long
  rw [stop_eq_unwritable_iff.mpr long] at step
  have stops : m.StopsAfter p.state.steps e .unwritable := ⟨p, rfl, step, n, pause⟩
  exact ⟨e, stops.ends⟩

inductive Missed (m : Machine) : Stop → Prop
  | failure
      (kind : f.fault.kind ∈ [.stackUnderflow, .returnStackUnderflow, .invalidAddress]) :
      Missed m (.failure f)
  | unwritable (past : m.Overruns) : Missed m .unwritable

theorem Branches.missed {k : Int} (h : m.Branches k)
    (outside : m.image.program.size < m.state.ip + k) :
    m.Missed (m.stop i (.branchOutside (m.state.ip + k) m.image.program.size)) := by
  rw [stop]
  split
  case isTrue       => exact .failure (by simp [failure, Fault.kind])
  case isFalse long => exact .unwritable ⟨0, m, rfl, k, h, outside, eq_false_of_ne_true long⟩

theorem Stepped.missed (h : m.Stepped (e, .error x)) (forward : m.Forward) (hl : m.limit = none)
    (quiet : m.tracing = false) : m.Missed x := by
  cases h
  case limit limit _ _    => cases hl.symm.trans limit
  case balks traced _     => cases quiet.symm.trans traced
  case underflow stop =>
    rw [← stop, stop_of_writable rfl]
    exact .failure (by simp [failure, Fault.kind])
  case failed current _ _ trips stop =>
    have ahead := forward.current current
    rw [← stop]
    cases trips
    case call    => cases ahead
    case word    => cases ahead
    case unknown => cases ahead
    case ret =>
      rw [stop_of_writable rfl]
      exact .failure (by simp [failure, Fault.kind])
    case jump outside _ =>
      have ahead := of_decide_eq_true ahead
      exact (Branches.jump current).missed (by omega)
    case zero top outside _ =>
      have ahead := of_decide_eq_true ahead
      exact (Branches.zero current top).missed (by omega)

theorem Forward.missed (h : m.Forward) (hl : m.limit = none) (quiet : m.tracing = false)
    (stops : m.run k = (e, x.ending)) : m.Missed x := by
  have ⟨n, p, pause, step⟩ := run_stopped stops
  have stepped : p.Stepped (e, .error x) := step ▸ p.step_stepped
  have ⟨forward, _⟩ := h.run pause
  have untraced := (tracing_of_unfinished pause).trans quiet
  cases stepped.missed forward ((limit_of_unfinished pause).trans hl) untraced
  case failure kind    => exact .failure kind
  case unwritable past =>
    obtain ⟨j, q, later, past⟩ := past
    exact .unwritable ⟨n + j, q, by rw [run_resume pause, later], past⟩

end Machine

theorem runProgram_of_run {items : List Item} {entries : Entries} {setup : Setup} {m e : Machine}
    {bound : Nat} {ending : Machine.Ending} (load : Machine.load items entries setup = .ok m)
    (run : m.runToEnd bound = (e, ending)) :
    runProgram bound items entries setup = (m.journal e ending, Report.ofRun e ending) := by
  simp only [runProgram, load, Machine.report, run]

-- A program that leads forward comes to its end within three steps for each instruction and one for
-- each cell, so that no step limit of so many cuts it off. The end is reported, unless the program takes
-- a branch too far for the place to be written.
theorem forward_programs_end {items : List Item} {entries : Entries} {cells : List Datum}
    {m : Machine} {n : Nat} (h : Machine.load items entries { cells } = .ok m)
    (forward : m.image.program.Forward)
    (enough : 3 * m.image.program.size + m.state.stack.length ≤ n) :
    (∃ r, m.Ends r ∧
      ∀ bound, (m.limited (some n)).runToEnd bound = (r.1.limited (some n), r.2)) ∧
    ∀ bound limit, (limit = none ∧ n < bound) ∨ limit = some (n : Int) →
      (m.Overruns → (runProgram bound items entries { cells, limit }).2 = .error .unwritable) ∧
      (¬m.Overruns → ∃ journal report,
        runProgram bound items entries { cells, limit } = (journal, .ok report) ∧ report.Complete ∧
        report.kind? ∈
          [none, some .stackUnderflow, some .returnStackUnderflow, some .invalidAddress]) := by
  have ⟨_, _, fresh⟩ := Machine.load_eq h
  have hl : m.limit = none := congrArg Machine.limit fresh
  have hs : m.state.steps = 0 := congrArg (·.state.steps) fresh
  have quiet : m.tracing = false := congrArg Machine.tracing fresh
  have leads : m.Forward := ⟨forward, congrArg (·.state.returns) fresh⟩
  have credit : m.credit ≤ n := by
    have start : m.state.ip = 0 := congrArg (·.state.ip) fresh
    simpa only [Machine.credit, State.credit, start, Nat.sub_zero] using enough
  rcases hr : m.run (n + 1) with ⟨e, ending⟩
  -- Every step that counts takes away some of the credit, so that this fuel is enough.
  have ends : m.Ends (e, ending) := hr ▸ leads.ends (Nat.lt_succ_of_le credit)
  refine ⟨⟨_, ends, fun _ => leads.runToEnd hl hs ends credit (.inr rfl)⟩, ?_⟩
  intro bound limit bounded
  have run := leads.runToEnd hl hs ends credit bounded
  have load : Machine.load items entries { cells, limit } = .ok (m.limited limit) := by
    rw [Machine.load_limited items entries { cells } limit none, h]
    rfl
  rw [runProgram_of_run load run]
  constructor
  · intro past
    have ⟨_, unwritable⟩ := past.ends hl quiet
    cases ends.unique unwritable
    rfl
  · intro inside
    cases ending
    case unfinished => exact absurd rfl ends.left
    case finished   => exact ⟨_, _, rfl, nofun, List.mem_cons_self⟩
    case failed f   =>
      cases leads.missed (x := .failure f) hl quiet hr
      case failure kind =>
        exact ⟨_, _, rfl, nofun, List.mem_cons_of_mem _ (List.mem_map_of_mem (f := some) kind)⟩
    case unwritable =>
      cases leads.missed (x := .unwritable) hl quiet hr
      case unwritable past => exact absurd past inside

def draining : Machine where
  image := { program := #[.ifZero 0, .prim .twoDup, .jump 2 (by omega), .ret] }
  state := { stack := [0, 0, 5, 3, 4] }

theorem draining_load :
    Machine.load (draining.image.program.toList.map .instruction) []
      { cells := [4, 3, 5, 0, 0].map .int } = .ok draining :=
  rfl

theorem draining_not_overruns : ¬draining.Overruns := by
  intro past
  have ends : draining.Ends ((draining.run 5).1, .finished) := ⟨nofun, 5, rfl⟩
  have ⟨_, unwritable⟩ := past.ends rfl rfl
  cases ends.unique unwritable

def leaping : Machine where
  image := { program := #[.push 0, .jump (tooLong - 1) (by have := ten_le_tooLong; omega)] }

theorem leaping_load :
    Machine.load (leaping.image.program.toList.map .instruction) [] {} = .ok leaping :=
  rfl

theorem leaping_forward : leaping.image.program.Forward := by
  have far : (0 : Int) < tooLong - 1 := by
    have := ten_le_tooLong
    omega
  simpa [Program.Forward, leaping, Instruction.isForward] using far

theorem leaping_overruns : leaping.Overruns := by
  refine ⟨1, _, rfl, tooLong - 1, .jump rfl, ?_, ?_⟩
  · have far := ten_le_tooLong
    show (2 : Int) < 1 + (tooLong - 1)
    omega
  · have far := ten_le_tooLong
    exact not_isWritable_of_natAbs (show (1 + (tooLong - 1) : Int).natAbs = tooLong by omega)

theorem forward_programs_end_draining :
    (∃ r, draining.Ends r ∧
      ∀ bound, (draining.limited (some 17)).runToEnd bound = (r.1.limited (some 17), r.2)) ∧
    (∃ journal report,
      runProgram 18 (draining.image.program.toList.map .instruction) []
        { cells := [4, 3, 5, 0, 0].map .int } = (journal, .ok report) ∧ report.Complete) ∧
    (runProgram 7 (leaping.image.program.toList.map .instruction) [] {}).2 = .error .unwritable := by
  have ⟨limited, told⟩ := forward_programs_end draining_load (by decide) (Nat.le_refl 17)
  have ⟨_, untold⟩ := forward_programs_end leaping_load leaping_forward (Nat.le_refl 6)
  have ⟨_, told⟩ := told 18 none (.inl ⟨rfl, by decide⟩)
  have ⟨untold, _⟩ := untold 7 none (.inl ⟨rfl, by decide⟩)
  have ⟨journal, report, run, complete, _⟩ := told draining_not_overruns
  exact ⟨limited, ⟨journal, report, run, complete⟩, untold leaping_overruns⟩

end StackForth
