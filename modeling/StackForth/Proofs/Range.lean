import StackForth.Proofs.Alongside
import StackForth.Proofs.Nesting

namespace StackForth

def InRange (s : List Int) : Prop :=
  ∀ c ∈ s, Cell.Fits c

theorem inRange_cons {c : Int} {s : List Int} : InRange (c :: s) ↔ Cell.Fits c ∧ InRange s :=
  List.forall_mem_cons

theorem InRange.tail {s : List Int} (h : InRange s) : InRange s.tail :=
  fun c m => h c (List.mem_of_mem_tail m)

theorem fits_length_iff {s : List Int} : Cell.Fits s.length ↔ s.length ≤ Cell.greatest := by
  simp only [Cell.Fits, Cell.least, Cell.greatest]
  omega

theorem Load.inRange_stack {below s : List Int} {cells : List Datum}
    (h : stack below cells = .ok s) (hb : InRange below) : InRange s := by
  revert h
  fun_induction stack below cells <;> intro h
  case case1           => cases h; exact hb
  case case2 fits ih   => exact ih (inRange_cons.mpr ⟨fits, hb⟩) h
  case case3           => cases h
  case case4           => cases h

namespace Primitive

variable {p : Primitive} {s : List Int}

theorem gives_le (p : Primitive) : p.gives ≤ p.needs + 2 := by
  cases p <;> decide

theorem inRange_effect (other : p ≠ .depth) (h : InRange s) : InRange (p.effect s) := by
  fun_cases effect p s <;> simp_all [inRange_cons, Cell.fits_wrap]

end Primitive

namespace Moves

variable {image : Image} {s t : State} {i : Instruction}

theorem inRange (h : Moves image s i t) (other : i ≠ .prim .depth) (fits : InRange s.stack) :
    InRange t.stack := by
  cases h
  case prim p =>
    have other : p ≠ .depth := fun same => other (congrArg _ same)
    exact Primitive.inRange_effect other fits
  case push v  => exact inRange_cons.mpr ⟨Cell.fits_toInt v, fits⟩
  case zero    => exact fits.tail
  case nonzero => exact fits.tail
  all_goals exact fits

theorem length_le (h : Moves image s i t) (enough : i.needs ≤ s.stack.length) :
    t.stack.length ≤ s.stack.length + 2 := by
  cases h
  case prim p =>
    have length := Primitive.length_effect enough
    have gives := p.gives_le
    show (p.effect s.stack).length ≤ s.stack.length + 2
    omega
  case push    => exact Nat.le_succ _
  case zero    => simp; omega
  case nonzero => simp; omega
  all_goals exact Nat.le_add_right _ 2

end Moves

namespace Machine

variable {m n : Machine} {i : Instruction}

-- The machine pushes the depth of a stack with more cells than a cell can count.
structure Overflows (m : Machine) : Prop where
  executes : m.Executes (.prim .depth) m.step.1
  deep     : Cell.greatest < m.state.stack.length

theorem Overflows.stack_eq (h : m.Overflows) :
    m.step.1.state.stack = (m.state.stack.length : Int) :: m.state.stack := by
  have ⟨_, t, moves, state⟩ := h.executes.moves
  cases moves
  rw [state]
  rfl

theorem Overflows.not_fits (h : m.Overflows) : ¬Cell.Fits m.state.stack.length :=
  fun fits => Int.not_le.mpr h.deep (fits_length_iff.mp fits)

theorem inRange_step (fits : InRange m.state.stack) (h : ¬m.Overflows) :
    InRange m.step.1.state.stack := by
  have stepped := m.step_stepped
  rcases hs : m.step with ⟨n, answer⟩
  rw [hs] at stepped
  cases stepped
  case rest      => exact fits
  case limit     => exact fits
  case underflow => exact fits
  case balks     => exact fits
  case failed    => exact fits
  case next i t _ current below enough moves =>
    by_cases depth : i = .prim .depth
    case neg => exact moves.inRange depth fits
    case pos =>
      cases depth
      -- The depth is the only new number, and it fits unless the stack is too deep.
      have shallow : m.state.stack.length ≤ Cell.greatest := by
        apply Int.not_lt.mp
        exact fun deep => h ⟨⟨current, _, by rw [hs]⟩, deep⟩
      cases moves
      exact inRange_cons.mpr ⟨fits_length_iff.mpr shallow, fits⟩

theorem inRange_step_iff (fits : InRange m.state.stack) :
    InRange m.step.1.state.stack ↔ ¬m.Overflows := by
  refine ⟨fun kept h => h.not_fits ?_, inRange_step fits⟩
  rw [h.stack_eq] at kept
  exact (inRange_cons.mp kept).left

theorem length_step_le (m : Machine) :
    m.step.1.state.stack.length ≤ m.state.stack.length + 2 := by
  have stepped := m.step_stepped
  generalize m.step = r at stepped
  cases stepped
  case next _ _ enough moves => exact moves.length_le enough
  all_goals exact Nat.le_add_right _ 2

theorem inRange_run (fits : InRange m.state.stack) (k : Nat)
    (room : (m.state.stack.length + 2 * k : Int) ≤ Cell.greatest) :
    InRange (m.run k).1.state.stack := by
  induction k generalizing m
  case zero => exact fits
  case succ k ih =>
    have kept : InRange m.step.1.state.stack := inRange_step fits fun h => by
      have deep := h.deep
      omega
    have length := m.length_step_le
    rcases hs : m.step with ⟨n, _ | ⟨_ | _⟩⟩ <;> simp only [run, hs] at kept length ⊢
    case error    => exact kept
    case ok.false => exact kept
    case ok.true  => exact ih kept (by omega)

end Machine

-- A step leaves all cells in range, unless it pushes a depth that is out of range. The stack gets longer
-- by two cells at most, so that this takes a machine many steps.
theorem cells_stay_in_range :
    (∀ m : Machine, InRange m.state.stack → (InRange m.step.1.state.stack ↔ ¬m.Overflows)) ∧
    (∀ m : Machine, m.Overflows →
      m.step.1.state.stack = (m.state.stack.length : Int) :: m.state.stack ∧
      ¬Cell.Fits m.state.stack.length) ∧
    (∀ m : Machine, m.step.1.state.stack.length ≤ m.state.stack.length + 2) ∧
    ∀ items entries setup m, Machine.load items entries setup = .ok m →
      InRange m.state.stack ∧
      ∀ k : Nat, (m.state.stack.length + 2 * k : Int) ≤ Cell.greatest →
        InRange (m.run k).1.state.stack := by
  refine ⟨fun m => Machine.inRange_step_iff, fun m h => ⟨h.stack_eq, h.not_fits⟩,
    Machine.length_step_le, fun items entries setup m load => ?_⟩
  have fits : InRange m.state.stack := Load.inRange_stack (Machine.load_stack load) nofun
  exact ⟨fits, Machine.inRange_run fits⟩

def crowded : Machine where
  image := { program := #[.prim .depth] }
  state := { stack := List.replicate 2147483648 0 }

theorem crowded_load :
    Machine.load [.instruction (.prim .depth)] [] { cells := (List.replicate 2147483648 0).map .int } =
      .ok crowded := by
  have fits : ∀ c ∈ List.replicate 2147483648 (0 : Int), Cell.Fits c := by
    intro c m
    rw [List.eq_of_mem_replicate m]
    decide
  have stack := Load.stack_ok [] fits
  rw [List.reverse_replicate, List.append_nil] at stack
  simp only [Machine.load, stack]
  rfl

theorem crowded_overflows : crowded.Overflows where
  executes := ⟨rfl, _, rfl⟩
  deep     := by
    rw [crowded, List.length_replicate]
    decide

theorem cells_stay_in_range_crowded :
    InRange crowded.state.stack ∧ ¬InRange crowded.step.1.state.stack ∧
    InRange (sharing.run 1000000).1.state.stack := by
  have ⟨step, _, _, run⟩ := cells_stay_in_range
  have ⟨fits, _⟩ := run _ _ _ _ crowded_load
  have ⟨_, early⟩ := run _ _ _ _ sharing_load
  refine ⟨fits, fun kept => ?_, early 1000000 (by decide)⟩
  exact (step crowded fits).mp kept crowded_overflows

end StackForth
