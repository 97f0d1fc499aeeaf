import Mathlib.Data.Int.ModEq
import Mathlib.Data.List.Forall2
import StackForth.Proofs.Range

namespace StackForth

def Congruent : List Int → List Int → Prop :=
  List.Forall₂ (Int.ModEq (2 ^ 32))

theorem Cell.wrap_modEq (n : Int) : Int.ModEq (2 ^ 32) (wrap n) n :=
  Int.bmod_emod

namespace Primitive

def exact : Effect
  | .add, b :: a :: s => (a + b) :: s
  | .mul, b :: a :: s => (a * b) :: s
  | p,    s           => p.effect s

def arithmetic : List Primitive :=
  [.add, .mul]

variable {p : Primitive} {s t : List Int}

theorem forall₂_effect {r : Int → Int → Prop} (h : List.Forall₂ r s t) (computes : p ∉ arithmetic)
    (counts : p ≠ .depth) : List.Forall₂ r (p.effect s) (p.effect t) := by
  rcases h with _ | ⟨_, _ | ⟨_, _ | ⟨_, _ | _⟩⟩⟩ <;> cases p <;> simp_all [effect, arithmetic]

theorem fits_effect (h : p ∈ arithmetic) (enough : p.needs ≤ s.length) :
    ∃ c rest, p.effect s = c :: rest ∧ Cell.Fits c := by
  rcases s with _ | ⟨b, _ | ⟨a, rest⟩⟩ <;> cases p <;> simp [arithmetic, needs] at h enough
  case cons.cons.add => exact ⟨_, _, rfl, Cell.fits_wrap _⟩
  case cons.cons.mul => exact ⟨_, _, rfl, Cell.fits_wrap _⟩

end Primitive

namespace Congruent

variable {p : Primitive} {s t : List Int}

theorem refl (s : List Int) : Congruent s s :=
  List.forall₂_same.mpr fun _ _ => .rfl

theorem level : Level Congruent :=
  fun _ _ h => h.length_eq.symm

theorem push (c : Int) (h : Congruent s t) : Congruent (c :: s) (c :: t) :=
  .cons .rfl h

theorem effect (p : Primitive) (h : Congruent s t) : Congruent (p.effect s) (p.exact t) := by
  cases p
  case add =>
    rcases h with _ | ⟨hb, _ | ⟨ha, h⟩⟩
    · exact .nil
    · exact .cons hb .nil
    · exact .cons ((Cell.wrap_modEq _).trans (ha.add hb)) h
  case mul =>
    rcases h with _ | ⟨hb, _ | ⟨ha, h⟩⟩
    · exact .nil
    · exact .cons hb .nil
    · exact .cons ((Cell.wrap_modEq _).trans (ha.mul hb)) h
  case depth =>
    have counted : Congruent ((s.length : Int) :: s) ((t.length : Int) :: t) := by
      rw [h.length_eq]
      exact h.push _
    exact counted
  all_goals exact Primitive.forall₂_effect h (by decide) (by decide)

end Congruent

-- A machine that wraps sums and products and one that does not are in the same place after every step,
-- with congruent cells, and come to the same end. What has been wrapped is in range.
theorem wrapping_can_wait {m : Machine} (h : m.image.program.Unbranched) :
    (∀ fuel, Machine.Together Congruent (m.run fuel) (m.runBy Primitive.exact fuel)) ∧
    ∀ (a b : Machine) p, a.Executes (.prim p) b → p ∈ Primitive.arithmetic →
      ∃ c rest, b.state.stack = c :: rest ∧ Cell.Fits c := by
  refine ⟨fun fuel => ?_, fun a b p executes arithmetic => ?_⟩
  -- Sums and products of congruent numbers are congruent, and other operations only move cells.
  · have keeps : m.image.program.Keeps Congruent Primitive.exact :=
      h.keeps Congruent.level (fun p _ _ related _ => related.effect p) fun c _ _ => .push c
    have start : m.Alongside Congruent m := ⟨rfl, rfl, rfl, .refl _, rfl, rfl, rfl, rfl⟩
    exact start.run_level keeps Congruent.level fuel
  · have ⟨enough, _, moves, state⟩ := executes.moves
    cases moves
    rw [state]
    exact Primitive.fits_effect arithmetic enough

def spilling : Machine where
  image :=
    ⟨#[.push 65536, .callWord "large", .push 2147483647, .push 1, .prim .add, .halt, .prim .dup,
      .prim .mul, .ret], Table.empty.insert "large" 6⟩

theorem spilling_unbranched : spilling.image.program.Unbranched := by
  intro k
  simp [spilling]

theorem wrapping_can_wait_spilling :
    (spilling.run 9).1.state.stack = [-2147483648, 0] ∧
    (spilling.runBy Primitive.exact 9).1.state.stack = [2147483648, 4294967296] ∧
    Machine.Together Congruent (spilling.run 9) (spilling.runBy Primitive.exact 9) ∧
    ∃ c rest, (spilling.run 4).1.state.stack = c :: rest ∧ Cell.Fits c := by
  have ⟨together, wrapped⟩ := wrapping_can_wait spilling_unbranched
  have squares : (spilling.run 3).1.Executes (.prim .mul) (spilling.run 4).1 := ⟨rfl, _, rfl⟩
  exact ⟨rfl, rfl, together 9, wrapped _ _ _ squares (by decide)⟩

end StackForth
