import StackForth.Proofs.Simulation
import StackForth.Session

namespace StackForth.Session

theorem evaluate_cases (s : Session) (bound : Nat) (line : String) :
    ((s.evaluate bound line).1 = s ∧ ∀ r, (s.evaluate bound line).2.2 = .ok r → r.isOk = false) ∨
    ∃ a image r, Assembles s.words line a image ∧ (image.run bound s.setup).2 = .ok r ∧
      r.isOk = true ∧ (s.evaluate bound line).1 = s.accept r.stack a.bodies image ∧
      (s.evaluate bound line).2.2 = .ok r := by
  have complaint (e r) (h : Report.ofAssemblyError s.stack e = .ok r) : r.isOk = false := by
    cases e <;> cases h
    rfl
  simp only [evaluate]
  rcases hf : s.assembler.feed line with ⟨a, e | _⟩
  case error => exact .inl ⟨rfl, complaint e⟩
  case ok =>
    cases hi : a.finalize.2 <;> simp only [hi]
    case error e  => exact .inl ⟨trivial, complaint e⟩
    case ok image =>
      cases hr : (image.run bound s.setup).2
      case error => exact .inl ⟨rfl, fun _ h => by cases h⟩
      case ok r =>
        cases ho : r.isOk
        case false => exact .inl ⟨by simp [ho], fun _ h => Except.ok.inj h ▸ ho⟩
        case true  => exact .inr ⟨a, image, r, ⟨hf, hi⟩, hr, ho, by simp [ho], rfl⟩

-- Sessions as they come about: from lines that end well or not, resets, and other settings.
inductive Reached : Session → Prop
  | fresh (limit : Option Int) (tracing : Bool) : Reached { limit, tracing }
  | evaluate (bound : Nat) (line : String) : Reached s → Reached (s.evaluate bound line).1
  | reset : Reached s → Reached s.reset
  | set (limit : Option Int) (tracing : Bool) : Reached s → Reached { s with limit, tracing }

variable {s : Session}

theorem evaluate_wellFormed (h : s.words.WellFormed) (bound : Nat) (line : String) :
    (s.evaluate bound line).1.words.WellFormed := by
  cases s.evaluate_cases bound line
  case inl he =>
    rw [he.left]
    exact h
  case inr he =>
    have ⟨a, image, r, ha, _, _, hs, _⟩ := he
    rw [hs]
    exact (ha.wellFormed h).bodies

theorem Reached.wellFormed (h : Reached s) : s.words.WellFormed := by
  induction h
  case fresh       => exact .empty
  case evaluate ih => exact evaluate_wellFormed ih _ _
  case reset       => exact .empty
  case set ih      => exact ih

end StackForth.Session
