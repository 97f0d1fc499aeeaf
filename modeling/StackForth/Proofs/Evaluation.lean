import StackForth.Machine.Fault
import StackForth.Proofs.Term

namespace StackForth

-- The definitions of names. A name that is not defined has none.
def Vocabulary :=
  String → Option (List Term)

def Table.vocabulary (words : Table Program) : Vocabulary :=
  fun name => (words.find? name).map Program.terms

inductive Result
  | value (stack : List Int)
  | failure (fault : Fault) (stack : List Int)
deriving DecidableEq

-- Terms are evaluated from left to right. The number counts the terms that are done and the returns
-- from words, but not the term that a failure is due to.
inductive Evaluates (v : Vocabulary) : List Term → List Int → Nat → Result → Prop
  | nil : Evaluates v [] s 0 (.value s)
  | literal : Evaluates v code (n.toInt :: s) k r → Evaluates v (.literal n :: code) s (k + 1) r
  | primitive (enough : p.needs ≤ s.length) :
      Evaluates v code (p.effect s) k r → Evaluates v (.primitive p :: code) s (k + 1) r
  | underflow (short : s.length < p.needs) :
      Evaluates v (.primitive p :: code) s 0
        (.failure (.stackUnderflow (.prim p) p.needs s.length) s)
  | word (known : v w = some body) :
      Evaluates v body s k (.value u) → Evaluates v code u l r →
      Evaluates v (.word w h :: code) s (k + l + 2) r
  | wordFailure (known : v w = some body) :
      Evaluates v body s k (.failure fault u) →
      Evaluates v (.word w h :: code) s (k + 1) (.failure fault u)
  | unknown (missing : v w = none) :
      Evaluates v (.word w h :: code) s 0 (.failure (.unknownWord w) s)

namespace Evaluates

variable {v v' : Vocabulary} {code code' : List Term} {s u : List Int} {k l : Nat} {r : Result}

theorem append (e : Evaluates v code s k (.value u)) (e' : Evaluates v code' u l r) :
    Evaluates v (code ++ code') s (k + l) r := by
  generalize hu : Result.value u = r' at e
  induction e <;> cases hu
  case nil => simpa using e'
  case literal k _ ih =>
    have := literal (ih rfl)
    rwa [Nat.add_right_comm] at this
  case primitive k enough _ ih =>
    have := primitive enough (ih rfl)
    rwa [Nat.add_right_comm] at this
  case word h known body _ _ ih =>
    have := word (h := h) known body (ih rfl)
    simpa [Nat.add_assoc, Nat.add_comm 2 l] using this

-- A value stays the same when names that had no definition get one. A failure may go away.
theorem extend (e : Evaluates v code s k (.value u))
    (h : ∀ name body, v name = some body → v' name = some body) :
    Evaluates v' code s k (.value u) := by
  generalize hu : Result.value u = r at e
  induction e generalizing u <;> cases hu
  case nil                    => exact nil
  case literal ih             => exact literal (ih rfl)
  case primitive enough _ ih  => exact primitive enough (ih rfl)
  case word known _ ih₁ _ ih₂ => exact word (h _ _ known) (ih₁ rfl) (ih₂ rfl)

end Evaluates

end StackForth
