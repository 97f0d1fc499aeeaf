import StackForth.Proofs.Evaluation

/-!
Threads: source code that is evaluated step by step. A thread comes to a stop exactly where evaluation
has a result, after as many steps as evaluation counts.
-/

namespace StackForth

-- What is left to do: the rest of the word that the thread is in, and the rests of the words that
-- wait for it. The main part is the last of them.
structure Thread where
  stack  : List Int
  code   : List Term
  frames : List (List Term) := []

namespace Thread

inductive Move
  | next (t : Thread)
  | stop (r : Result)

def step (v : Vocabulary) : Thread → Move
  | ⟨s, .literal n :: code, frames⟩   => .next ⟨n.toInt :: s, code, frames⟩
  | ⟨s, .primitive p :: code, frames⟩ =>
    if p.needs ≤ s.length
    then .next ⟨p.effect s, code, frames⟩
    else .stop (.failure (.stackUnderflow (.prim p) p.needs s.length) s)
  | ⟨s, .word w _ :: code, frames⟩    =>
    match v w with
    | some body => .next ⟨s, body, code :: frames⟩
    | none      => .stop (.failure (.unknownWord w) s)
  | ⟨s, [], code :: frames⟩           => .next ⟨s, code, frames⟩
  | ⟨s, [], []⟩                       => .stop (.value s)

section

variable {v : Vocabulary} {s : List Int} {code : List Term} {frames : List (List Term)}
variable {p : Primitive} {w : String} {h : w ≠ ""} {body : List Term}

theorem step_primitive (enough : p.needs ≤ s.length) :
    step v ⟨s, .primitive p :: code, frames⟩ = .next ⟨p.effect s, code, frames⟩ :=
  if_pos enough

theorem step_underflow (short : s.length < p.needs) :
    step v ⟨s, .primitive p :: code, frames⟩ =
      .stop (.failure (.stackUnderflow (.prim p) p.needs s.length) s) :=
  if_neg (Nat.not_le_of_lt short)

theorem step_word (known : v w = some body) :
    step v ⟨s, .word w h :: code, frames⟩ = .next ⟨s, body, code :: frames⟩ := by
  simp [step, known]

theorem step_unknown (missing : v w = none) :
    step v ⟨s, .word w h :: code, frames⟩ = .stop (.failure (.unknownWord w) s) := by
  simp [step, missing]

end

inductive Steps (v : Vocabulary) : Thread → Nat → Thread → Prop
  | refl : Steps v t 0 t
  | step : (t₁.step v = .next t₂) → Steps v t₂ k t₃ → Steps v t₁ (k + 1) t₃

def Stops (v : Vocabulary) (t : Thread) (k : Nat) (r : Result) : Prop :=
  ∃ t', Steps v t k t' ∧ t'.step v = .stop r

variable {v : Vocabulary} {t t₁ t₂ t₃ : Thread} {k l : Nat} {r : Result}
variable {code : List Term} {frames : List (List Term)} {s u : List Int} {fault : Fault}

namespace Steps

theorem trans (e₁ : Steps v t₁ k t₂) (e₂ : Steps v t₂ l t₃) : Steps v t₁ (k + l) t₃ := by
  induction e₁
  case refl         => rwa [Nat.zero_add]
  case step h _ ih  => exact Nat.add_right_comm _ l 1 ▸ step h (ih e₂)

theorem snoc (e : Steps v t₁ k t₂) (h : t₂.step v = .next t₃) : Steps v t₁ (k + 1) t₃ :=
  e.trans (.step h .refl)

end Steps

namespace Stops

theorem now (h : t.step v = .stop r) : Stops v t 0 r :=
  ⟨_, .refl, h⟩

theorem later (e : Steps v t₁ k t₂) : (Stops v t₂ l r) → Stops v t₁ (k + l) r
  | ⟨_, e', h⟩ => ⟨_, e.trans e', h⟩

theorem step (h : t₁.step v = .next t₂) : (Stops v t₂ k r) → Stops v t₁ (k + 1) r
  | ⟨_, e, h'⟩ => ⟨_, .step h e, h'⟩

end Stops

theorem exists_steps_of_not_stops (h : ∀ k r, ¬Stops v t k r) (n : Nat) :
    ∃ t', Steps v t n t' := by
  induction n
  case zero => exact ⟨_, .refl⟩
  case succ n ih =>
    have ⟨t', e⟩ := ih
    cases hs : t'.step v
    case next t'' => exact ⟨t'', e.snoc hs⟩
    case stop r   => exact absurd ⟨t', e, hs⟩ (h n r)

end Thread

namespace Evaluates

open Thread

variable {v : Vocabulary} {code : List Term} {s u : List Int} {k : Nat} {fault : Fault}

theorem steps (e : Evaluates v code s k (.value u)) (frames : List (List Term)) :
    Steps v ⟨s, code, frames⟩ k ⟨u, [], frames⟩ := by
  generalize hu : Result.value u = r at e
  induction e generalizing u frames <;> cases hu
  case nil                   => exact .refl
  case literal ih            => exact .step rfl (ih frames rfl)
  case primitive enough _ ih => exact .step (step_primitive enough) (ih frames rfl)
  case word k _ code l h known _ ih₁ _ ih₂ =>
    have call := Steps.step (step_word (h := h) known) (ih₁ (code :: frames) rfl)
    have back := call.snoc rfl
    have rest := back.trans (ih₂ frames rfl)
    have count : k + 1 + 1 + l = k + l + 2 := by omega
    exact count ▸ rest

theorem stops (e : Evaluates v code s k (.failure fault u)) (frames : List (List Term)) :
    Stops v ⟨s, code, frames⟩ k (.failure fault u) := by
  generalize hu : Result.failure fault u = r at e
  induction e generalizing u frames <;> cases hu
  case literal ih            => exact .step rfl (ih frames rfl)
  case primitive enough _ ih => exact .step (step_primitive enough) (ih frames rfl)
  case underflow short       => exact .now (step_underflow short)
  case wordFailure known _ ih => exact .step (step_word known) (ih (_ :: frames) rfl)
  case unknown missing       => exact .now (step_unknown missing)
  case word k _ code l h known e _ _ ih =>
    -- The word itself ends well; the failure is behind it.
    have call := Steps.step (step_word (h := h) known) (e.steps (code :: frames))
    have back := call.snoc rfl
    have rest := Stops.later back (ih frames rfl)
    have count : k + 1 + 1 + l = k + l + 2 := by omega
    exact count ▸ rest

end Evaluates

namespace Thread

-- Evaluation of all that is left of a thread: of its code first, and then of one frame after another,
-- with a step for each return.
inductive Unwinds (v : Vocabulary) : Thread → Nat → Result → Prop
  | last {code : List Term} : Evaluates v code s k r → Unwinds v ⟨s, code, []⟩ k r
  | failure {code : List Term} {frames : List (List Term)} :
      Evaluates v code s k (.failure fault u) → Unwinds v ⟨s, code, frames⟩ k (.failure fault u)
  | frame {code code' : List Term} {frames : List (List Term)} :
      Evaluates v code s k (.value u) → Unwinds v ⟨u, code', frames⟩ l r →
      Unwinds v ⟨s, code, code' :: frames⟩ (k + l + 1) r

namespace Unwinds

variable {v : Vocabulary} {t t' : Thread} {k : Nat} {r : Result}
variable {code code' body : List Term} {frames : List (List Term)} {s s' : List Int}

theorem head (e : Unwinds v ⟨s, code, frames⟩ k r)
    (h : ∀ k r, Evaluates v code s k r → Evaluates v code' s' (k + 1) r) :
    Unwinds v ⟨s', code', frames⟩ (k + 1) r := by
  cases e
  case last e    => exact last (h _ _ e)
  case failure e => exact failure (h _ _ e)
  case frame k _ l _ _ e e' =>
    have := frame (h _ _ e) e'
    rwa [Nat.add_right_comm k 1 l] at this

theorem call {w : String} {hw : w ≠ ""} (known : v w = some body)
    (e : Unwinds v ⟨s, body, code :: frames⟩ k r) :
    Unwinds v ⟨s, .word w hw :: code, frames⟩ (k + 1) r := by
  cases e
  case failure e => exact failure (.wordFailure known e)
  case frame k u l e e' =>
    -- What the caller had left is the head of what follows the word.
    cases e'
    case last e'    => exact last (.word known e e')
    case failure e' => exact failure (.word known e e')
    case frame l _ m _ _ e' e'' =>
      have := frame (.word (h := hw) known e e') e''
      have count : k + l + 2 + m + 1 = k + (l + m + 1) + 1 + 1 := by omega
      exact count ▸ this

theorem ofStep (h : t.step v = .next t') (e : Unwinds v t' k r) : Unwinds v t (k + 1) r := by
  revert h
  fun_cases t.step v <;> intro h <;> cases h
  case case1        => exact e.head fun _ _ => .literal
  case case2 enough => exact e.head fun _ _ => .primitive enough
  case case4 known  => exact e.call known
  case case6 =>
    have := frame .nil e
    rwa [Nat.zero_add] at this

theorem ofStop (h : t.step v = .stop r) : Unwinds v t 0 r := by
  revert h
  fun_cases t.step v <;> intro h <;> cases h
  case case3 short   => exact failure (.underflow (Nat.lt_of_not_le short))
  case case5 missing => exact failure (.unknown missing)
  case case7         => exact last .nil

theorem ofStops (h : Stops v t k r) : Unwinds v t k r := by
  obtain ⟨t', e, hr⟩ := h
  induction e
  case refl        => exact ofStop hr
  case step h _ ih => exact ofStep h (ih hr)

end Unwinds

-- Threads and evaluation agree on results and on the number of steps.
theorem stops_iff_evaluates {v : Vocabulary} {code : List Term} {s : List Int} {k : Nat}
    {r : Result} : Stops v ⟨s, code, []⟩ k r ↔ Evaluates v code s k r where
  mp h := by
    cases Unwinds.ofStops h
    case last e    => exact e
    case failure e => exact e
  mpr e := by
    cases r
    case value   => exact ⟨_, e.steps [], rfl⟩
    case failure => exact e.stops []

end Thread

end StackForth
