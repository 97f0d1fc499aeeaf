import StackForth.Proofs.Budget

namespace StackForth

-- A limit that is no higher than another one. To have none is higher than any.
def Within (limit top : Option Int) : Prop :=
  ∀ n, top = some n → ∃ k, limit = some k ∧ k ≤ n

theorem within_some {k n : Int} (h : k ≤ n) : Within (some k) (some n) :=
  fun _ same => ⟨k, rfl, Option.some.inj same ▸ h⟩

theorem Within.not_exhausted {limit top : Option Int} {steps : Nat} (h : Within limit top)
    (below : ¬Exhausted limit steps) : ¬Exhausted top steps := by
  intro ⟨n, ht, reached⟩
  have ⟨k, hk, le⟩ := h n ht
  exact below ⟨k, hk, Int.le_trans le reached⟩

namespace Machine

-- Calls that move a machine on, each under a limit of its own. A call comes back with an answer or is
-- stopped by its limit. Nothing but the limit is set in between.
inductive Paused (top : Option Int) : Machine → Machine → Prop
  | refl : Paused top m m
  | step (within : Within low top) (call : (m.limited low).step = (n, .ok more))
      (rest : Paused top n p) : Paused top m p
  | stepStopped (within : Within low top) (call : (m.limited low).step = (n, .error (.failure f)))
      (stop : f.fault.kind = .stepLimit) (rest : Paused top n p) : Paused top m p
  | run (fuel : Nat) (within : Within low top)
      (call : (m.limited low).run fuel = (n, .finished)) (rest : Paused top n p) : Paused top m p
  | runStopped (fuel : Nat) (within : Within low top)
      (call : (m.limited low).run fuel = (n, .failed f)) (stop : f.fault.kind = .stepLimit)
      (rest : Paused top n p) : Paused top m p

variable {m n : Machine} {r : Machine × Ending} {limit top : Option Int} {fuel : Nat} {more : Bool}
variable {f : Failure} {ending : Ending}

theorem limited_self (h : m.limit = limit) : m.limited limit = m := by
  cases h
  rfl

theorem Stepped.rests {r : Machine × Except Stop Bool} (h : m.Stepped r)
    (last : r.2 = .ok false) : r.1.state.current? r.1.image.program = none := by
  cases h
  case rest done => exact done
  case limit     => cases last
  case underflow => cases last
  case balks     => cases last
  case failed    => cases last
  case next      => simpa [State.running] using last

theorem rests_of_finished (h : m.run fuel = (n, .finished)) :
    n.state.current? n.image.program = none := by
  induction fuel generalizing m
  case zero => cases h
  case succ fuel ih =>
    have stepped := m.step_stepped
    rcases hs : m.step with ⟨q, x | ⟨_ | _⟩⟩ <;> simp only [Machine.run, hs] at h stepped
    case error    => cases x <;> cases h
    case ok.false => cases h; exact stepped.rests rfl
    case ok.true  => exact ih h

theorem Ends.iff_eq {r' : Machine × Ending} (h : m.Ends r) : m.Ends r' ↔ r' = r :=
  ⟨fun h' => h'.unique h, fun same => same ▸ h⟩

theorem ends_iff_of_step (h : m.step = (n, .ok more)) : m.Ends r ↔ n.Ends r := by
  cases more
  case false =>
    have stepped : m.Stepped (n, .ok false) := h ▸ m.step_stepped
    have last : m.run 1 = (n, .finished) := by simp only [Machine.run, h]
    have rest : n.run 1 = (n, .finished) := run_of_rest (stepped.rests rfl) 0
    rw [(ends_of_finished last).iff_eq, (ends_of_finished rest).iff_eq]
  case true =>
    constructor
    case mp =>
      rintro ⟨ended, fuel, run⟩
      cases fuel
      case zero      => exact absurd (run ▸ rfl) ended
      case succ fuel => exact ⟨ended, fuel, run_next h fuel ▸ run⟩
    case mpr =>
      rintro ⟨ended, fuel, run⟩
      exact ⟨ended, fuel + 1, (run_next h fuel).trans run⟩

theorem step_within (within : Within limit top) (h : (m.limited limit).step = (n, .ok more)) :
    (m.limited top).step = (n.limited top, .ok more) := by
  have stepped : (m.limited limit).Stepped (n, .ok more) := h ▸ (m.limited limit).step_stepped
  have ⟨allowed, _⟩ := stepped.answered
  have higher : (m.limited limit).Allowed top := allowed.imp_right within.not_exhausted
  have step := step_limited higher allowed
  rwa [h] at step

theorem eq_of_stopped (h : m.step = (n, .error (.failure f))) (stop : f.fault.kind = .stepLimit) :
    n = m := by
  have stepped : m.Stepped (n, .error (.failure f)) := h ▸ m.step_stepped
  cases stepped <;> rename m.stop _ _ = .failure f => told <;>
    obtain ⟨_, rfl⟩ := stop_eq_failure_iff.mp told
  case limit current hl reached _ =>
    have refused := step_limited_refused current reached
    rw [limited_self hl, h] at refused
    exact congrArg Prod.fst refused
  case underflow      => cases stop
  case failed trips _ => cases trips <;> cases stop

theorem ends_iff_of_run (within : Within limit top) (h : (m.limited limit).run fuel = (n, ending))
    (told : ending ≠ .unwritable)
    (stop : ∀ f, ending = .failed f → f.fault.kind = .stepLimit) :
    (m.limited top).Ends r ↔ (n.limited top).Ends r := by
  induction fuel generalizing m
  case zero => cases h; rfl
  case succ fuel ih =>
    have stepped := (m.limited limit).step_stepped
    rcases hs : (m.limited limit).step with ⟨q, x | ⟨_ | _⟩⟩ <;>
      simp only [Machine.run, hs] at h stepped
    case error =>
      cases x <;> cases h
      case failure f  => cases eq_of_stopped hs (stop f rfl); rfl
      case unwritable => exact absurd rfl told
    case ok.false =>
      cases h
      exact ends_iff_of_step (step_within within hs)
    case ok.true =>
      have same : q.limited limit = q := limited_self stepped.limit_eq
      exact (ends_iff_of_step (step_within within hs)).trans (ih (same ▸ h))

theorem Paused.ends_iff (h : m.Paused top n) : (m.limited top).Ends r ↔ (n.limited top).Ends r := by
  induction h
  case refl => rfl
  case step within call _ ih =>
    exact (ends_iff_of_step (step_within within call)).trans ih
  case stepStopped within call stop _ ih =>
    cases eq_of_stopped call stop
    exact ih
  case run within call _ ih =>
    exact (ends_iff_of_run within call nofun nofun).trans ih
  case runStopped within call stop _ ih =>
    refine (ends_iff_of_run within call nofun ?_).trans ih
    exact fun _ same => Ending.failed.inj same ▸ stop

end Machine

-- However a run is taken apart, it has the same end with the same trace, or none. At its end there is
-- nothing more to do.
theorem paused_run_ends_alike {top : Option Int} {m n : Machine} (h : m.Paused top n) :
    (∀ r, (m.limited top).Ends r ↔ (n.limited top).Ends r) ∧
    ∀ fuel e, m.run fuel = (e, .finished) →
      ∀ limit more, (e.limited limit).run (more + 1) = (e.limited limit, .finished) := by
  refine ⟨fun r => h.ends_iff, fun fuel e ended limit more => ?_⟩
  have rest := Machine.rests_of_finished ended
  exact Machine.run_of_rest (m := e.limited limit) rest more

theorem squaring_paused :
    ∃ n, squaring.Paused (some 6) n ∧ n.state = { stack := [25], ip := 2, steps := 5 } := by
  have two   : Within (some 2) (some 6) := within_some (by decide)
  have three : Within (some 3) (some 6) := within_some (by decide)
  have five  : Within (some 5) (some 6) := within_some (by decide)
  have calls : squaring.Paused (some 6) _ :=
    .runStopped 3 two rfl rfl <| .step three rfl <| .stepStopped three rfl rfl <|
      .runStopped 3 five rfl rfl .refl
  exact ⟨_, calls, rfl⟩

theorem paused_run_ends_alike_square :
    ∃ n, squaring.Paused (some 6) n ∧ n.state.steps = 5 ∧
      (n.limited (some 6)).Ends ((squaring.limited (some 6)).run 6) := by
  have ⟨n, paused, state⟩ := squaring_paused
  have ⟨alike, _⟩ := paused_run_ends_alike paused
  have run : (squaring.limited (some 6)).run 6 =
      (((squaring.limited (some 6)).run 6).1, .finished) := rfl
  exact ⟨n, paused, congrArg State.steps state, (alike _).mp (Machine.ends_of_finished run)⟩

end StackForth
