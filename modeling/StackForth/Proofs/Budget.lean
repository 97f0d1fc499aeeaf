import StackForth.Proofs.Bounds
import StackForth.Proofs.Reporting

namespace StackForth

theorem not_exhausted_none (steps : Nat) : ¬Exhausted none steps :=
  fun ⟨_, h, _⟩ => nomatch h

theorem not_exhausted_some_iff {n : Int} {steps : Nat} :
    ¬Exhausted (some n) steps ↔ steps < n.toNat := by
  simp [Exhausted]

namespace Machine

def limited (m : Machine) (limit : Option Int) : Machine :=
  { m with limit }

def Ends (m : Machine) (r : Machine × Ending) : Prop :=
  r.2 ≠ .unfinished ∧ ∃ fuel, m.run fuel = r

def EndsAfter (m : Machine) (k : Nat) (e : Machine) : Prop :=
  e.state.steps = k ∧ m.Ends (e, .finished)

-- The run comes to an instruction with a count of `k`, and stops there.
def StopsAfter (m : Machine) (k : Nat) (e : Machine) (x : Stop) : Prop :=
  ∃ p, p.state.steps = k ∧ p.step = (e, .error x) ∧ ∃ fuel, m.run fuel = (p, .unfinished)

def cutOff (m : Machine) (i : Instruction) (n : Int) : Ending :=
  if isWritable n then .failed (m.failure i (.stepLimit n)) else .unwritable

inductive Cut (m : Machine) (n : Int) : Machine × Ending → Prop
  | finished (ends : m.EndsAfter k e) (enough : k ≤ n.toNat) :
      Cut m n (e.limited (some n), .finished)
  | stopped (stops : m.StopsAfter k e x) (enough : k < n.toNat) :
      Cut m n (e.limited (some n), x.ending)
  | cut (pause : m.run n.toNat = (p, .unfinished))
      (current : p.state.current? p.image.program = some i) :
      Cut m n (p.limited (some n), p.cutOff i n)

variable {m p e : Machine} {r : Machine × Except Stop Bool} {limit : Option Int} {fuel k : Nat}
variable {n n' : Int} {x : Stop} {i : Instruction} {ending : Ending}

theorem ending_stop_stepLimit (m : Machine) (i : Instruction) (n : Int) :
    (m.stop i (.stepLimit n)).ending = m.cutOff i n := by
  by_cases hw : isWritable n <;> simp [stop, cutOff, Fault.writable, Stop.ending, hw]

-- The limit does not keep the machine from its next step. If there is nothing to execute, none does.
def Allowed (m : Machine) (limit : Option Int) : Prop :=
  m.state.current? m.image.program = none ∨ ¬Exhausted limit m.state.steps

theorem allowed_none (m : Machine) : m.Allowed none :=
  .inr (not_exhausted_none _)

theorem Allowed.state_step (h : m.Allowed limit) :
    m.state.step m.image limit = m.state.step m.image none := by
  cases hs : m.state.current? m.image.program
  case none   => simp only [State.step, hs]
  case some i =>
    have below : ¬Exhausted limit m.state.steps := h.resolve_left (by simp [hs])
    rw [State.step_attempt hs below, State.step_attempt hs (not_exhausted_none _)]

theorem after_limited (m : Machine) (limit : Option Int) (s : Step) :
    (m.limited limit).after s = ((m.after s).1.limited limit, (m.after s).2) := by
  cases s <;> rfl

theorem recorded_limited (m : Machine) (limit : Option Int) (s : Step) :
    (m.limited limit).recorded s = ((m.recorded s).1.limited limit, (m.recorded s).2) := by
  simp only [recorded, show (m.limited limit).written? s = m.written? s from rfl]
  cases m.written? s
  case none      => rfl
  case some text => exact (m.emit text).after_limited limit s

theorem step_limited (h : m.Allowed limit) (hm : m.Allowed m.limit) :
    (m.limited limit).step = (m.step.1.limited limit, m.step.2) := by
  have same : m.state.step m.image limit = m.state.step m.image m.limit :=
    h.state_step.trans hm.state_step.symm
  rw [step_eq, step_eq m, ← recorded_limited]
  exact congrArg (m.limited limit).recorded same

theorem step_limited_refused (current : m.state.current? m.image.program = some i)
    (reached : n ≤ m.state.steps) :
    (m.limited (some n)).step = (m.limited (some n), .error (m.stop i (.stepLimit n))) := by
  have refused : m.state.step m.image (some n) = .refused i (.stepLimit n) :=
    State.step_limit current reached
  rw [step_eq]
  show (m.limited (some n)).recorded (m.state.step m.image (some n)) = _
  rw [refused, recorded_of_not_counted rfl]
  rfl

theorem Stepped.answered {more : Bool} (h : m.Stepped (p, .ok more)) :
    m.Allowed m.limit ∧
      (m.state.current? m.image.program = none ∨ p.state.steps = m.state.steps + 1) := by
  cases h
  case rest done      => exact ⟨.inl done, .inl done⟩
  case next below _ _ =>
    refine ⟨.inr fun ⟨n, hn, reached⟩ => ?_, .inr rfl⟩
    exact absurd (below n hn) (Int.not_lt.mpr reached)

theorem ends_of_finished (h : m.run fuel = (e, .finished)) : m.Ends (e, .finished) :=
  ⟨nofun, fuel, h⟩

theorem ends_of_stopped (h : m.run fuel = (e, x.ending)) : m.Ends (e, x.ending) :=
  ⟨ending_ne_unfinished x, fuel, h⟩

theorem Ends.unique {r r' : Machine × Ending} (h : m.Ends r) (h' : m.Ends r') : r = r' := by
  have ⟨ended, _, run⟩ := h
  have ⟨ended', _, run'⟩ := h'
  rw [← run] at ended ⊢
  rw [← run'] at ended' ⊢
  exact run_unique ended ended'

theorem StopsAfter.ends (h : m.StopsAfter k e x) : m.Ends (e, x.ending) := by
  have ⟨p, _, stops, fuel, pause⟩ := h
  have stopped : m.run (fuel + 1) = (e, x.ending) := by
    rw [run_resume pause]
    simp only [run, stops]
  exact ends_of_stopped stopped

theorem stopsAfter_of_run (h : m.run fuel = (e, x.ending)) :
    ∃ k, k < m.state.steps + fuel ∧ m.StopsAfter k e x := by
  have ⟨k, p, pause, step⟩ := run_stopped h
  refine ⟨p.state.steps, ?_, p, rfl, step, k, pause⟩
  rw [steps_of_unfinished pause]
  apply Nat.add_lt_add_left
  apply Nat.lt_of_not_le
  intro late
  have ⟨more, hk⟩ := Nat.exists_eq_add_of_le late
  have again : m.run k = (e, x.ending) := by
    rw [hk, run_add (by simp [h, ending_ne_unfinished]), h]
  exact ending_ne_unfinished x (congrArg Prod.snd (again.symm.trans pause))

theorem run_limited (hm : m.limit = none) (fuel : Nat) (h : m.state.steps + fuel ≤ n.toNat) :
    (m.limited (some n)).run fuel = ((m.run fuel).1.limited (some n), (m.run fuel).2) := by
  induction fuel generalizing m
  case zero => rfl
  case succ fuel ih =>
    have allowed : m.Allowed (some n) := .inr (not_exhausted_some_iff.mpr (by omega))
    have step := step_limited allowed (hm ▸ m.allowed_none)
    have stepped := m.step_stepped
    rcases hs : m.step with ⟨q, _ | ⟨_ | _⟩⟩ <;> simp only [run, step, hs] at stepped ⊢
    case ok.true =>
      have count : q.state.steps = m.state.steps + 1 := stepped.counted.right
      exact ih (stepped.limit_eq.trans hm) (by omega)

theorem run_limited_finished (hm : m.limit = none) (h : m.run fuel = (e, .finished))
    (enough : e.state.steps ≤ n.toNat) :
    (m.limited (some n)).run fuel = (e.limited (some n), .finished) := by
  induction fuel generalizing m
  case zero => cases h
  case succ fuel ih =>
    have stepped := m.step_stepped
    rcases hs : m.step with ⟨q, _ | more⟩ <;> rw [hs] at stepped
    case error x =>
      simp only [run, hs] at h
      cases x <;> cases h
    case ok =>
      have count := stepped.answered.right
      -- The count never goes down, so that no step on the way has reached the limit.
      have late : q.state.steps ≤ e.state.steps := by
        cases more <;> simp only [run, hs] at h
        case false => cases h; exact Nat.le_refl _
        case true  =>
          have late := q.le_steps_run fuel
          rwa [h] at late
      have allowed : m.Allowed (some n) := by
        refine count.imp_right fun count => not_exhausted_some_iff.mpr ?_
        omega
      have step := step_limited allowed (hm ▸ m.allowed_none)
      cases more <;> simp only [run, hs, step] at h ⊢
      case false => cases h; rfl
      case true  => exact ih (stepped.limit_eq.trans hm) h

theorem runToEnd_limited {r : Machine × Ending} (h : (m.limited (some n)).Ends r) (bound : Nat) :
    (m.limited (some n)).runToEnd bound = r := by
  have ended := runToEnd_ends (m := m.limited (some n)) rfl bound
  exact Ends.unique ⟨ended, _, rfl⟩ h

theorem EndsAfter.limited (h : m.EndsAfter k e) (hm : m.limit = none) (enough : k ≤ n.toNat)
    (bound : Nat) : (m.limited (some n)).runToEnd bound = (e.limited (some n), .finished) := by
  have ⟨count, _, fuel, run⟩ := h
  have whole := run_limited_finished hm run (count ▸ enough)
  exact runToEnd_limited (ends_of_finished whole) bound

theorem StopsAfter.limited (h : m.StopsAfter k e x) (hm : m.limit = none) (enough : k < n.toNat)
    (bound : Nat) : (m.limited (some n)).runToEnd bound = (e.limited (some n), x.ending) := by
  have ⟨p, count, stops, fuel, pause⟩ := h
  have steps := steps_of_unfinished pause
  have front := run_limited (n := n) hm fuel (by omega)
  rw [pause] at front
  have allowed : p.Allowed (some n) := .inr (not_exhausted_some_iff.mpr (by omega))
  have same : p.limit = none := (limit_of_unfinished pause).trans hm
  have step := step_limited allowed (same ▸ p.allowed_none)
  have whole : (m.limited (some n)).run (fuel + 1) = (e.limited (some n), x.ending) := by
    rw [run_resume front]
    simp only [run, step, stops]
  exact runToEnd_limited (ends_of_stopped whole) bound

theorem cut_runToEnd (hm : m.limit = none) (hs : m.state.steps = 0) (n : Int) (bound : Nat) :
    m.Cut n ((m.limited (some n)).runToEnd bound) := by
  have front := run_limited (n := n) hm n.toNat (by omega)
  have count := m.steps_run_le n.toNat
  have stopped (x : Stop) (p : Machine) (hr : m.run n.toNat = (p, x.ending))
      (front : (m.limited (some n)).run n.toNat = (p.limited (some n), x.ending)) :
      m.Cut n ((m.limited (some n)).runToEnd bound) := by
    rw [runToEnd_limited (ends_of_stopped front)]
    have ⟨k, early, stops⟩ := stopsAfter_of_run hr
    exact .stopped stops (by omega)
  rcases hr : m.run n.toNat with ⟨p, _ | _ | _ | _⟩ <;>
    simp only [hr, hs, Nat.zero_add] at front count
  case finished =>
    rw [runToEnd_limited (ends_of_finished front)]
    exact .finished ⟨rfl, ends_of_finished hr⟩ count
  case failed f   => exact stopped (.failure f) p hr front
  case unwritable => exact stopped .unwritable p hr front
  case unfinished =>
    have steps := steps_of_unfinished hr
    cases current : p.state.current? p.image.program
    case none =>
      -- There is nothing to execute, so that the limit does not come into it.
      have limited : (m.limited (some n)).run (n.toNat + 1) = (p.limited (some n), .finished) := by
        rw [run_resume front]
        exact run_of_rest (m := p.limited (some n)) current 0
      have whole : m.run (n.toNat + 1) = (p, .finished) := by
        rw [run_resume hr, run_of_rest current]
      rw [runToEnd_limited (ends_of_finished limited)]
      exact .finished ⟨rfl, ends_of_finished whole⟩ count
    case some i =>
      have limited : (m.limited (some n)).run (n.toNat + 1) =
          (p.limited (some n), (p.stop i (.stepLimit n)).ending) := by
        rw [run_resume front]
        simp only [run, step_limited_refused current (show n ≤ p.state.steps by omega)]
      rw [runToEnd_limited (ends_of_stopped limited), ending_stop_stepLimit]
      exact .cut hr current

theorem Cut.higher (h : m.Cut n (e, ending)) (hm : m.limit = none) (hn : n ≤ n')
    (told : ending ≠ .unwritable) (whole : ∀ f, ending = .failed f → f.fault.kind ≠ .stepLimit)
    (bound : Nat) : (m.limited (some n')).runToEnd bound = (e.limited (some n'), ending) := by
  have higher : n.toNat ≤ n'.toNat := Int.toNat_le_toNat hn
  generalize hr : (e, ending) = r at h
  cases h
  case finished ends enough => cases hr; exact ends.limited hm (by omega) bound
  case stopped stops enough => cases hr; exact stops.limited hm (by omega) bound
  case cut =>
    obtain ⟨-, rfl⟩ := Prod.mk.inj hr
    simp only [cutOff] at told whole
    split at told
    case isFalse => exact absurd rfl told
    case isTrue writable => exact absurd rfl (whole _ (if_pos writable))

theorem report_limited {journal : Journal} {report : Report} (hm : m.limit = none)
    (hs : m.state.steps = 0) (hn : n ≤ n') {bound : Nat}
    (h : (m.limited (some n)).report bound = (journal, .ok report))
    (whole : report.kind? ≠ some .stepLimit) :
    (m.limited (some n')).report bound = (journal, .ok report) := by
  have cut := cut_runToEnd hm hs n bound
  rcases hr : (m.limited (some n)).runToEnd bound with ⟨e, ending⟩
  rw [hr] at cut
  rw [← h]
  simp only [Machine.report, hr] at h ⊢
  obtain ⟨-, told⟩ := Prod.mk.inj h
  have uncut : ∀ f, ending = .failed f → f.fault.kind ≠ .stepLimit := by
    intro f hf hk
    cases hf
    cases told
    exact whole (congrArg some hk)
  have writable : ending ≠ .unwritable := by
    intro hu
    cases hu
    cases told
  rw [cut.higher hm hn writable uncut bound]
  rfl

theorem Stepped.steps_le_limit (h : m.Stepped r) (hl : m.limit = some n)
    (le : m.state.steps ≤ n.toNat) : r.1.state.steps ≤ n.toNat := by
  cases h
  case rest      => exact le
  case limit     => exact le
  case underflow => exact le
  case balks     => exact le
  case failed below _ _ _ =>
    have := below n hl
    show m.state.steps + 1 ≤ n.toNat
    omega
  case next below _ _ =>
    have := below n hl
    show m.state.steps + 1 ≤ n.toNat
    omega

theorem steps_run_limited_le (hs : m.state.steps = 0) (n : Int) (fuel : Nat) :
    ((m.limited (some n)).run fuel).1.state.steps ≤ n.toNat := by
  let P (p : Machine) := p.limit = some n ∧ p.state.steps ≤ n.toNat
  have start : P (m.limited (some n)) := ⟨rfl, hs ▸ Nat.zero_le _⟩
  refine (run_invariant (P := P) ?_ start fuel).right
  intro p ⟨hl, le⟩
  have stepped := p.step_stepped
  exact ⟨stepped.limit_eq.trans hl, stepped.steps_le_limit hl le⟩

theorem load_limited (items : List Item) (entries : Entries) (setup : Setup)
    (limit limit' : Option Int) :
    load items entries { setup with limit } =
      (load items entries { setup with limit := limit' }).map (·.limited limit) := by
  simp only [load]
  cases Load.instructions 0 items <;> cases Load.stack [] setup.cells <;>
    cases Dictionary.ofEntries entries <;> rfl

end Machine

-- The run under a limit is the one without a limit, if that ends or stops within the limit. Any other
-- run is stopped in front of the instruction that it comes to after so many steps, with a failure that
-- tells of the limit, or without one if the limit is too long to be written. So a report that does not
-- tell of the limit is the same under every higher limit.
theorem limit_only_cuts_run {items : List Item} {entries : Entries} {m : Machine} (setup : Setup)
    (h : Machine.load items entries { setup with limit := none } = .ok m) (n : Int) (bound : Nat) :
    Machine.load items entries { setup with limit := some n } = .ok (m.limited (some n)) ∧
    (∀ k e, m.EndsAfter k e → k ≤ n.toNat →
      (m.limited (some n)).runToEnd bound = (e.limited (some n), .finished)) ∧
    (∀ k e x, m.StopsAfter k e x → k < n.toNat →
      (m.limited (some n)).runToEnd bound = (e.limited (some n), x.ending)) ∧
    ((∀ k e, m.EndsAfter k e → n.toNat < k) → (∀ k e x, m.StopsAfter k e x → n.toNat ≤ k) →
      ∃ p i, m.run n.toNat = (p, .unfinished) ∧ p.state.steps = n.toNat ∧
        p.state.current? p.image.program = some i ∧
        (m.limited (some n)).runToEnd bound =
          (p.limited (some n),
            if isWritable n then .failed (p.failure i (.stepLimit n)) else .unwritable)) ∧
    (∀ fuel, ((m.limited (some n)).run fuel).1.state.steps ≤ n.toNat) ∧
    ∀ n' journal report, n ≤ n' →
      runProgram bound items entries { setup with limit := some n } = (journal, .ok report) →
      report.kind? ≠ some .stepLimit →
      runProgram bound items entries { setup with limit := some n' } = (journal, .ok report) := by
  have ⟨_, _, fresh⟩ := Machine.load_eq h
  have hm : m.limit = none := congrArg Machine.limit fresh
  have hs : m.state.steps = 0 := congrArg (·.state.steps) fresh
  have load (n : Int) :
      Machine.load items entries { setup with limit := some n } = .ok (m.limited (some n)) := by
    rw [Machine.load_limited items entries setup (some n) none, h]
    rfl
  refine ⟨load n, ?_, ?_, ?_, ?_, ?_⟩
  · exact fun k e ends enough => ends.limited hm enough bound
  · exact fun k e x stops enough => stops.limited hm enough bound
  · intro late lateStop
    have cut := Machine.cut_runToEnd hm hs n bound
    generalize (m.limited (some n)).runToEnd bound = r at cut
    cases cut
    case finished ends enough => exact absurd enough (Nat.not_le_of_lt (late _ _ ends))
    case stopped stops enough => exact absurd enough (Nat.not_lt_of_le (lateStop _ _ _ stops))
    case cut p i pause current =>
      have steps := Machine.steps_of_unfinished pause
      exact ⟨p, i, pause, by omega, current, rfl⟩
  · exact Machine.steps_run_limited_le hs n
  · intro n' journal report hn run whole
    simp only [runProgram, load] at run ⊢
    exact Machine.report_limited hm hs hn run whole

def squaring : Machine where
  image := { program := #[.push 5, .call 3, .halt, .prim .dup, .prim .mul, .ret] }

theorem squaring_load :
    Machine.load (squaring.image.program.toList.map .instruction) [] {} = .ok squaring :=
  rfl

theorem squaring_endsAfter : squaring.EndsAfter 6 (squaring.run 6).1 :=
  ⟨rfl, Machine.ends_of_finished rfl⟩

theorem squaring_not_stopsAfter {k : Nat} {e : Machine} {x : Stop} : ¬squaring.StopsAfter k e x := by
  intro h
  have same := squaring_endsAfter.right.unique h.ends
  cases x <;> cases congrArg Prod.snd same

theorem limit_only_cuts_run_square :
    (∃ e, squaring.EndsAfter 6 e ∧ e.state.stack = [25] ∧
      (squaring.limited (some 6)).runToEnd 0 = (e.limited (some 6), .finished)) ∧
    (∃ p, squaring.run 5 = (p, .unfinished) ∧ p.state.stack = [25] ∧
      (squaring.limited (some 5)).runToEnd 0 =
        (p.limited (some 5), .failed (p.failure .halt (.stepLimit 5)))) ∧
    (squaring.limited (some (-tooLong))).runToEnd 0 =
      (squaring.limited (some (-tooLong)), .unwritable) := by
  have ends := squaring_endsAfter
  have ⟨_, whole, _⟩ := limit_only_cuts_run {} squaring_load 6 0
  have ⟨_, _, _, cut, _⟩ := limit_only_cuts_run {} squaring_load 5 0
  have ⟨_, _, _, below, _⟩ := limit_only_cuts_run {} squaring_load (-tooLong) 0
  have late {n : Nat} (less : n < 6) : ∀ k e, squaring.EndsAfter k e → n < k := by
    intro k e ⟨count, h⟩
    cases ends.right.unique h
    exact count ▸ less
  have none : (-tooLong : Int).toNat = 0 := Int.toNat_of_nonpos (by omega)
  refine ⟨⟨_, ends, rfl, whole _ _ ends (by decide)⟩, ?_, ?_⟩
  · have ⟨p, i, pause, _, current, stopped⟩ :=
      cut (late (by decide)) fun _ _ _ stops => absurd stops squaring_not_stopsAfter
    cases pause
    cases current
    exact ⟨_, rfl, rfl, stopped⟩
  · rw [none] at below
    have ⟨p, i, pause, _, _, stopped⟩ :=
      below (late (by decide)) fun _ _ _ stops => absurd stops squaring_not_stopsAfter
    cases pause
    rwa [not_isWritable_of_natAbs (by simp)] at stopped

end StackForth
