import StackForth.Proofs.Simulation

namespace StackForth

namespace Machine

-- The end of a run that a result stands for. The halt counts, so a value takes one more step.
inductive Concludes (k : Nat) : Result → Machine × Ending → Prop
  | value {n : Machine} (stack : n.state.stack = u) (steps : n.state.steps = k + 1) :
      Concludes k (.value u) (n, .finished)
  | failure {f : Failure} (fault : f.fault = g) (stack : f.stack = u) :
      Concludes k (.failure g u) (n, .failed f)

theorem Concludes.not_unfinished {k : Nat} {r : Result} {e : Machine × Ending}
    (c : Concludes k r e) : e.2 ≠ .unfinished := by
  cases c <;> nofun

variable {m n : Machine} {v : Vocabulary} {halt k : Nat} {t t' : Thread} {r r' : Result}

theorem run_steps (e : t.Steps v k t') (f : Follows m.image halt m.state t)
    (hi : m.image.Implements halt v) (hl : m.limit = none) :
    ∃ n : Machine, n.image = m.image ∧ n.limit = none ∧ n.state.steps = m.state.steps + k ∧
      Follows m.image halt n.state t' ∧ ∀ fuel, m.run (k + fuel) = n.run fuel := by
  induction e generalizing m
  case refl => exact ⟨m, rfl, hl, rfl, f, fun fuel => by rw [Nat.zero_add]⟩
  case step k _ ht _ ih =>
    have he : ¬Exhausted m.limit m.state.steps := by simp [Exhausted, hl]
    have ⟨state, output, hm, hk, f'⟩ := f.step_next hi he ht
    have ⟨n, hn, hl', hk', f'', hr⟩ := @ih { m with state, output } f' hi hl
    refine ⟨n, hn, hl', by simp only [hk', hk]; omega, f'', fun fuel => ?_⟩
    rw [Nat.add_right_comm, run_next hm, hr]

theorem run_stops (e : t.Stops v k r) (f : Follows m.image halt m.state t)
    (hi : m.image.Implements halt v) (hl : m.limit = none) :
    Concludes (m.state.steps + k) r (m.run (k + 1)) := by
  obtain ⟨t', e, ht⟩ := e
  obtain ⟨n, hn, hl', hk, f', hr⟩ := run_steps e f hi hl
  have he : ¬Exhausted n.limit n.state.steps := by simp [Exhausted, hl']
  rw [← hn] at f' hi
  rw [hr, ← hk]
  cases r
  case value =>
    obtain ⟨⟨_, hs⟩, hu, _⟩ := f'.step_value he ht
    simp only [run, hs]
    exact .value hu rfl
  case failure =>
    obtain ⟨⟨_, hs⟩, hu, _⟩ := f'.step_failure hi he ht
    simp only [run, hs]
    exact .failure rfl hu

theorem exists_stops_of_run {fuel : Nat} (f : Follows m.image halt m.state t)
    (hi : m.image.Implements halt v) (hl : m.limit = none) (h : (m.run fuel).2 ≠ .unfinished) :
    ∃ k r, t.Stops v k r ∧ Concludes (m.state.steps + k) r (m.run fuel) := by
  by_cases hs : ∃ k r, t.Stops v k r
  case pos =>
    have ⟨k, r, hs⟩ := hs
    have c := run_stops hs f hi hl
    exact ⟨k, r, hs, run_unique c.not_unfinished h ▸ c⟩
  case neg =>
    have ⟨_, e⟩ := t.exists_steps_of_not_stops (fun k r h => hs ⟨k, r, h⟩) fuel
    have ⟨n, _, _, _, _, hr⟩ := run_steps e f hi hl
    exact absurd (congrArg Prod.snd (hr 0)) h

def Finishes (m : Machine) (stack : List Int) : Prop :=
  ∃ fuel n, m.run fuel = (n, .finished) ∧ n.state.stack = stack

def Fails (m : Machine) (fault : Fault) (stack : List Int) : Prop :=
  ∃ fuel n f, m.run fuel = (n, .failed f) ∧ f.fault = fault ∧ f.stack = stack

def Diverges (m : Machine) : Prop :=
  ∀ fuel, (m.run fuel).2 = .unfinished

variable {u : List Int} {fault : Fault}

theorem finishes_iff (f : Follows m.image halt m.state t) (hi : m.image.Implements halt v)
    (hl : m.limit = none) : m.Finishes u ↔ ∃ k, t.Stops v k (.value u) where
  mp := by
    intro ⟨fuel, n, hr, hu⟩
    have ended : (m.run fuel).2 ≠ .unfinished := by simp [hr]
    have ⟨k, r, hs, c⟩ := exists_stops_of_run f hi hl ended
    rw [hr] at c
    cases c
    case value h _ => exact ⟨k, hu ▸ h ▸ hs⟩
  mpr := by
    intro ⟨k, hs⟩
    have c := run_stops hs f hi hl
    generalize hr : m.run (k + 1) = e at c
    cases c
    case value _ h => exact ⟨k + 1, _, hr, h⟩

theorem fails_iff (f : Follows m.image halt m.state t) (hi : m.image.Implements halt v)
    (hl : m.limit = none) : m.Fails fault u ↔ ∃ k, t.Stops v k (.failure fault u) where
  mp := by
    intro ⟨fuel, n, g, hr, hf, hu⟩
    have ended : (m.run fuel).2 ≠ .unfinished := by simp [hr]
    have ⟨k, r, hs, c⟩ := exists_stops_of_run f hi hl ended
    rw [hr] at c
    cases c
    case failure hf' hu' => exact ⟨k, hf ▸ hu ▸ hf' ▸ hu' ▸ hs⟩
  mpr := by
    intro ⟨k, hs⟩
    have c := run_stops hs f hi hl
    generalize hr : m.run (k + 1) = e at c
    cases c
    case failure hf hu => exact ⟨k + 1, _, _, hr, hf, hu⟩

theorem diverges_iff (f : Follows m.image halt m.state t) (hi : m.image.Implements halt v)
    (hl : m.limit = none) : m.Diverges ↔ ¬∃ k r, t.Stops v k r where
  mp := by
    intro h ⟨k, r, hs⟩
    exact (run_stops hs f hi hl).not_unfinished (h (k + 1))
  mpr := by
    intro h fuel
    apply Decidable.byContradiction
    intro hr
    have ⟨k, r, hs, _⟩ := exists_stops_of_run f hi hl hr
    exact h ⟨k, r, hs⟩

theorem exists_stops_of_report {bound : Nat} {report : Report} (f : Follows m.image halt m.state t)
    (hi : m.image.Implements halt v) (hl : m.limit = none) (h : (m.report bound).2 = .ok report)
    (ok : report.isOk) :
    ∃ k, t.Stops v k (.value report.stack) ∧ report.steps = m.state.steps + k + 1 := by
  simp only [Machine.report, runToEnd] at h
  generalize hr : m.run (m.horizon bound) = e at h
  obtain ⟨n, e⟩ := e
  cases e <;> cases h
  case failed     => cases ok
  case unfinished => cases ok
  case finished   =>
    have ended : (m.run (m.horizon bound)).2 ≠ .unfinished := by simp [hr]
    have ⟨k, r, hs, c⟩ := exists_stops_of_run f hi hl ended
    rw [hr] at c
    cases c
    case value hu hk =>
      cases hu
      exact ⟨k, hs, hk⟩

theorem report_of_stops (hs : t.Stops v k (.value u)) (f : Follows m.image halt m.state t)
    (hi : m.image.Implements halt v) (hl : m.limit = none) :
    ∃ r, r.isOk ∧ r.stack = u ∧ r.steps = m.state.steps + k + 1 ∧
      ∀ bound, k < bound → (m.report bound).2 = .ok r := by
  have c := run_stops hs f hi hl
  generalize hr : m.run (k + 1) = e at c
  cases c
  case value n hk hu =>
    refine ⟨.ofMachine n .ok n.state.stack, rfl, hu, hk, fun bound hb => ?_⟩
    have hn : (m.run (k + 1)).2 ≠ .unfinished := by simp [hr]
    have hf := run_add hn (bound - (k + 1))
    rw [Nat.add_sub_of_le hb, hr] at hf
    simp only [report, runToEnd, horizon, hl, hf, Report.ofRun]

end Machine

namespace Assembles

variable {words : Table Program} {text : String} {a : Assembler} {image : Image} {setup : Setup}
variable {bound k : Nat} {r : Report} {stack u : List Int}

theorem evaluates_of_run (h : Assembles words text a image) (hw : words.WellFormed)
    (hl : setup.limit = none) (hr : (image.run bound setup).2 = .ok r) (ok : r.isOk) :
    ∃ stack k, Load.stack [] setup.cells = .ok stack ∧
      Evaluates a.bodies.vocabulary a.main.terms stack k (.value r.stack) ∧ r.steps = k + 1 := by
  rw [h.run_eq hw] at hr
  cases hs : Load.stack [] setup.cells <;> rw [hs] at hr
  case error    => cases hr
  case ok stack =>
    have wf := h.wellFormed hw
    have hi := Image.layout_implements a.main wf.bodies
    have f := Follows.start a.bodies wf.main stack
    have ⟨k, stops, steps⟩ :=
      Machine.exists_stops_of_report (m := .start a.main a.bodies setup stack) f hi hl hr ok
    refine ⟨stack, k, rfl, Thread.stops_iff_evaluates.mp stops, ?_⟩
    simpa [Machine.start] using steps

theorem runSource_of_evaluates (h : Assembles .empty text a image) (setup : Setup)
    (hl : setup.limit = none) (hs : Load.stack [] setup.cells = .ok stack)
    (e : Evaluates a.bodies.vocabulary a.main.terms stack k (.value u)) :
    ∃ r, r.isOk ∧ r.stack = u ∧ r.steps = k + 1 ∧
      ∀ bound, r.steps ≤ bound → (runSource bound text setup).2 = .ok r := by
  have wf := h.wellFormed .empty
  have hi := Image.layout_implements a.main wf.bodies
  have f := Follows.start a.bodies wf.main stack
  have stops := Thread.stops_iff_evaluates.mpr e
  have ⟨r, ok, ru, steps, report⟩ :=
    Machine.report_of_stops (m := .start a.main a.bodies setup stack) stops f hi hl
  have steps : r.steps = k + 1 := by simpa [Machine.start] using steps
  refine ⟨r, ok, ru, steps, fun bound hb => ?_⟩
  have enough : k < bound := by omega
  rw [h.runSource_eq, h.run_eq .empty, hs]
  exact report bound enough

end Assembles

-- The machine finishes, fails or runs forever just as evaluation has a value, a failure or no result
-- at all. `cells` has the bottom of the stack first.
theorem assembled_runs_as_evaluated {words : Table Program} {text : String} {a : Assembler}
    {image : Image} {cells : List Int} (hw : words.WellFormed) (ha : Assembles words text a image)
    (hc : ∀ n ∈ cells, Cell.Fits n) (tracing : Bool) :
    ∃ m, Machine.boot image { tracing, cells := cells.map .int } = .ok m ∧
      (∀ s, m.Finishes s ↔
        ∃ k, Evaluates a.bodies.vocabulary a.main.terms cells.reverse k (.value s)) ∧
      (∀ fault s, m.Fails fault s ↔
        ∃ k, Evaluates a.bodies.vocabulary a.main.terms cells.reverse k (.failure fault s)) ∧
      (m.Diverges ↔
        ¬∃ k r, Evaluates a.bodies.vocabulary a.main.terms cells.reverse k r) := by
  have wf := ha.wellFormed hw
  have hi := Image.layout_implements a.main wf.bodies
  have f := Follows.start a.bodies wf.main cells.reverse
  rw [ha.boot hw, Load.stack_ok [] hc, List.append_nil]
  simp only [← Thread.stops_iff_evaluates]
  exact ⟨_, rfl, fun _ => Machine.finishes_iff f hi rfl, fun _ _ => Machine.fails_iff f hi rfl,
    Machine.diverges_iff f hi rfl⟩

def lateWords : Table Program :=
  ⟨[("fourth", #[.callWord "squared", .callWord "squared", .ret])], by decide⟩

theorem lateWords_wellFormed : lateWords.WellFormed where
  named           := by decide
  closed word hw  := List.mem_singleton.mp hw ▸ rfl

def lateAssembler : Assembler where
  main     := #[.callWord "fourth"]
  bodies   := lateWords.define "squared" #[.prim .dup, .prim .mul, .ret]
  position := 6

theorem assembled_runs_as_evaluated_late :
    Assembles lateWords "fourth : squared dup * ;" lateAssembler
      (.layout lateAssembler.main lateAssembler.bodies) ∧
    Evaluates lateAssembler.bodies.vocabulary lateAssembler.main.terms [3] 10 (.value [81]) ∧
    ∃ m, Machine.boot (.layout lateAssembler.main lateAssembler.bodies)
        { cells := [.int 3] } = .ok m ∧ m.Finishes [81] := by
  have ha : Assembles lateWords "fourth : squared dup * ;" lateAssembler _ := ⟨rfl, rfl⟩
  have hc : ∀ n ∈ [3], Cell.Fits n := by decide
  have ⟨m, hb, hf, _⟩ := assembled_runs_as_evaluated lateWords_wellFormed ha hc false
  have squared (n : Int) : Evaluates lateAssembler.bodies.vocabulary
      [.primitive .dup, .primitive .mul] [n] 2 (.value [Cell.wrap (n * n)]) :=
    .primitive (Nat.le_refl 1) (.primitive (Nat.le_refl 2) .nil)
  have fourth : Evaluates lateAssembler.bodies.vocabulary lateAssembler.main.terms [3] 10
      (.value [81]) :=
    .word rfl (.word rfl (squared 3) (.word rfl (squared 9) .nil)) .nil
  exact ⟨ha, fourth, m, hb, (hf [81]).mpr ⟨_, fourth⟩⟩

end StackForth
