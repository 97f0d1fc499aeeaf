import StackForth.Proofs.Alongside
import StackForth.Proofs.Budget

/-!
Traces. A machine does the same with a trace as without one, as long as its instructions can be written.
The trace has a record for each step that counts, made from the state in front of the step.
-/

namespace StackForth

-- A line of the trace: an address of at least four digits, an instruction that takes up at least twenty
-- characters, the depth of the stack, and its cells from the bottom up.
def traceLine (address : Nat) (instruction : String) (cells : List Int) : String :=
  let digits := toString address
  "[" ++ String.ofList (List.replicate (4 - digits.length) '0') ++ digits ++ "] " ++
    instruction ++ String.ofList (List.replicate (20 - instruction.length) ' ') ++
    " <" ++ toString cells.length ++ "> " ++ " ".intercalate (cells.map toString) ++ "\n"

theorem Text.decimal_eq_toString (n : Int) : decimal n = toString n := by
  cases n <;> rfl

theorem Text.fourDigits_eq (n : Nat) :
    fourDigits n =
      String.ofList (List.replicate (4 - (toString n).length) '0') ++ toString n := by
  have digits : toString n = String.ofList (Nat.toDigits 10 n) := rfl
  simp [fourDigits, digits, List.leftpad]

theorem State.column_eq (i : Instruction) :
    column i = i.text ++ String.ofList (List.replicate (20 - i.text.length) ' ') := by
  simp [column, List.rightpad, String.length_toList]

theorem State.record_eq_traceLine (s : State) (i : Instruction) :
    s.record i = traceLine s.ip i.text s.stack.reverse := by
  have decimals : (Text.decimal : Int → String) = toString := funext Text.decimal_eq_toString
  simp only [record, traceLine, Text.fourDigits_eq, column_eq, stackText, cells, Text.spaced,
    decimals, String.append_assoc]
  rfl

theorem Step.trace?_eq {s : State} {step : Step} (h : step.counted?.all Instruction.writable) :
    step.trace? s = some (String.join (step.counted?.toList.map s.record)) := by
  cases step <;> simp_all [trace?, counted?, State.record?]

namespace Machine

-- The machine with a trace of which this much has been written.
def watched (m : Machine) (output : String) : Machine :=
  { m with tracing := true, output }

def nextRecords (m : Machine) : List String :=
  (m.state.step m.image m.limit).counted?.toList.map m.state.record

-- The records of a run that begins with `m` and comes to `n`. They are made from the states in front of
-- the steps that count, one behind the other.
structure Chronicle (m n : Machine) (records : List String) : Prop where
  length : n.state.steps = m.state.steps + records.length
  record : ∀ k text, records[k]? = some text →
    ∃ p i, m.run k = (p, .unfinished) ∧ p.state.steps = m.state.steps + k ∧
      p.state.current? p.image.program = some i ∧
      text = traceLine p.state.ip i.text p.state.stack.reverse

structure Watched (start m n : Machine) : Prop where
  untraced : m.tracing = false
  pause    : ∃ k, start.run k = (m, .unfinished)
  records  : ∃ records, start.Chronicle m records ∧ n = m.watched (String.join records)

def WatchedRun (start : Machine) (p q : Machine × Ending) : Prop :=
  ∃ records, start.Chronicle p.1 records ∧ q = (p.1.watched (String.join records), p.2)

variable {start m n p : Machine} {fuel k : Nat} {records : List String}

theorem Chronicle.refl (m : Machine) : m.Chronicle m [] :=
  ⟨rfl, nofun⟩

theorem after_watched (m : Machine) (output : String) (s : Step) :
    (m.watched output).after s = ((m.after s).1.watched output, (m.after s).2) := by
  cases s <;> rfl

theorem length_nextRecords_le (m : Machine) : m.nextRecords.length ≤ 1 := by
  simp only [nextRecords]
  cases (m.state.step m.image m.limit).counted? <;> simp

theorem steps_step_records (h : m.tracing = false) :
    m.step.1.state.steps = m.state.steps + m.nextRecords.length := by
  rw [steps_step (not_balks_of_untraced h), nextRecords, List.length_map]

theorem step_watched (h : m.tracing = false) (short : ¬m.CountsLong) (output : String) :
    (m.watched output).step =
      (m.step.1.watched (output ++ String.join m.nextRecords), m.step.2) := by
  have writable : (m.state.step m.image m.limit).counted?.all Instruction.writable := by
    simpa [CountsLong, Option.all_eq_true] using short
  have written : (m.watched output).written? (m.state.step m.image m.limit) =
      some (String.join m.nextRecords) :=
    Step.trace?_eq writable
  rw [step_of_untraced h, ← after_watched, step_eq]
  show (m.watched output).recorded (m.state.step m.image m.limit) = _
  rw [recorded, written]
  rfl

theorem watched_balks (h : m.CountsLong) (output : String) : (m.watched output).Balks :=
  ⟨rfl, h⟩

theorem step_untraced (h : m.tracing = false) :
    m.step.1.tracing = false ∧ m.step.1.output = m.output := by
  rw [step_of_untraced h]
  cases m.state.step m.image m.limit <;> exact ⟨h, rfl⟩

theorem Chronicle.next (c : start.Chronicle m records) (pause : start.run k = (m, .unfinished))
    (h : m.tracing = false) : start.Chronicle m.step.1 (records ++ m.nextRecords) := by
  constructor
  case length =>
    rw [steps_step_records h, c.length, List.length_append, Nat.add_assoc]
  case record =>
    intro j text ht
    rcases Nat.lt_or_ge j records.length with before | behind
    case inl => exact c.record j text (by rwa [List.getElem?_append_left before] at ht)
    case inr =>
      rw [List.getElem?_append_right behind] at ht
      have inside : j - records.length < m.nextRecords.length := (List.getElem?_eq_some_iff.mp ht).choose
      have single := m.length_nextRecords_le
      have steps := steps_of_unfinished pause
      -- All records so far stand for a step, so that the new one has the next place.
      have place : j = k := by
        have := c.length
        omega
      have ⟨i, counted, same⟩ := List.mem_map.mp (List.mem_of_getElem? ht)
      have ⟨current, _⟩ := current?_of_counted (Option.mem_toList.mp counted)
      refine ⟨m, i, place ▸ pause, place ▸ steps, current, ?_⟩
      rw [← same, State.record_eq_traceLine]

-- A machine that is watched takes the steps of one that is not, and writes their records. It stops where
-- an instruction is too long.
theorem run_watched (h : start.tracing = false) (fuel : Nat) :
    AlikeUntil CountsLong start.Watched start.WatchedRun start (start.watched "") fuel := by
  refine run_alikeUntil ?pause ?part ?step ⟨h, ⟨0, rfl⟩, [], .refl start, by rw [String.join_nil]⟩ fuel
  case pause =>
    intro m n ⟨_, _, records, chronicle, same⟩
    exact ⟨records, chronicle, same ▸ rfl⟩
  case part =>
    intro m n ⟨_, _, records, _, same⟩ long
    exact same ▸ watched_balks long _
  case step =>
    intro m n ⟨untraced, ⟨k, pause⟩, records, chronicle, same⟩ short
    have next := chronicle.next pause untraced
    have off := (step_untraced untraced).left
    have step := step_watched untraced short (String.join records)
    rw [← same, ← String.join_append] at step
    rcases hs : m.step with ⟨m', x | ⟨_ | _⟩⟩ <;> simp only [hs] at step next off <;>
      simp only [step]
    case error    => exact ⟨_, next, rfl⟩
    case ok.false => exact ⟨_, next, rfl⟩
    case ok.true  =>
      refine ⟨off, ⟨k + 1, ?_⟩, _, next, rfl⟩
      rw [run_resume pause, run_next hs]
      rfl

theorem run_untraced (h : m.tracing = false) (fuel : Nat) : (m.run fuel).1.output = m.output := by
  let P (n : Machine) := n.tracing = false ∧ n.output = m.output
  refine (run_invariant (P := P) ?_ ⟨h, rfl⟩ fuel).right
  intro n ⟨off, same⟩
  have ⟨off, quiet⟩ := step_untraced off
  exact ⟨off, quiet.trans same⟩

theorem Chronicle.failed {f : Failure} (h : m.Chronicle n records) (fails : m.run fuel = (n, .failed f)) :
    ∃ k p, m.run k = (p, .unfinished) ∧ p.FailsAt n f ∧ records.length = k + f.fault.kind.cost := by
  have ⟨k, p, pause, place⟩ := failsAt_of_run fails
  refine ⟨k, p, pause, place, ?_⟩
  have steps := steps_of_unfinished pause
  have count := h.length
  rw [place.state] at count
  simp only at count
  omega

theorem run_image (m : Machine) (fuel : Nat) : (m.run fuel).1.image = m.image := by
  refine run_invariant (P := fun n => n.image = m.image) ?_ rfl fuel
  exact fun n same => n.step_stepped.image_eq.trans same

theorem avoids_of_writable (h : ∀ i ∈ m.image.program, i.writable) (fuel : Nat) :
    m.Avoids CountsLong fuel := by
  intro k _ p pause ⟨i, counted, long⟩
  have same := m.run_image k
  rw [pause] at same
  have ⟨current, _⟩ := current?_of_counted counted
  have ⟨_, here⟩ := State.current?_eq_some_iff.mp current
  have writable := h i (same ▸ Array.mem_of_getElem? here)
  cases writable.symm.trans long

theorem load_watched (items : List Item) (entries : Entries) (setup : Setup) :
    load items entries { setup with tracing := true } =
      (load items entries { setup with tracing := false }).map (·.watched "") := by
  simp only [load]
  cases Load.instructions 0 items <;> cases Load.stack [] setup.cells <;>
    cases Dictionary.ofEntries entries <;> rfl

theorem load_untraced {items : List Item} {entries : Entries} {setup : Setup}
    (h : load items entries { setup with tracing := false } = .ok m) :
    m.tracing = false ∧ m.output = "" ∧ m.state.steps = 0 := by
  have ⟨_, _, fresh⟩ := load_eq h
  rw [fresh]
  exact ⟨rfl, rfl, rfl⟩

end Machine

theorem Report.ofRun_watched (m : Machine) (output : String) (ending : Machine.Ending) :
    Report.ofRun (m.watched output) ending =
      (Report.ofRun m ending).map fun report => { report with output } := by
  cases ending <;> rfl

theorem runProgram_watched {items : List Item} {entries : Entries} {setup : Setup} {m : Machine}
    (h : Machine.load items entries { setup with tracing := false } = .ok m) (bound : Nat) :
    (m.Avoids Machine.CountsLong (m.horizon bound) → ∃ records,
      m.Chronicle (m.runToEnd bound).1 records ∧
      runProgram bound items entries { setup with tracing := true } =
        ((runProgram bound items entries { setup with tracing := false }).1,
          (runProgram bound items entries { setup with tracing := false }).2.map fun report =>
            { report with output := String.join records })) ∧
    (¬m.Avoids Machine.CountsLong (m.horizon bound) →
      (runProgram bound items entries { setup with tracing := true }).2 = .error .unwritable) := by
  have load : Machine.load items entries { setup with tracing := true } = .ok (m.watched "") := by
    rw [Machine.load_watched, h]
    rfl
  simp only [runProgram, h, load, Machine.report]
  cases Machine.run_watched (Machine.load_untraced h).left (m.horizon bound)
  case alike avoids same =>
    obtain ⟨records, chronicle, same⟩ := same
    have watched : (m.watched "").runToEnd bound =
        ((m.runToEnd bound).1.watched (String.join records), (m.runToEnd bound).2) := same
    refine ⟨fun _ => ⟨records, chronicle, ?_⟩, fun meets => absurd avoids meets⟩
    simp only [watched, Report.ofRun_watched]
    rfl
  case parted k p q sooner _ pause long _ stopped =>
    refine ⟨fun avoids => absurd long (avoids k sooner p pause), fun _ => ?_⟩
    have stopped : (m.watched "").runToEnd bound = (q, .unwritable) := stopped
    simp only [stopped, Report.ofRun]

-- A machine with a trace comes to the same state and the same end as one without, and its trace is made
-- of as many records as there are steps. Only in front of an instruction that is too long to be written
-- it stops, with the records up to there, where the other machine goes on and counts the instruction.
theorem tracing_only_observes (items : List Item) (entries : Entries) (setup : Setup) :
    Machine.load items entries { setup with tracing := true } =
      (Machine.load items entries { setup with tracing := false }).map (·.watched "") ∧
    ∀ m, Machine.load items entries { setup with tracing := false } = .ok m →
      (∀ fuel, (m.run fuel).1.output = "" ∧
        (m.Avoids Machine.CountsLong fuel → ∃ records, m.Chronicle (m.run fuel).1 records ∧
          records.length = (m.run fuel).1.state.steps ∧
          (m.watched "").run fuel =
            ((m.run fuel).1.watched (String.join records), (m.run fuel).2) ∧
          ∀ n f, m.run fuel = (n, .failed f) → ∃ k p, m.run k = (p, .unfinished) ∧
            p.FailsAt n f ∧ records.length = k + f.fault.kind.cost) ∧
        (¬m.Avoids Machine.CountsLong fuel → ∃ k p records, k < fuel ∧ m.Avoids Machine.CountsLong k ∧
          m.run k = (p, .unfinished) ∧ p.CountsLong ∧ m.Chronicle p records ∧
          (m.watched "").run fuel = (p.watched (String.join records), .unwritable) ∧
          p.state.steps < (m.run fuel).1.state.steps)) ∧
      ∀ bound,
        (m.Avoids Machine.CountsLong (m.horizon bound) → ∃ records,
          m.Chronicle (m.runToEnd bound).1 records ∧
          runProgram bound items entries { setup with tracing := true } =
            ((runProgram bound items entries { setup with tracing := false }).1,
              (runProgram bound items entries { setup with tracing := false }).2.map fun report =>
                { report with output := String.join records })) ∧
        (¬m.Avoids Machine.CountsLong (m.horizon bound) →
          (runProgram bound items entries { setup with tracing := true }).2 =
            .error .unwritable) := by
  refine ⟨Machine.load_watched items entries setup, fun m h => ⟨fun fuel => ?_, runProgram_watched h⟩⟩
  have ⟨untraced, empty, begin⟩ := Machine.load_untraced h
  refine ⟨(Machine.run_untraced untraced fuel).trans empty, ?_⟩
  cases Machine.run_watched untraced fuel
  case alike avoids same =>
    obtain ⟨records, chronicle, run⟩ := same
    have count : records.length = (m.run fuel).1.state.steps := by
      rw [chronicle.length, begin, Nat.zero_add]
    refine ⟨fun _ => ⟨records, chronicle, count, run, ?_⟩, fun meets => absurd avoids meets⟩
    intro n f fails
    rw [fails] at chronicle
    exact chronicle.failed fails
  case parted k p q sooner avoids pause long related stopped =>
    refine ⟨fun clear => absurd long (clear k sooner p pause), fun _ => ?_⟩
    obtain ⟨off, _, records, chronicle, rfl⟩ := related
    have ⟨_, counted, _⟩ := long
    -- Where there is no record to write the instruction counts.
    have later := Machine.steps_lt_run pause sooner (Machine.not_balks_of_untraced off) counted
    exact ⟨k, p, records, sooner, avoids, pause, long, chronicle, stopped, later⟩

def astray : Machine where
  image := { program := #[.push 7, .push (-8), .call 9] }

theorem astray_load :
    Machine.load (astray.image.program.toList.map .instruction) [] { tracing := false } = .ok astray :=
  rfl

theorem astray_writable : ∀ i ∈ astray.image.program, i.writable := by
  decide

def mumbling : Machine where
  image := { program := #[.push 1, .ifZero tooLong] }

theorem mumbling_load :
    Machine.load (mumbling.image.program.toList.map .instruction) [] { tracing := false } =
      .ok mumbling :=
  rfl

theorem mumbling_not_avoids : ¬mumbling.Avoids Machine.CountsLong 3 := by
  intro avoids
  exact avoids 1 (by decide) _ rfl ⟨.ifZero tooLong, rfl, not_isWritable_of_natAbs rfl⟩

theorem tracing_only_observes_astray :
    (∃ records, records.length = 3 ∧
      (astray.watched "").run 5 = ((astray.run 5).1.watched (String.join records), (astray.run 5).2) ∧
      String.join records =
        "[0000] PUSH 7               <0> \n[0001] PUSH -8              <1> 7\n" ++
        "[0002] CALL 9               <2> 7 -8\n") ∧
    (∃ report, (runProgram 3 (mumbling.image.program.toList.map .instruction) []
      { tracing := false }).2 = .ok report ∧ report.isOk) ∧
    (runProgram 3 (mumbling.image.program.toList.map .instruction) [] { tracing := true }).2 =
      .error .unwritable := by
  have ⟨_, watched⟩ := tracing_only_observes (astray.image.program.toList.map .instruction) [] {}
  have ⟨_, silenced⟩ := tracing_only_observes (mumbling.image.program.toList.map .instruction) [] {}
  have ⟨runs, _⟩ := watched astray astray_load
  have ⟨_, reports⟩ := silenced mumbling mumbling_load
  have ⟨_, alike, _⟩ := runs 5
  have ⟨records, _, count, run, _⟩ := alike (Machine.avoids_of_writable astray_writable 5)
  refine ⟨⟨records, count, run, ?_⟩, ⟨_, rfl, rfl⟩, (reports 3).right mumbling_not_avoids⟩
  have output : ((astray.watched "").run 5).1.output = String.join records := by rw [run]; rfl
  rw [← output]
  decide +kernel

end StackForth
