import StackForth.Proofs.Bounds

namespace StackForth

def Instruction.link (d : Dictionary) : Instruction → Instruction
  | .callWord w h =>
    match d.find? w with
    | some a => .call a
    | none   => .callWord w h
  | i => i

def Item.link (d : Dictionary) : Item → Item
  | .instruction i => .instruction (i.link d)
  | .foreign v     => .foreign v

def Image.link (image : Image) : Image :=
  { image with program := image.program.map (·.link image.dictionary) }

def Step.link (d : Dictionary) : Step → Step
  | .rest            => .rest
  | .refused i fault => .refused (i.link d) fault
  | .failed i fault  => .failed (i.link d) fault
  | .next i s        => .next (i.link d) s

def Failure.link (d : Dictionary) (f : Failure) : Failure :=
  { f with instruction := f.instruction.map (·.link d) }

def Stop.link (d : Dictionary) : Stop → Stop
  | .failure f  => .failure (f.link d)
  | .unwritable => .unwritable

namespace Machine

def Ending.link (d : Dictionary) : Ending → Ending
  | .failed f => .failed (f.link d)
  | e         => e

def linked (m : Machine) : Machine :=
  { m with image := m.image.link }

-- The machine has to record the call of a word whose address is too long to be written.
def CallsFar (m : Machine) : Prop :=
  m.tracing = true ∧ ∃ w hw a,
    (m.state.step m.image m.limit).counted? = some (.callWord w hw) ∧
      m.image.dictionary.find? w = some a ∧ isWritable a = false

end Machine

-- Traces of the same states, each record with the instruction as it is linked.
inductive Retraced (d : Dictionary) : String → String → Prop
  | empty : Retraced d "" ""
  | record (s : State) (i : Instruction) (r : Retraced d text text') :
      Retraced d (text ++ s.record i) (text' ++ s.record (i.link d))

namespace Instruction

variable {d : Dictionary} {i : Instruction}

theorem link_word {w : String} {h : w ≠ ""} {a : Nat} (known : d.find? w = some a) :
    (callWord w h).link d = .call a := by
  simp [link, known]

theorem link_unknown {w : String} {h : w ≠ ""} (missing : d.find? w = none) :
    (callWord w h).link d = .callWord w h := by
  simp [link, missing]

theorem needs_link (d : Dictionary) (i : Instruction) : (i.link d).needs = i.needs := by
  cases i
  case callWord w h => cases known : d.find? w <;> simp [link, known, needs]
  all_goals rfl

theorem link_of_needs (h : 0 < i.needs) : i.link d = i := by
  cases i
  case callWord => cases h
  all_goals rfl

theorem writable_link_eq_false_iff :
    (i.link d).writable = false ↔ i.writable = false ∨
      ∃ w hw a, i = .callWord w hw ∧ d.find? w = some a ∧ isWritable a = false := by
  cases i
  case callWord w hw => cases known : d.find? w <;> simp [link, known, writable, hw]
  all_goals simp [link]

theorem find?_of_link {w : String} {h : w ≠ ""} (linked : i.link d = .callWord w h) :
    d.find? w = none := by
  cases i <;> simp only [link] at linked
  case callWord v _ =>
    cases known : d.find? v <;> simp only [known] at linked <;> cases linked
    exact known
  all_goals cases linked

end Instruction

namespace State

variable (s : State) (image : Image) (i : Instruction)

theorem execute_link :
    s.execute image.link (i.link image.dictionary) = s.execute image i := by
  have size : image.link.program.size = image.program.size := Array.size_map ..
  cases i
  case callWord w h =>
    cases known : image.dictionary.find? w
    case none =>
      have missing : image.link.dictionary.find? w = none := known
      simp only [Instruction.link_unknown known, execute, missing, known]
    case some a => simp only [Instruction.link_word known, execute, known, size]
  all_goals simp only [Instruction.link, execute, size]

theorem attempt_link :
    s.attempt image.link (i.link image.dictionary) =
      (s.attempt image i).link image.dictionary := by
  simp only [attempt, execute_link, Instruction.needs_link]
  split
  case isTrue => cases s.execute image i <;> rfl
  case isFalse short =>
    have needs : 0 < i.needs := by
      apply Nat.pos_of_ne_zero
      intro none
      exact short (none ▸ rfl)
    simp only [Step.link, Instruction.link_of_needs needs]

theorem current?_link :
    s.current? image.link.program =
      (s.current? image.program).map (·.link image.dictionary) := by
  simp only [current?, Image.link, Array.getElem?_map]
  split <;> rfl

theorem step_link (limit : Option Int) :
    s.step image.link limit = (s.step image limit).link image.dictionary := by
  simp only [step, current?_link]
  cases s.current? image.program
  case none   => rfl
  case some i =>
    cases limit
    case none   => exact attempt_link s image i
    case some n =>
      by_cases reached : n ≤ s.steps <;> simp [reached, attempt_link, Step.link]

end State

theorem Step.counted?_link (d : Dictionary) (step : Step) :
    (step.link d).counted? = step.counted?.map (·.link d) := by
  cases step <;> rfl

theorem Retraced.append {d : Dictionary} {text text' record record' : String}
    (r : Retraced d text text') {s : State} {step : Step} (h : step.trace? s = some record)
    (h' : (step.link d).trace? s = some record') :
    Retraced d (text ++ record) (text' ++ record') := by
  have counts {i : Instruction} (h : s.record? i = some record)
      (h' : s.record? (i.link d) = some record') :
      Retraced d (text ++ record) (text' ++ record') := by
    simp only [State.record?, Option.ite_none_right_eq_some, Option.some.injEq] at h h'
    rw [← h.right, ← h'.right]
    exact .record s i r
  cases step
  case rest    => cases h; cases h'; simpa using r
  case refused => cases h; cases h'; simpa using r
  case failed  => exact counts h h'
  case next    => exact counts h h'

namespace Machine

-- Two machines that differ in the linking of the program at most.
structure Linked (image : Image) (m n : Machine) : Prop where
  images  : m.image = image ∧ n.image = image.link
  state   : n.state = m.state
  limit   : n.limit = m.limit
  tracing : n.tracing = m.tracing
  output  : Retraced image.dictionary m.output n.output

variable {image : Image} {m n : Machine}

theorem Linked.state_step (l : Linked image m n) :
    n.state.step n.image n.limit = (m.state.step m.image m.limit).link image.dictionary := by
  rw [l.state, l.limit, l.images.left, l.images.right, State.step_link]

theorem Linked.balks_iff (l : Linked image m n) : n.Balks ↔ m.Balks ∨ m.CallsFar := by
  simp only [Balks, CountsLong, CallsFar, l.tracing, l.state_step, l.images.left, Step.counted?_link]
  rw [← and_or_left, and_congr_right_iff]
  intro
  cases (m.state.step image m.limit).counted? <;>
    simp [Instruction.writable_link_eq_false_iff]

theorem Linked.after (l : Linked image m n) (step : Step) :
    Linked image (m.after step).1 (n.after (step.link image.dictionary)).1 ∧
      (n.after (step.link image.dictionary)).2 =
        (m.after step).2.mapError (·.link image.dictionary) := by
  have ⟨⟨hm, hn⟩, state, limit, tracing, output⟩ := l
  have stop (i : Instruction) (fault : Fault) :
      n.stop (i.link image.dictionary) fault = (m.stop i fault).link image.dictionary := by
    simp only [Machine.stop]
    split <;> simp [Machine.failure, Failure.link, Stop.link, state]
  cases step
  case rest            => exact ⟨l, rfl⟩
  case refused i fault => exact ⟨l, congrArg Except.error (stop i fault)⟩
  case failed i fault =>
    have counted : { n.state with steps := n.state.steps + 1 } =
        { m.state with steps := m.state.steps + 1 } := by rw [state]
    exact ⟨⟨⟨hm, hn⟩, counted, limit, tracing, output⟩, congrArg Except.error (stop i fault)⟩
  case next i t =>
    have running : t.running n.image.program = t.running m.image.program := by
      simp only [State.running, hn, hm, State.current?_link, Option.isSome_map]
    exact ⟨⟨⟨hm, hn⟩, rfl, limit, tracing, output⟩, congrArg Except.ok running⟩

theorem Linked.retraced {step : Step} {text text' : String} (l : Linked image m n)
    (h : m.written? step = some text) (h' : n.written? (step.link image.dictionary) = some text') :
    Retraced image.dictionary (m.output ++ text) (n.output ++ text') := by
  simp only [Machine.written?, l.tracing, l.state] at h h'
  split at h
  case isTrue traced => exact l.output.append h (by simpa [traced] using h')
  case isFalse quiet =>
    rw [if_neg quiet] at h'
    cases h
    cases h'
    simpa using l.output

theorem Linked.step (l : Linked image m n) (near : ¬m.CallsFar) :
    Linked image m.step.1 n.step.1 ∧
      n.step.2 = m.step.2.mapError (·.link image.dictionary) := by
  have balks : n.Balks ↔ m.Balks := by rw [l.balks_iff, or_iff_left near]
  by_cases hm : m.Balks
  case pos =>
    -- Neither record can be written, and both machines stay where they are.
    rw [step_of_balks hm, step_of_balks (balks.mpr hm)]
    exact ⟨l, rfl⟩
  case neg =>
    obtain ⟨text, written⟩ := Option.ne_none_iff_exists'.mp (mt Machine.balks_iff.mpr hm)
    obtain ⟨text', written'⟩ :=
      Option.ne_none_iff_exists'.mp fun none => hm (balks.mp (Machine.balks_iff.mpr none))
    rw [l.state_step] at written'
    rw [step_eq m, step_eq n, l.state_step, recorded, recorded, written, written']
    have emitted : Linked image (m.emit text) (n.emit text') :=
      ⟨l.images, l.state, l.limit, l.tracing, l.retraced written written'⟩
    exact emitted.after _

-- The run of the linked machine, where the other has come to.
structure Lockstep (image : Image) (p q : Machine × Ending) : Prop where
  machines : Linked image p.1 q.1
  ending   : q.2 = p.2.link image.dictionary

theorem Linked.run (l : Linked image m n) (fuel : Nat) :
    AlikeUntil CallsFar (Linked image) (Lockstep image) m n fuel := by
  refine run_alikeUntil (fun _ _ l => ⟨l, rfl⟩) (fun _ _ l far => l.balks_iff.mpr (.inr far)) ?_ l fuel
  intro m n l near
  have ⟨next, answer⟩ := l.step near
  rcases hm : m.step with ⟨p, x | ⟨_ | _⟩⟩ <;> rcases hn : n.step with ⟨q, y | ⟨_ | _⟩⟩ <;>
    simp only [hm, hn] at next answer ⊢ <;> cases answer
  case error.error.refl       => cases x <;> exact ⟨next, rfl⟩
  case ok.false.ok.false.refl => exact ⟨next, rfl⟩
  case ok.true.ok.true.refl   => exact next

-- A machine that has to record a far call counts it, and one that is linked does not.
theorem CallsFar.apart {k fuel : Nat} {p q : Machine} (sooner : k < fuel)
    (pause : m.run k = (p, .unfinished)) (far : p.CallsFar) (l : Linked image p q) :
    ¬Lockstep image (m.run fuel) (q, .unwritable) := by
  obtain ⟨traced, w, hw, a, counted, _⟩ := far
  have free : ¬p.Balks := by simp [Balks, CountsLong, counted, Instruction.writable]
  -- An instruction that is counted by the one machine has not been by the other.
  have later := steps_lt_run pause sooner free counted
  intro same
  rw [← l.state, same.machines.state] at later
  exact Nat.lt_irrefl _ later

end Machine

theorem Load.instructions_link (d : Dictionary) (index : Nat) (items : List Item) :
    instructions index (items.map (·.link d)) =
      (instructions index items).map (·.map (·.link d)) := by
  induction items generalizing index
  case nil => rfl
  case cons item items ih =>
    cases item
    case foreign       => rfl
    case instruction i =>
      have rest := congrArg (Except.map (i.link d :: ·)) (ih (index + 1))
      refine rest.trans ?_
      simp only [instructions]
      cases instructions (index + 1) items <;> rfl

theorem Machine.load_link {items : List Item} {entries : Entries} {setup : Setup} {m : Machine}
    (h : load items entries setup = .ok m) :
    load (items.map (·.link m.image.dictionary)) entries setup = .ok m.linked := by
  have ⟨program, hp, h⟩ := exists_ok_of_bind h
  have ⟨stack, hs, h⟩ := exists_ok_of_bind h
  have ⟨dictionary, hd, h⟩ := exists_ok_of_bind h
  cases h
  have relinked : Load.instructions 0 (items.map (·.link dictionary)) =
      .ok (program.map (·.link dictionary)) := by
    rw [Load.instructions_link, hp]
    rfl
  simp only [load, relinked, hs, hd, linked, Image.link, List.map_toArray]
  rfl

-- At every point of the run both machines are in the same state, and they come to the same end. Only
-- the instructions in failures and traces are shown as they are linked. With a trace the linked machine
-- does not go past the call of a word whose address is too long to be written: it stops in front of it,
-- where the other machine counts it.
theorem linked_program_runs_alike {items : List Item} {entries : Entries} {setup : Setup}
    {m : Machine} (h : Machine.load items entries setup = .ok m) :
    Machine.load (items.map (·.link m.image.dictionary)) entries setup = .ok m.linked ∧
    (∀ w hw, .callWord w hw ∈ m.linked.image.program → w ∉ m.image.dictionary.names) ∧
    ∀ fuel,
      (Machine.Lockstep m.image (m.run fuel) (m.linked.run fuel) ↔
        m.Avoids Machine.CallsFar fuel) ∧
      (¬m.Avoids Machine.CallsFar fuel → ∃ k p q, k < fuel ∧ m.Avoids Machine.CallsFar k ∧
        m.run k = (p, .unfinished) ∧ p.CallsFar ∧ Machine.Linked m.image p q ∧
        m.linked.run fuel = (q, .unwritable)) := by
  have ⟨_, _, fresh⟩ := Machine.load_eq h
  refine ⟨Machine.load_link h, ?_, fun fuel => ?_⟩
  · intro w hw left
    have ⟨i, _, linked⟩ := Array.mem_map.mp left
    exact Table.find?_eq_none_iff.mp (Instruction.find?_of_link linked)
  · have output : Retraced m.image.dictionary m.output m.linked.output := by
      rw [fresh]
      exact .empty
    have start : Machine.Linked m.image m m.linked := ⟨⟨rfl, rfl⟩, rfl, rfl, rfl, output⟩
    have run := start.run fuel
    refine ⟨run.alike_iff fun k p q sooner pause far l => far.apart sooner pause l, ?_⟩
    intro meets
    cases run
    case alike avoids _ => exact absurd avoids meets
    case parted k p q sooner avoids pause far l stopped =>
      exact ⟨k, p, q, sooner, avoids, pause, far, l, stopped⟩

def wordCalls : Machine where
  image :=
    ⟨#[.callWord "home", .callWord "far", .callWord "lost", .halt, .ret],
      (Table.empty.insert "home" 4).insert "far" 9⟩

theorem wordCalls_load :
    Machine.load (wordCalls.image.program.toList.map .instruction)
      [(.text "home", .int 4), (.text "far", .int 9)] {} = .ok wordCalls :=
  rfl

theorem avoids_callsFar_of_untraced {m : Machine} (h : m.tracing = false) (fuel : Nat) :
    m.Avoids Machine.CallsFar fuel := by
  intro k _ p pause ⟨traced, _⟩
  have untraced := (Machine.tracing_of_unfinished pause).trans h
  cases untraced.symm.trans traced

def hauling : Machine where
  image   := ⟨#[.callWord "far"], Table.empty.insert "far" tooLong⟩
  tracing := true

theorem hauling_load :
    Machine.load (hauling.image.program.toList.map .instruction) [(.text "far", .int tooLong)]
      { tracing := true } = .ok hauling :=
  rfl

theorem hauling_callsFar : hauling.CallsFar :=
  ⟨rfl, "far", by decide, tooLong, State.counted?_attempt (Nat.le_refl 0), rfl,
    not_isWritable_of_natAbs rfl⟩

theorem linked_program_runs_alike_far :
    wordCalls.linked.image.program[0]? = some (.call 4) ∧
    wordCalls.linked.image.program[1]? = some (.call 9) ∧
    wordCalls.linked.image.program[2]? = wordCalls.image.program[2]? ∧
    Machine.Lockstep wordCalls.image (wordCalls.run 3) (wordCalls.linked.run 3) ∧
    (∃ f, (wordCalls.run 3).2 = .failed f ∧ f.fault = .callOutside 9 5 ∧ f.ip = 1) ∧
    ¬Machine.Lockstep hauling.image (hauling.run 1) (hauling.linked.run 1) := by
  have ⟨_, _, alike⟩ := linked_program_runs_alike wordCalls_load
  have ⟨_, _, parted⟩ := linked_program_runs_alike hauling_load
  have linked (k : Nat) : wordCalls.linked.image.program[k]? =
      wordCalls.image.program[k]?.map (·.link wordCalls.image.dictionary) := Array.getElem?_map
  have near := avoids_callsFar_of_untraced (m := wordCalls) rfl 3
  refine ⟨?_, ?_, ?_, (alike 3).left.mpr near, ⟨_, rfl, rfl, rfl⟩, fun lockstep => ?_⟩
  · exact (linked 0).trans rfl
  · exact (linked 1).trans rfl
  · exact (linked 2).trans rfl
  · exact (parted 1).left.mp lockstep 0 Nat.one_pos hauling rfl hauling_callsFar

end StackForth
