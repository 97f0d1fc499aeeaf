import StackForth.Machine.Load

namespace StackForth

theorem Table.entries_insert_of_not_mem {α : Type} {t : Table α} {name : String} {a : α}
    (h : name ∉ t.names) : (t.insert name a).entries = t.entries ++ [(name, a)] := by
  simp [insert, h]

namespace Dictionary

theorem addEntries_ok (d : Dictionary) {entries : List (String × Nat)}
    (hn : ∀ e ∈ entries, e.1 ≠ "") (hd : ((d.entries ++ entries).map Prod.fst).Nodup) :
    ∃ d', d.addEntries (entries.map fun e => (.text e.1, .int e.2)) = .ok d' ∧
      d'.entries = d.entries ++ entries := by
  induction entries generalizing d
  case nil => exact ⟨d, rfl, by simp⟩
  case cons e entries ih =>
    simp only [List.forall_mem_cons] at hn
    have hm : e.1 ∉ d.names := by
      simp only [List.map_append, List.map_cons, List.nodup_append] at hd
      exact fun h => hd.2.2 _ h _ List.mem_cons_self rfl
    have he := Table.entries_insert_of_not_mem (a := e.2) hm
    have ⟨d', h, hd'⟩ := ih (d.insert e.1 e.2) hn.right (by simpa [he] using hd)
    refine ⟨d', ?_, by simp [hd', he]⟩
    simpa [addEntries, hn.left] using h

theorem ofEntries_toEntries {d : Dictionary} (h : ∀ name ∈ d.names, name ≠ "") :
    ofEntries d.toEntries = .ok d := by
  have hn : ∀ e ∈ d.entries, e.1 ≠ "" := fun e he => h e.1 (List.mem_map_of_mem he)
  have ⟨d', hd, he⟩ := addEntries_ok .empty hn d.nodup
  rw [Table.ext_entries he] at hd
  exact hd

end Dictionary

namespace Load

theorem instructions_map (index : Nat) (code : List Instruction) :
    instructions index (code.map .instruction) = .ok code := by
  induction code generalizing index
  case nil          => rfl
  case cons i _ ih  => simp [instructions, ih, Except.map]

theorem stack_ok (below : List Int) {cells : List Int} (h : ∀ n ∈ cells, Cell.Fits n) :
    stack below (cells.map .int) = .ok (cells.reverse ++ below) := by
  induction cells generalizing below
  case nil => rfl
  case cons n cells ih =>
    simp only [List.forall_mem_cons] at h
    simp [stack, h.left, ih (n :: below) h.right]

theorem stack_of_ok {below cells s : List Int} (h : stack below (cells.map .int) = .ok s) :
    s = cells.reverse ++ below := by
  induction cells generalizing below
  case nil => simpa [stack, eq_comm] using h
  case cons n cells ih =>
    simp only [List.map_cons, stack] at h
    split at h
    case isTrue  => simpa using ih h
    case isFalse => simp at h

end Load

def Step.counted? : Step → Option Instruction
  | .rest       => none
  | .refused .. => none
  | .failed i _ => some i
  | .next i _   => some i

theorem State.isSome_record? (s : State) (i : Instruction) : (s.record? i).isSome = i.writable := by
  simp only [record?]
  cases i.writable <;> rfl

namespace Machine

theorem boot_eq {image : Image} (h : ∀ name ∈ image.dictionary.names, name ≠ "") (setup : Setup) :
    boot image setup = (Load.stack [] setup.cells).map fun stack =>
      { image, state := { stack }, limit := setup.limit, tracing := setup.tracing } := by
  simp only [boot, load, Load.instructions_map, Dictionary.ofEntries_toEntries h]
  cases Load.stack [] setup.cells <;> rfl

variable {m n : Machine} {i : Instruction} {fault : Fault} {s : State}

-- The next step counts an instruction that is too long to be written.
def CountsLong (m : Machine) : Prop :=
  ∃ i, (m.state.step m.image m.limit).counted? = some i ∧ i.writable = false

-- The machine has to record an instruction that cannot be written.
def Balks (m : Machine) : Prop :=
  m.tracing = true ∧ m.CountsLong

def written? (m : Machine) (s : Step) : Option String :=
  if m.tracing then s.trace? m.state else some ""

def recorded (m : Machine) (s : Step) : Machine × Except Stop Bool :=
  match m.written? s with
  | some text => (m.emit text).after s
  | none      => (m, .error .unwritable)

theorem step_eq (m : Machine) : m.step = m.recorded (m.state.step m.image m.limit) := by
  simp only [step, recorded, written?]
  split
  case isTrue  => rfl
  case isFalse => simp [emit]

theorem isSome_written? (m : Machine) (s : Step) :
    (m.written? s).isSome = (!m.tracing || s.counted?.all Instruction.writable) := by
  simp only [written?]
  cases m.tracing <;> cases s <;> simp [Step.counted?, Step.trace?, State.isSome_record?]

theorem recorded_of_not_counted {s : Step} (h : s.counted? = none) : m.recorded s = m.after s := by
  have written : m.written? s = some "" := by
    cases s <;> simp [Step.counted?] at h <;> simp [written?, Step.trace?]
  simp [recorded, written, emit]

theorem balks_iff : m.Balks ↔ m.written? (m.state.step m.image m.limit) = none := by
  rw [← Option.not_isSome_iff_eq_none, isSome_written?, Balks, CountsLong]
  cases m.tracing <;> cases (m.state.step m.image m.limit).counted? <;> simp

theorem step_of_balks (h : m.Balks) : m.step = (m, .error .unwritable) := by
  rw [step_eq, recorded, balks_iff.mp h]

theorem step_of_not_balks (h : ¬m.Balks) :
    ∃ output, m.step = { m with output }.after (m.state.step m.image m.limit) := by
  obtain ⟨text, written⟩ := Option.ne_none_iff_exists'.mp (mt balks_iff.mpr h)
  exact ⟨m.output ++ text, by rw [step_eq, recorded, written]; rfl⟩

theorem not_balks_of_untraced (h : m.tracing = false) : ¬m.Balks := by
  simp [Balks, h]

theorem step_of_untraced (h : m.tracing = false) :
    m.step = m.after (m.state.step m.image m.limit) := by
  rw [step, h]
  rfl

theorem step_of_rest (h : m.state.current? m.image.program = none) : m.step = (m, .ok false) := by
  have rest : m.state.step m.image m.limit = .rest := by simp only [State.step, h]
  rw [step_eq, rest, recorded_of_not_counted rfl]
  rfl

theorem step_next (free : ¬m.Balks) (h : m.state.step m.image m.limit = .next i s) :
    ∃ output, m.step = ({ m with state := s, output }, .ok (s.running m.image.program)) := by
  have ⟨output, hm⟩ := step_of_not_balks free
  exact ⟨output, by rw [hm, h]; rfl⟩

theorem step_refused (h : m.state.step m.image m.limit = .refused i fault) :
    ∃ output, m.step = ({ m with output }, .error (m.stop i fault)) := by
  have free : ¬m.Balks := by simp [Balks, CountsLong, h, Step.counted?]
  have ⟨output, hm⟩ := step_of_not_balks free
  exact ⟨output, by rw [hm, h]; rfl⟩

theorem step_failed (free : ¬m.Balks) (h : m.state.step m.image m.limit = .failed i fault) :
    ∃ output, m.step = ({ m with state := { m.state with steps := m.state.steps + 1 }, output },
      .error (m.stop i fault)) := by
  have ⟨output, hm⟩ := step_of_not_balks free
  exact ⟨output, by rw [hm, h]; rfl⟩

variable {f : Failure}

theorem stop_of_writable (h : fault.writable) : m.stop i fault = .failure (m.failure i fault) :=
  if_pos h

theorem stop_eq_failure_iff :
    m.stop i fault = .failure f ↔ fault.writable ∧ m.failure i fault = f := by
  simp only [stop]
  split <;> simp_all

theorem stop_eq_unwritable_iff : m.stop i fault = .unwritable ↔ fault.writable = false := by
  simp [stop]

theorem ending_ne_unfinished (stop : Stop) : stop.ending ≠ .unfinished := by
  cases stop <;> nofun

variable {n p : Machine} {fuel k : Nat} {x : Stop}

theorem run_next (h : m.step = (n, .ok true)) (fuel : Nat) : m.run (fuel + 1) = n.run fuel := by
  simp [run, h]

theorem run_of_rest (h : m.state.current? m.image.program = none) (fuel : Nat) :
    m.run (fuel + 1) = (m, .finished) := by
  simp only [run, step_of_rest h]

theorem run_add (h : (m.run fuel).2 ≠ .unfinished) (more : Nat) :
    m.run (fuel + more) = m.run fuel := by
  induction fuel generalizing m
  case zero => exact absurd rfl h
  case succ fuel ih =>
    rw [Nat.add_right_comm]
    rcases hs : m.step with ⟨n, _ | ⟨_ | _⟩⟩
    case error    => simp [run, hs]
    case ok.false => simp [run, hs]
    case ok.true  =>
      rw [run_next hs] at h
      rw [run_next hs, run_next hs, ih h]

theorem run_unique {fuel' : Nat} (h : (m.run fuel).2 ≠ .unfinished)
    (h' : (m.run fuel').2 ≠ .unfinished) : m.run fuel = m.run fuel' := by
  rw [← run_add h fuel', ← run_add h' fuel, Nat.add_comm]

theorem run_succ_unfinished (h : m.run (k + 1) = (p, .unfinished)) :
    ∃ q, m.step = (q, .ok true) ∧ q.run k = (p, .unfinished) := by
  rcases hs : m.step with ⟨q, stop | ⟨_ | _⟩⟩ <;> simp only [run, hs] at h
  case error    => cases ending_ne_unfinished stop (congrArg Prod.snd h)
  case ok.false => cases h
  case ok.true  => exact ⟨q, rfl, h⟩

theorem run_resume (h : m.run k = (p, .unfinished)) (fuel : Nat) :
    m.run (k + fuel) = p.run fuel := by
  induction k generalizing m
  case zero => cases h; rw [Nat.zero_add]
  case succ k ih =>
    have ⟨q, step, rest⟩ := run_succ_unfinished h
    rw [Nat.add_right_comm, run_next step, ih rest]

theorem run_stopped (h : m.run fuel = (n, x.ending)) :
    ∃ k p, m.run k = (p, .unfinished) ∧ p.step = (n, .error x) := by
  induction fuel generalizing m
  case zero => cases x <;> cases h
  case succ fuel ih =>
    rcases hs : m.step with ⟨p, y | ⟨_ | _⟩⟩ <;> simp only [run, hs] at h
    case error    => cases x <;> cases y <;> cases h <;> exact ⟨0, m, rfl, hs⟩
    case ok.false => cases x <;> cases h
    case ok.true  =>
      obtain ⟨k, q, hk, hq⟩ := ih h
      exact ⟨k + 1, q, by rw [run_next hs, hk], hq⟩

theorem run_failed {f : Failure} (h : m.run fuel = (n, .failed f)) :
    ∃ k p, m.run k = (p, .unfinished) ∧ p.step = (n, .error (.failure f)) :=
  run_stopped (x := .failure f) h

-- What holds at every pause and is handed on by every step holds at the end of a run, too.
theorem run_induction {P : Machine → Prop} {Q : Machine × Ending → Prop}
    (pause : ∀ m, P m → Q (m, .unfinished))
    (step : ∀ m, P m → match m.step with
      | (n, .ok true)    => P n
      | (n, .ok false)   => Q (n, .finished)
      | (n, .error stop) => Q (n, stop.ending))
    (h : P m) (fuel : Nat) : Q (m.run fuel) := by
  induction fuel generalizing m
  case zero => exact pause m h
  case succ fuel ih =>
    have hs := step m h
    rcases hm : m.step with ⟨n, stop | ⟨_ | _⟩⟩ <;> simp only [hm, run] at hs ⊢
    case error    => exact hs
    case ok.false => exact hs
    case ok.true  => exact ih hs

theorem run_invariant {P : Machine → Prop} (step : ∀ m, P m → P m.step.1) (h : P m) (fuel : Nat) :
    P (m.run fuel).1 := by
  refine run_induction (P := P) (Q := fun r => P r.1) (fun _ h => h) ?_ h fuel
  intro m h
  have next := step m h
  rcases hs : m.step with ⟨n, _ | ⟨_ | _⟩⟩ <;> simpa only [hs] using next

-- The run does not come upon such a machine within so many steps.
def Avoids (m : Machine) (bad : Machine → Prop) (fuel : Nat) : Prop :=
  ∀ k < fuel, ∀ p, m.run k = (p, .unfinished) → ¬bad p

variable {bad : Machine → Prop}

theorem avoids_zero (m : Machine) (bad : Machine → Prop) : m.Avoids bad 0 :=
  nofun

theorem avoids_succ_of_step (step : m.step = (n, .ok true)) :
    m.Avoids bad (fuel + 1) ↔ ¬bad m ∧ n.Avoids bad fuel where
  mp h := ⟨h 0 (Nat.succ_pos _) m rfl, fun k hk p pause =>
    h (k + 1) (Nat.succ_lt_succ hk) p (by rw [run_next step, pause])⟩
  mpr := by
    intro ⟨here, rest⟩ k hk p pause
    cases k
    case zero   => cases pause; exact here
    case succ k => exact rest k (Nat.lt_of_succ_lt_succ hk) p (by rw [← pause, run_next step])

theorem avoids_of_stop (step : m.step.2 ≠ .ok true) (here : ¬bad m) (fuel : Nat) :
    m.Avoids bad fuel := by
  intro k _ p pause
  cases k
  case zero   => cases pause; exact here
  case succ k =>
    have ⟨_, next, _⟩ := run_succ_unfinished pause
    exact absurd (congrArg Prod.snd next) step

-- Two runs that are alike unless the first comes upon a machine with a mark, where the second has a
-- number to write that is too long.
inductive AlikeUntil (bad : Machine → Prop) (P : Machine → Machine → Prop)
    (Q : Machine × Ending → Machine × Ending → Prop) (m n : Machine) (fuel : Nat) : Prop
  | alike (avoids : m.Avoids bad fuel) (same : Q (m.run fuel) (n.run fuel))
  | parted {k : Nat} {p q : Machine} (sooner : k < fuel) (avoids : m.Avoids bad k)
      (pause : m.run k = (p, .unfinished)) (marked : bad p) (related : P p q)
      (stopped : n.run fuel = (q, .unwritable))

theorem run_alikeUntil {P : Machine → Machine → Prop}
    {Q : Machine × Ending → Machine × Ending → Prop}
    (pause : ∀ m n, P m n → Q (m, .unfinished) (n, .unfinished))
    (part : ∀ m n, P m n → bad m → n.Balks)
    (step : ∀ m n, P m n → ¬bad m → match m.step, n.step with
      | (m, .ok true),  (n, .ok true)  => P m n
      | (m, .ok false), (n, .ok false) => Q (m, .finished) (n, .finished)
      | (m, .error x),  (n, .error y)  => Q (m, x.ending) (n, y.ending)
      | _,              _              => False)
    (h : P m n) (fuel : Nat) : AlikeUntil bad P Q m n fuel := by
  induction fuel generalizing m n
  case zero => exact .alike (m.avoids_zero bad) (pause m n h)
  case succ fuel ih =>
    by_cases here : bad m
    case pos =>
      -- The second run is over here, wherever the first one leads.
      have stopped : n.run (fuel + 1) = (n, .unwritable) := by
        simp only [run, step_of_balks (part m n h here), Stop.ending]
      exact .parted (Nat.succ_pos _) (m.avoids_zero bad) rfl here h stopped
    case neg =>
      have hs := step m n h here
      rcases hm : m.step with ⟨m', x | ⟨_ | _⟩⟩ <;> rcases hn : n.step with ⟨n', y | ⟨_ | _⟩⟩ <;>
        simp only [hm, hn] at hs
      case error.error =>
        exact .alike (avoids_of_stop (by simp [hm]) here _) (by simpa only [run, hm, hn] using hs)
      case ok.false.ok.false =>
        exact .alike (avoids_of_stop (by simp [hm]) here _) (by simpa only [run, hm, hn] using hs)
      case ok.true.ok.true   =>
        cases ih hs
        case alike avoids same =>
          refine .alike ((avoids_succ_of_step hm).mpr ⟨here, avoids⟩) ?_
          rwa [run_next hm, run_next hn]
        case parted k p q sooner avoids pause marked related stopped =>
          refine .parted (Nat.succ_lt_succ sooner)
            ((avoids_succ_of_step hm).mpr ⟨here, avoids⟩) ?_ marked related ?_
          · rw [run_next hm, pause]
          · rw [run_next hn, stopped]

theorem run_induction₂ {P : Machine → Machine → Prop}
    {Q : Machine × Ending → Machine × Ending → Prop}
    (pause : ∀ m n, P m n → Q (m, .unfinished) (n, .unfinished))
    (step : ∀ m n, P m n → match m.step, n.step with
      | (m, .ok true),  (n, .ok true)  => P m n
      | (m, .ok false), (n, .ok false) => Q (m, .finished) (n, .finished)
      | (m, .error x),  (n, .error y)  => Q (m, x.ending) (n, y.ending)
      | _,              _              => False)
    (h : P m n) (fuel : Nat) : Q (m.run fuel) (n.run fuel) := by
  -- No machine has the mark, so that the runs do not part.
  have run : AlikeUntil (fun _ => False) P Q m n fuel :=
    run_alikeUntil pause (fun _ _ _ marked => marked.elim) (fun m n related _ => step m n related) h fuel
  cases run
  case alike same    => exact same
  case parted marked _ _ => cases marked

theorem AlikeUntil.alike_iff {P : Machine → Machine → Prop}
    {Q : Machine × Ending → Machine × Ending → Prop} (h : AlikeUntil bad P Q m n fuel)
    (apart : ∀ k p q, k < fuel → m.run k = (p, .unfinished) → bad p → P p q →
      ¬Q (m.run fuel) (q, .unwritable)) :
    Q (m.run fuel) (n.run fuel) ↔ m.Avoids bad fuel := by
  cases h
  case alike avoids same => exact iff_of_true same avoids
  case parted k p q sooner _ pause marked related stopped =>
    refine iff_of_false ?_ fun avoids => avoids k sooner p pause marked
    rw [stopped]
    exact apart k p q sooner pause marked related

end Machine

end StackForth
