import StackForth.Proofs.Moves
import StackForth.Proofs.Procedure

namespace StackForth

def Instruction.isCall : Instruction → Bool
  | .call _       => true
  | .callWord _ _ => true
  | _             => false

-- The address behind a call.
structure Program.IsReturn (p : Program) (r : Nat) : Prop where
  pos    : 1 ≤ r
  inside : r ≤ p.size
  call   : ∃ i, p[r - 1]? = some i ∧ i.isCall

structure State.Bounded (p : Program) (s : State) : Prop where
  inside  : s.ip ≤ p.size
  returns : ∀ r ∈ s.returns, p.IsReturn r
  halted  : s.halted = true → p[s.ip]? = some .halt

namespace State.Bounded

variable {p : Program} {s : State} {i : Instruction} {ip : Nat}

theorem fresh (p : Program) (stack : List Int) : Bounded p { stack } where
  inside      := Nat.zero_le _
  returns _ h := nomatch h
  halted h    := nomatch h

theorem count (b : Bounded p s) (steps : Nat) : Bounded p { s with steps } :=
  ⟨b.inside, b.returns, b.halted⟩

theorem goto (b : Bounded p s) (hs : s.halted = false) (inside : ip ≤ p.size) (stack : List Int) :
    Bounded p { s with stack, ip } where
  inside   := inside
  returns  := b.returns
  halted h := by cases hs.symm.trans h

theorem enter (b : Bounded p s) (current : s.current? p = some i) (call : i.isCall)
    (inside : ip ≤ p.size) : Bounded p { s with ip, returns := (s.ip + 1) :: s.returns } where
  inside   := inside
  returns  := by
    have ⟨_, hi⟩ := current?_eq_some_iff.mp current
    simp only [List.forall_mem_cons]
    refine ⟨⟨?_, ?_, i, ?_, call⟩, b.returns⟩
    · exact Nat.le_add_left 1 s.ip
    · exact lt_size_of_current? current
    · exact hi
  halted h := by cases (current?_eq_some_iff.mp current).left.symm.trans h

end State.Bounded

variable {image : Image} {s t : State} {i : Instruction}

theorem Moves.bounded (h : Moves image s i t) (current : s.current? image.program = some i)
    (b : s.Bounded image.program) : t.Bounded image.program := by
  have ⟨hs, hi⟩ := State.current?_eq_some_iff.mp current
  have next := State.lt_size_of_current? current
  cases h
  case prim        => exact b.goto hs next _
  case push        => exact b.goto hs next _
  case jump inside => exact b.goto hs inside _
  case zero inside => exact b.goto hs inside _
  case nonzero     => exact b.goto hs next _
  case call inside => exact b.enter current rfl inside
  case word inside => exact b.enter current rfl inside
  case halt        => exact ⟨b.inside, b.returns, fun _ => hi⟩
  case ret r returns top =>
    have ⟨back, rest⟩ := List.forall_mem_cons.mp (top ▸ b.returns)
    exact ⟨back.inside, rest, fun h => by cases hs.symm.trans h⟩

theorem exists_ok_of_bind {ε α β : Type} {x : Except ε α} {k : α → Except ε β} {b : β}
    (h : x >>= k = .ok b) : ∃ a, x = .ok a ∧ k a = .ok b := by
  cases x
  case error => cases h
  case ok a  => exact ⟨a, rfl, h⟩

namespace Machine

-- Machines as they come about: any program, stack and dictionary that can be loaded, then steps and
-- runs that end well or not, words to add, and other settings.
inductive Reached : Machine → Prop
  | load (items : List Item) (entries : Entries) (setup : Setup) :
      load items entries setup = .ok m → Reached m
  | step : Reached m → Reached m.step.1
  | run (fuel : Nat) : Reached m → Reached (m.run fuel).1
  | install (entries : Entries) : Reached m → Reached (m.install entries).1
  | set (limit : Option Int) (tracing : Bool) : Reached m → Reached { m with limit, tracing }

variable {m : Machine}

abbrev Bounded (m : Machine) : Prop :=
  m.state.Bounded m.image.program

theorem load_eq {items : List Item} {entries : Entries} {setup : Setup}
    (h : load items entries setup = .ok m) : ∃ image stack,
      m = { image, state := { stack }, limit := setup.limit, tracing := setup.tracing } := by
  have ⟨_, _, h⟩ := exists_ok_of_bind h
  have ⟨_, _, h⟩ := exists_ok_of_bind h
  have ⟨_, _, h⟩ := exists_ok_of_bind h
  cases h
  exact ⟨_, _, rfl⟩

theorem load_bounded {items : List Item} {entries : Entries} {setup : Setup}
    (h : load items entries setup = .ok m) : m.Bounded := by
  have ⟨_, _, fresh⟩ := load_eq h
  rw [fresh]
  exact .fresh ..

theorem Stepped.bounded {r : Machine × Except Stop Bool} (h : m.Stepped r) (b : m.Bounded) :
    r.1.Bounded := by
  cases h
  case rest                   => exact b
  case limit                  => exact b
  case underflow              => exact b
  case balks                  => exact b
  case failed                 => exact b.count _
  case next current _ _ moves => exact (moves.bounded current b).count _

theorem step_bounded (m : Machine) (b : m.Bounded) : m.step.1.Bounded :=
  m.step_stepped.bounded b

theorem install_bounded (b : m.Bounded) (entries : Entries) : (m.install entries).1.Bounded := by
  simp only [install]
  split
  case isTrue  => exact b
  case isFalse =>
    split
    case h_1 => exact b
    case h_2 => exact b

theorem Reached.bounded (h : m.Reached) : m.Bounded := by
  induction h
  case load h               => exact load_bounded h
  case step m _ ih          => exact m.step_bounded ih
  case run fuel _ ih        => exact run_invariant step_bounded ih fuel
  case install entries _ ih => exact install_bounded ih entries
  case set ih               => exact ih

end Machine

-- The least number of more than so many digits. It is not meant to be computed.
@[irreducible]
def leastBeyond (digits : Nat) : Nat :=
  Nat.pow 10 digits

theorem length_toDigits_le_iff {n digits : Nat} (h : 0 < digits) :
    (Nat.toDigits 10 n).length ≤ digits ↔ n < leastBeyond digits := by
  unfold leastBeyond
  exact Nat.length_toDigits_le_iff (by decide) h

theorem ten_le_leastBeyond {digits : Nat} (h : 0 < digits) : 10 ≤ leastBeyond digits := by
  unfold leastBeyond
  exact Nat.le_pow h

def tooLong : Nat :=
  leastBeyond digitLimit

theorem isWritable_iff {n : Int} : isWritable n ↔ n.natAbs < tooLong := by
  rw [isWritable, decide_eq_true_iff]
  exact length_toDigits_le_iff (by decide)

theorem ten_le_tooLong : 10 ≤ tooLong :=
  ten_le_leastBeyond (by decide)

theorem not_isWritable_of_natAbs {n : Int} (h : n.natAbs = tooLong) : isWritable n = false := by
  simp [← Bool.not_eq_true, isWritable_iff, h]

def Instruction.Legible (size : Nat) : Instruction → Prop
  | .jump k _ => ∀ ip : Nat, ip ≤ size → isWritable (ip + k)
  | .ifZero k => ∀ ip : Nat, ip ≤ size → isWritable (ip + k)
  | .call a   => isWritable a
  | _         => True

structure Legible (image : Image) (limit : Option Int) : Prop where
  program   : ∀ i ∈ image.program, i.Legible image.program.size
  addresses : ∀ (w : String) (a : Nat), image.dictionary.find? w = some a → isWritable a
  limit     : ∀ n, limit = some n → isWritable n

theorem Legible.writable {limit : Option Int} {f : Fault} (l : Legible image limit)
    (current : s.current? image.program = some i) (h : Trips image s i f) : f.writable := by
  have ⟨_, hi⟩ := State.current?_eq_some_iff.mp current
  have inside := Nat.le_of_lt (State.lt_size_of_current? current)
  have li := l.program i (Array.mem_of_getElem? hi)
  cases h
  case jump         => exact li _ inside
  case zero         => exact li _ inside
  case call         => exact li
  case word known _ => exact l.addresses _ _ known
  case unknown      => rfl
  case ret          => rfl

theorem Instruction.Legible.writable {size : Nat} (h : i.Legible size) : i.writable := by
  cases i
  case jump   => simpa [Instruction.writable] using h 0 (Nat.zero_le _)
  case ifZero => simpa [Instruction.writable] using h 0 (Nat.zero_le _)
  case call   => exact h
  all_goals rfl

theorem Machine.Stepped.ne_unwritable {m n : Machine} (l : Legible m.image m.limit) :
    ¬m.Stepped (n, .error .unwritable) := by
  intro h
  cases h
  case limit hl _ stop => simp [stop_eq_unwritable_iff, Fault.writable, l.limit _ hl] at stop
  case underflow stop  => simp [stop_eq_unwritable_iff, Fault.writable] at stop
  case balks current _ _ _ long =>
    have ⟨_, hi⟩ := State.current?_eq_some_iff.mp current
    have writable := (l.program _ (Array.mem_of_getElem? hi)).writable
    cases writable.symm.trans long
  case failed current _ _ trips stop =>
    have writable := l.writable current trips
    cases writable.symm.trans (stop_eq_unwritable_iff.mp stop)

-- Whatever the program, a step is made inside of it and on cells that are there. It fails for a reason
-- of one of five kinds, unless it has to write a number that is too long.
theorem machine_control_is_bounded {m : Machine} (h : m.Reached) :
    m.state.Bounded m.image.program ∧
    (Procedure.step m.image m.limit m.tracing).run m.state = Machine.outcome m.step ∧
    (∀ s, (Procedure.step m.image m.limit m.tracing).run m.state ≠ .error .stray s) ∧
    (∀ n f, m.step = (n, .error (.failure f)) →
      f.fault.kind ∈
        [.stackUnderflow, .returnStackUnderflow, .unknownWord, .invalidAddress, .stepLimit]) ∧
    (Legible m.image m.limit → m.step.2 ≠ .error .unwritable) := by
  refine ⟨h.bounded, m.step_procedure, ?_, fun n f hs => ?_, fun l untold => ?_⟩
  · rw [m.step_procedure]
    exact Machine.outcome_ne_stray m.step
  · exact (hs ▸ m.step_stepped : m.Stepped (n, .error (.failure f))).kind
  · have stepped := m.step_stepped
    rw [← Prod.eta m.step, untold] at stepped
    exact Machine.Stepped.ne_unwritable l stepped

def detour : Machine where
  image := ⟨#[.call 2, .halt, .callWord "back", .ret], Table.empty.insert "back" 3⟩
  state := { stack := [7] }
  limit := some 2

theorem detour_reached : detour.Reached :=
  .load (detour.image.program.toList.map .instruction) [(.text "back", .int 3)]
    { limit := some 2, cells := [.int 7] } rfl

theorem detour_legible : Legible detour.image (some 2) where
  program := by
    have two : isWritable 2 := by decide
    simp [detour, Instruction.Legible, two]
  addresses w a h := by
    have found : a = 3 := by
      have h : (Table.empty.insert "back" 3).find? w = some a := h
      rw [Table.find?_insert] at h
      split at h <;> cases h
      rfl
    rw [found]
    decide
  limit n h := by
    cases h
    decide

theorem machine_control_is_bounded_detour :
    State.Bounded detour.image.program { stack := [7], returns := [3, 1], ip := 3, steps := 2 } ∧
    (detour.run 2).1.step.2 ≠ .error .unwritable ∧
    ∃ f, (detour.run 2).1.step.2 = .error (.failure f) ∧ f.fault.kind = .stepLimit := by
  have ⟨bounded, _, _, _, told⟩ := machine_control_is_bounded (detour_reached.run 2)
  exact ⟨bounded, told detour_legible, _, rfl, rfl⟩

end StackForth
