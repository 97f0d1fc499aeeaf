import StackForth.Proofs.Bounds

namespace StackForth

-- What an instruction does to the return stack.
inductive Turns (s : State) : Instruction → State → Prop
  | call (call : i.isCall) (pushed : t.returns = (s.ip + 1) :: s.returns) : Turns s i t
  | ret (popped : s.returns = t.ip :: t.returns) : Turns s .ret t
  | stay (call : ¬i.isCall) (ret : i ≠ .ret) (same : t.returns = s.returns) : Turns s i t

theorem Moves.turns {image : Image} {s t : State} {i : Instruction} (h : Moves image s i t)
    (steps : Nat) : Turns s i { t with steps } := by
  cases h
  case call    => exact .call rfl rfl
  case word    => exact .call rfl rfl
  case ret top => exact .ret top
  all_goals exact .stay nofun nofun rfl

namespace Turns

variable {s t : State} {i : Instruction} {base : List Nat} {r : Nat}

theorem length_returns (h : Turns s i t) :
    t.returns.length + [i].count .ret = s.returns.length + [i].countP (·.isCall) := by
  cases h
  case call call pushed =>
    have other : i ≠ .ret := by rintro rfl; cases call
    simp [pushed, call, other]
  case ret popped         => simp [popped, Instruction.isCall]
  case stay call ret same => simp [same, call, ret]

theorem pushed (h : Turns s i t) (call : i.isCall) : t.returns = (s.ip + 1) :: s.returns := by
  cases h
  case call pushed    => exact pushed
  case ret            => cases call
  case stay other _ _ => exact absurd call other

-- What is at the bottom of the return stack stays there until the stack gets too short for it.
theorem suffix (h : Turns s i t) (below : base <:+ s.returns)
    (longer : base.length ≤ t.returns.length) : base <:+ t.returns := by
  cases h
  case call pushed => exact pushed ▸ below.trans (List.suffix_cons ..)
  case stay same   => exact same ▸ below
  case ret popped  =>
    rw [popped] at below
    apply (List.suffix_cons_iff.mp below).resolve_left
    rintro rfl
    exact Nat.not_succ_le_self _ longer

-- Only a return makes the return stack shorter, and it goes to the address that it takes off.
theorem back (h : Turns s i t) (below : (r :: base) <:+ s.returns)
    (short : t.returns.length ≤ base.length) : i = .ret ∧ t.returns = base ∧ t.ip = r := by
  have long : base.length < s.returns.length := below.length_le
  cases h
  case call pushed =>
    rw [pushed, List.length_cons] at short
    omega
  case stay same   =>
    rw [same] at short
    omega
  case ret popped  =>
    rw [popped] at below
    rcases List.suffix_cons_iff.mp below with top | deeper
    · cases top
      exact ⟨rfl, rfl, rfl⟩
    -- Any other return would leave more than was there before the call.
    · exact absurd deeper.length_le (Nat.not_le_of_lt (Nat.lt_succ_of_le short))

end Turns

namespace Machine

structure Executes (m : Machine) (i : Instruction) (n : Machine) : Prop where
  current : m.state.current? m.image.program = some i
  step    : ∃ more, m.step = (n, .ok more)

inductive History : Machine → List Instruction → Machine → Prop
  | refl : History m [] m
  | next (first : Executes m i n) (rest : History n is p) : History m (i :: is) p

-- The way from one machine to another, on which more than `depth` addresses are left to return to.
inductive Inside (depth : Nat) : Machine → Machine → Prop
  | refl : Inside depth m m
  | next (first : Executes m i n) (deeper : depth < n.state.returns.length)
      (rest : Inside depth n p) : Inside depth m p

variable {m n : Machine} {i : Instruction} {is : List Instruction} {base : List Nat} {r : Nat}

theorem Executes.moves (h : m.Executes i n) :
    i.needs ≤ m.state.stack.length ∧
    ∃ t, Moves m.image m.state i t ∧ n.state = { t with steps := m.state.steps + 1 } := by
  have ⟨current, more, step⟩ := h
  have stepped : m.Stepped (n, .ok more) := step ▸ m.step_stepped
  cases stepped
  case rest done                => cases current.symm.trans done
  case next here _ enough moves =>
    cases current.symm.trans here
    exact ⟨enough, _, moves, rfl⟩

theorem Executes.turns (h : m.Executes i n) : Turns m.state i n.state := by
  have ⟨_, _, moves, state⟩ := h.moves
  rw [state]
  exact moves.turns _

theorem History.length_returns (h : m.History is n) :
    n.state.returns.length + is.count .ret = m.state.returns.length + is.countP (·.isCall) := by
  induction h
  case refl => rfl
  case next i _ is _ first _ ih =>
    have turn := first.turns.length_returns
    rw [← List.singleton_append, List.count_append, List.countP_append]
    omega

theorem Inside.suffix (h : m.Inside base.length n) (below : (r :: base) <:+ m.state.returns) :
    (r :: base) <:+ n.state.returns := by
  induction h
  case refl                   => exact below
  case next first deeper _ ih => exact ih (first.turns.suffix below deeper)

theorem history_run (m : Machine) (fuel : Nat) (h : ∀ x : Stop, (m.run fuel).2 ≠ x.ending) :
    ∃ is, m.History is (m.run fuel).1 := by
  induction fuel generalizing m
  case zero => exact ⟨[], .refl⟩
  case succ fuel ih =>
    cases current : m.state.current? m.image.program
    case none   => exact ⟨[], run_of_rest current fuel ▸ .refl⟩
    case some i =>
      rcases hs : m.step with ⟨n, x | ⟨_ | _⟩⟩ <;> simp only [run, hs] at h ⊢
      case error    => exact absurd rfl (h x)
      case ok.false => exact ⟨[i], .next ⟨current, _, hs⟩ .refl⟩
      case ok.true  =>
        obtain ⟨is, rest⟩ := ih n h
        exact ⟨i :: is, .next ⟨current, _, hs⟩ rest⟩

end Machine

-- The return stack is as deep as calls are nested. Above the addresses that a call finds on it, the
-- address behind the call stays in place, until a return goes there and leaves what the call found.
theorem calls_are_bracketed {items : List Item} {entries : Entries} {setup : Setup} {m : Machine}
    (h : Machine.load items entries setup = .ok m) :
    (∀ fuel, (∀ x : Stop, (m.run fuel).2 ≠ x.ending) → ∃ is, m.History is (m.run fuel).1) ∧
    (∀ is a, m.History is a →
      a.state.returns.length + is.count .ret = is.countP (·.isCall)) ∧
    ∀ (a b c : Machine) i, a.Executes i b → i.isCall → b.Inside a.state.returns.length c →
      ((a.state.ip + 1) :: a.state.returns) <:+ c.state.returns ∧
      ∀ j d, c.Executes j d → d.state.returns.length ≤ a.state.returns.length →
        j = .ret ∧ d.state.returns = a.state.returns ∧ d.state.ip = a.state.ip + 1 := by
  have ⟨_, _, fresh⟩ := Machine.load_eq h
  have empty : m.state.returns = [] := congrArg (·.state.returns) fresh
  refine ⟨m.history_run, ?_, ?_⟩
  · intro is a history
    simpa [empty] using history.length_returns
  · intro a b c i called call inside
    have below : ((a.state.ip + 1) :: a.state.returns) <:+ c.state.returns :=
      inside.suffix (called.turns.pushed call ▸ List.suffix_rfl)
    exact ⟨below, fun j d last back => last.turns.back below back⟩

def sharing : Machine :=
  { detour with limit := none }

theorem sharing_load :
    Machine.load (sharing.image.program.toList.map .instruction) [(.text "back", .int 3)]
      { cells := [.int 7] } = .ok sharing :=
  rfl

theorem calls_are_bracketed_sharing :
    ∃ b c d, sharing.Executes (.call 2) b ∧ b.Inside 0 c ∧ c.state.returns = [1] ∧
      c.Executes .ret d ∧ d.state.returns = [] ∧ d.state.ip = 1 ∧
      ∃ is, sharing.History is d ∧ is.countP (·.isCall) = 2 ∧ is.count .ret = 2 := by
  have ⟨_, depth, matched⟩ := calls_are_bracketed sharing_load
  have outer : sharing.Executes (.call 2) (sharing.run 1).1 := ⟨rfl, _, rfl⟩
  have inner : (sharing.run 1).1.Executes (.callWord "back") (sharing.run 2).1 := ⟨rfl, _, rfl⟩
  have first : (sharing.run 2).1.Executes .ret (sharing.run 3).1 := ⟨rfl, _, rfl⟩
  have last : (sharing.run 3).1.Executes .ret (sharing.run 4).1 := ⟨rfl, _, rfl⟩
  have inside : (sharing.run 1).1.Inside 0 (sharing.run 3).1 :=
    .next inner (by decide) <| .next first (by decide) .refl
  have history : sharing.History [.call 2, .callWord "back", .ret, .ret] (sharing.run 4).1 :=
    .next outer <| .next inner <| .next first <| .next last .refl
  have ⟨_, back⟩ := matched _ _ _ _ outer rfl inside
  have ⟨_, returns, ip⟩ := back _ _ last (Nat.le_refl 0)
  have balance : 0 + List.count Instruction.ret _ = 2 := depth _ _ history
  rw [Nat.zero_add] at balance
  exact ⟨_, _, _, outer, inside, rfl, last, returns, ip, _, history, rfl, balance⟩

end StackForth
