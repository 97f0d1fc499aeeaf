import StackForth.Proofs.Assembling
import StackForth.Proofs.Moves
import StackForth.Proofs.Placement
import StackForth.Proofs.Thread
import StackForth.Report

/-!
A machine follows a thread of the source code: each step of the one is a step of the other.
-/

namespace StackForth

def Thread.instruction : Thread → Instruction
  | ⟨_, t :: _, _⟩  => t.instruction
  | ⟨_, [], _ :: _⟩ => .ret
  | ⟨_, [], []⟩     => .halt

theorem Thread.writable_instruction (t : Thread) : t.instruction.writable = true := by
  obtain ⟨_, _ | ⟨_ | _ | _, _⟩, _ | _⟩ := t <;> rfl

-- The code of a thread stands at the instruction pointer, and each of its frames at a return address.
-- The last of them is in the main part, which ends at `halt`. All others are in bodies behind it.
inductive Located (p : Program) (halt : Nat) : Nat → List Nat → List Term → List (List Term) → Prop
  | main (holds : p.Holds ip (code.map Term.instruction ++ [.halt]))
      (inside : ip + code.length = halt) : Located p halt ip [] code []
  | word (holds : p.Holds ip (code.map Term.instruction ++ [.ret])) (behind : halt < ip)
      (caller : Located p halt r returns code' frames) :
      Located p halt ip (r :: returns) code (code' :: frames)

namespace Located

variable {p : Program} {halt ip : Nat} {returns : List Nat} {t : Term} {code body : List Term}
variable {frames : List (List Term)}

theorem lt_size (l : Located p halt ip returns code frames) : ip < p.size := by
  cases l
  case main holds _   => exact holds.lt_size
  case word _ _ holds => exact holds.lt_size

theorem returns_eq_nil_iff (l : Located p halt ip returns code frames) :
    returns = [] ↔ ip ≤ halt := by
  cases l
  case main inside     => simp; omega
  case word _ behind _ => simp; omega

theorem next (l : Located p halt ip returns (t :: code) frames) :
    Located p halt (ip + 1) returns code frames := by
  cases l
  case main holds inside        => exact .main holds.right (by simp at inside; omega)
  case word caller behind holds => exact .word holds.right (by omega) caller

end Located

namespace State

variable {image : Image} {s : State} {w : String} {hw : w ≠ ""} {a : Nat} {i : Instruction}

theorem attempt_word (known : image.dictionary.find? w = some a) (inside : a ≤ image.program.size) :
    s.attempt image (.callWord w hw) = .next (.callWord w hw)
      { s with ip := a, returns := (s.ip + 1) :: s.returns, steps := s.steps + 1 } := by
  simp [attempt, Instruction.needs, reaches, execute, enter, known, inside]

theorem attempt_unknown (missing : image.dictionary.find? w = none) :
    s.attempt image (.callWord w hw) = .failed (.callWord w hw) (.unknownWord w) := by
  simp [attempt, Instruction.needs, reaches, execute, missing]

theorem attempt_underflow (short : s.stack.length < i.needs) :
    s.attempt image i = .refused i (.stackUnderflow i.opcode i.needs s.stack.length) :=
  if_neg (mt reaches_iff.mp (Nat.not_le_of_lt short))

end State

structure Follows (image : Image) (halt : Nat) (s : State) (t : Thread) : Prop where
  active : s.halted = false
  stack  : s.stack = t.stack
  place  : Located image.program halt s.ip s.returns t.code t.frames

namespace Follows

variable {image : Image} {halt : Nat} {s : State} {t t' : Thread} {v : Vocabulary}

theorem getElem?_ip (f : Follows image halt s t) : image.program[s.ip]? = some t.instruction := by
  obtain ⟨stack, code, frames⟩ := t
  obtain ⟨_, returns, ip, _, _⟩ := s
  have place := f.place
  cases code <;> cases place
  case nil.main holds _    => exact holds.left
  case nil.word _ _ holds  => exact holds.left
  case cons.main holds _   => exact holds.left
  case cons.word _ _ holds => exact holds.left

theorem current? (f : Follows image halt s t) :
    s.current? image.program = some t.instruction := by
  simp [State.current?, f.active, f.getElem?_ip]

theorem running (f : Follows image halt s t) : s.running image.program = true := by
  simp [State.running, f.current?]

theorem attempt_next (f : Follows image halt s t) (hi : image.Implements halt v)
    (h : t.step v = .next t') :
    ∃ s', s.attempt image t.instruction = .next t.instruction s' ∧ s'.steps = s.steps + 1 ∧
      Follows image halt s' t' := by
  obtain ⟨stack, returns, ip, steps, halted⟩ := s
  obtain ⟨active, stack, place⟩ := f
  revert h
  fun_cases t.step v <;> intro h <;> cases h <;> cases stack
  case case1 =>
    exact ⟨_, rfl, rfl, active, rfl, place.next⟩
  case case2 p _ _ enough =>
    have enough := reaches_iff.mpr enough
    exact ⟨_, if_pos enough, rfl, active, rfl, place.next⟩
  case case4 w _ code frames body known =>
    obtain ⟨a, ha, behind, holds⟩ := hi.known w body known
    have inside : a ≤ image.program.size := Nat.le_of_lt holds.lt_size
    exact ⟨_, State.attempt_word ha inside, rfl, active, rfl, .word holds behind place.next⟩
  case case6 =>
    cases place
    case word caller => exact ⟨_, rfl, rfl, active, rfl, caller⟩

theorem attempt_value {u : List Int} (f : Follows image halt s t)
    (h : t.step v = .stop (.value u)) :
    s.attempt image t.instruction = .next .halt { s with halted := true, steps := s.steps + 1 } ∧
      s.stack = u ∧ s.returns = [] ∧ s.ip = halt := by
  obtain ⟨stack, returns, ip, steps, halted⟩ := s
  have ⟨active, stack, place⟩ := f
  revert h
  fun_cases t.step v <;> intro h <;> cases h
  case case7 =>
    cases place
    case main inside => exact ⟨rfl, stack, rfl, inside⟩

theorem attempt_failure {fault : Fault} {u : List Int} (f : Follows image halt s t)
    (hi : image.Implements halt v) (h : t.step v = .stop (.failure fault u)) :
    s.stack = u ∧
      ((∃ p, fault = .stackUnderflow (.prim p) p.needs u.length) ∧
        s.attempt image t.instruction = .refused t.instruction fault ∨
      (∃ w, fault = .unknownWord w ∧ image.dictionary.find? w = none) ∧
        s.attempt image t.instruction = .failed t.instruction fault) := by
  have stack := f.stack
  revert h
  fun_cases t.step v <;> intro h <;> cases h
  case case3 short =>
    refine ⟨stack, .inl ⟨⟨_, rfl⟩, ?_⟩⟩
    cases stack
    exact State.attempt_underflow (Nat.lt_of_not_le short)
  case case5 missing =>
    have missing := hi.unknown _ missing
    exact ⟨stack, .inr ⟨⟨_, rfl, missing⟩, State.attempt_unknown missing⟩⟩

end Follows

def Exhausted (limit : Option Int) (steps : Nat) : Prop :=
  ∃ n, limit = some n ∧ n ≤ steps

namespace State

variable {image : Image} {limit : Option Int} {s : State} {i : Instruction} {n : Int}

theorem step_attempt (h : s.current? image.program = some i) (hl : ¬Exhausted limit s.steps) :
    s.step image limit = s.attempt image i := by
  simp only [step, h]
  cases limit
  case none   => rfl
  case some n => exact if_neg fun hn => hl ⟨n, rfl, hn⟩

theorem step_limit (h : s.current? image.program = some i) (hn : n ≤ s.steps) :
    s.step image (some n) = .refused i (.stepLimit n) := by
  simp only [step, h]
  exact if_pos hn

end State

-- The steps that a fault adds to the count: only an unknown word is found out too late.
def Fault.delay : Fault → Nat
  | .unknownWord _ => 1
  | _              => 0

namespace Follows

variable {m : Machine} {v : Vocabulary} {halt : Nat} {t t' : Thread}

theorem not_balks (f : Follows m.image halt m.state t) : ¬m.Balks := by
  rintro ⟨_, i, counted, long⟩
  have ⟨current, _⟩ := Machine.current?_of_counted counted
  cases f.current?.symm.trans current
  cases t.writable_instruction.symm.trans long

theorem step_limit {n : Int} (f : Follows m.image halt m.state t) (hl : m.limit = some n)
    (hn : n ≤ m.state.steps) :
    ∃ output, m.step = ({ m with output }, .error (m.stop t.instruction (.stepLimit n))) :=
  Machine.step_refused (hl ▸ State.step_limit f.current? hn)

theorem step_next (f : Follows m.image halt m.state t) (hi : m.image.Implements halt v)
    (hl : ¬Exhausted m.limit m.state.steps) (ht : t.step v = .next t') :
    ∃ state output, m.step = ({ m with state, output }, .ok true) ∧
      state.steps = m.state.steps + 1 ∧ Follows m.image halt state t' := by
  have ⟨state, ha, hs, f'⟩ := f.attempt_next hi ht
  have hs' := State.step_attempt f.current? hl
  have ⟨output, h⟩ := Machine.step_next f.not_balks (hs'.trans ha)
  rw [f'.running] at h
  exact ⟨state, output, h, hs, f'⟩

theorem step_value {u : List Int} (f : Follows m.image halt m.state t)
    (hl : ¬Exhausted m.limit m.state.steps) (ht : t.step v = .stop (.value u)) :
    (∃ output, m.step = ({ m with
        state := { m.state with halted := true, steps := m.state.steps + 1 }, output }, .ok false)) ∧
      m.state.stack = u ∧ m.state.returns = [] ∧ m.state.ip = halt := by
  have ⟨ha, h⟩ := f.attempt_value ht
  have hs := State.step_attempt f.current? hl
  exact ⟨Machine.step_next f.not_balks (hs.trans ha), h⟩

theorem step_failure {fault : Fault} {u : List Int} (f : Follows m.image halt m.state t)
    (hi : m.image.Implements halt v) (hl : ¬Exhausted m.limit m.state.steps)
    (ht : t.step v = .stop (.failure fault u)) :
    (∃ output, m.step = ({ m with
        state := { m.state with steps := m.state.steps + fault.delay }, output },
        .error (.failure (m.failure t.instruction fault)))) ∧
      m.state.stack = u ∧ (fault.kind = .stackUnderflow ∨ fault.kind = .unknownWord) ∧
      ∀ w, fault = .unknownWord w → m.image.dictionary.find? w = none := by
  have ⟨hu, ha⟩ := f.attempt_failure hi ht
  have hs := State.step_attempt f.current? hl
  cases ha
  case inl ha =>
    have ⟨⟨p, hf⟩, ha⟩ := ha
    cases hf
    exact ⟨Machine.step_refused (hs.trans ha), hu, .inl rfl, nofun⟩
  case inr ha =>
    have ⟨⟨w, hf, hw⟩, ha⟩ := ha
    cases hf
    exact ⟨Machine.step_failed f.not_balks (hs.trans ha), hu, .inr rfl, fun _ h => Fault.unknownWord.inj h ▸ hw⟩

end Follows

inductive Machine.Followed (m : Machine) (halt : Nat) (t : Thread) (v : Vocabulary) :
    Machine × Except Stop Bool → Prop
  | limit (limit : m.limit = some n) (reached : n ≤ m.state.steps) :
      Followed m halt t v ({ m with output := text }, .error (m.stop t.instruction (.stepLimit n)))
  | next (below : ¬Exhausted m.limit m.state.steps) (goes : t.step v = .next t')
      (count : s.steps = m.state.steps + 1) (follows : Follows m.image halt s t') :
      Followed m halt t v ({ m with state := s, output := text }, .ok true)
  | value (below : ¬Exhausted m.limit m.state.steps) (result : t.step v = .stop (.value u))
      (stack : m.state.stack = u) (returns : m.state.returns = []) (ip : m.state.ip = halt) :
      Followed m halt t v
        ({ m with state := { m.state with halted := true, steps := m.state.steps + 1 }, output := text },
          .ok false)
  | failure (below : ¬Exhausted m.limit m.state.steps)
      (result : t.step v = .stop (.failure fault u)) (stack : m.state.stack = u)
      (kind : fault.kind = .stackUnderflow ∨ fault.kind = .unknownWord)
      (unknown : ∀ w, fault = .unknownWord w → m.image.dictionary.find? w = none) :
      Followed m halt t v
        ({ m with state := { m.state with steps := m.state.steps + fault.delay }, output := text },
          .error (.failure (m.failure t.instruction fault)))

theorem Follows.followed {m : Machine} {v : Vocabulary} {halt : Nat} {t : Thread}
    (f : Follows m.image halt m.state t) (hi : m.image.Implements halt v) :
    m.Followed halt t v m.step := by
  by_cases hl : Exhausted m.limit m.state.steps
  case pos =>
    have ⟨k, hl, reached⟩ := hl
    have ⟨_, hs⟩ := f.step_limit hl reached
    exact hs ▸ .limit hl reached
  case neg =>
    cases ht : t.step v
    case next =>
      have ⟨_, _, hs, count, f'⟩ := f.step_next hi hl ht
      exact hs ▸ .next hl ht count f'
    case stop r =>
      cases r
      case value =>
        have ⟨⟨_, hs⟩, stack, returns, ip⟩ := f.step_value hl ht
        exact hs ▸ .value hl ht stack returns ip
      case failure =>
        have ⟨⟨_, hs⟩, stack, kind, unknown⟩ := f.step_failure hi hl ht
        exact hs ▸ .failure hl ht stack kind unknown

def Machine.start (main : Program) (words : Table Program) (setup : Setup) (stack : List Int) :
    Machine where
  image   := .layout main words
  state   := { stack }
  limit   := setup.limit
  tracing := setup.tracing

theorem Machine.boot_layout (main : Program) {words : Table Program} (h : words.WellFormed)
    (setup : Setup) :
    boot (.layout main words) setup = (Load.stack [] setup.cells).map (start main words setup) :=
  boot_eq (Image.layout_dictionary_names main words ▸ h.named) setup

theorem Follows.start {main : Program} (words : Table Program) (h : main.Plain) (stack : List Int) :
    Follows (.layout main words) main.size { stack } ⟨stack, main.terms, []⟩ where
  active := rfl
  stack  := rfl
  place  := by
    have hs : main.terms.length = main.size := by
      simpa using congrArg List.length (show main.toList = _ from h).symm
    exact .main (Image.layout_holds_main words h) (by rw [hs, Nat.zero_add])

-- A text that is accepted on top of known words, the assembler at the end of it, and its image.
structure Assembles (words : Table Program) (text : String) (a : Assembler) (image : Image) :
    Prop where
  feed     : Assembler.feed { bodies := words } text = (a, .ok ())
  finalize : a.finalize.2 = .ok image

namespace Assembles

variable {words : Table Program} {text : String} {a : Assembler} {image : Image}

theorem image_eq (h : Assembles words text a image) : image = .layout a.main a.bodies :=
  Assembler.finalize_ok_iff.mp h.finalize |>.right.right

theorem wellFormed (h : Assembles words text a image) (hw : words.WellFormed) : a.WellFormed := by
  have := Assembler.WellFormed.ofWords hw |>.feed text
  rwa [h.feed] at this

theorem boot (h : Assembles words text a image) (hw : words.WellFormed) (setup : Setup) :
    Machine.boot image setup =
      (Load.stack [] setup.cells).map (Machine.start a.main a.bodies setup) :=
  h.image_eq ▸ Machine.boot_layout a.main (h.wellFormed hw).bodies setup

theorem run_eq (h : Assembles words text a image) (hw : words.WellFormed) (bound : Nat)
    (setup : Setup) :
    (image.run bound setup).2 =
      (Load.stack [] setup.cells).bind fun stack =>
        (Machine.start a.main a.bodies setup stack |>.report bound).2 := by
  have boot := h.boot hw setup
  simp only [Machine.boot] at boot
  simp only [Image.run, runProgram, boot]
  cases Load.stack [] setup.cells <;> rfl

theorem runSource_eq (h : Assembles .empty text a image) (bound : Nat) (setup : Setup) :
    (runSource bound text setup).2 = (image.run bound setup).2 := by
  have hp : (Assembler.parse {} text).2 = .ok image := by
    simp only [Assembler.parse, h.feed, h.finalize]
  rcases hr : Assembler.parse {} text with ⟨b, _⟩
  simp only [hr] at hp
  simp only [runSource, hr, hp]

end Assembles

end StackForth
