import StackForth.Proofs.Session

namespace StackForth

-- The instruction pointer is inside the program, and in the main part or at its halt just as long as
-- there is nothing to return to. Unless the instruction there is a return or the halt, the next one
-- belongs to the same part: no word begins there.
structure Confined (image : Image) (halt : Nat) (s : State) : Prop where
  inside  : s.ip < image.program.size
  returns : s.returns = [] ↔ s.ip ≤ halt
  joined  : ∀ i, s.current? image.program = some i → i ≠ .ret → i ≠ .halt →
              s.ip + 1 < image.program.size ∧ ∀ w, image.dictionary.find? w ≠ some (s.ip + 1)

variable {image : Image} {halt : Nat} {s : State} {t : Thread}

theorem Follows.confined (f : Follows image halt s t) (hf : image.Fenced) :
    Confined image halt s where
  inside  := f.place.lt_size
  returns := f.place.returns_eq_nil_iff
  joined i hi hr hh := by
    obtain ⟨stack, code, frames⟩ := t
    cases hi.symm.trans f.current?
    cases code
    case nil =>
      cases frames
      case nil  => exact absurd rfl hh
      case cons => exact absurd rfl hr
    case cons =>
      -- What stands in front of a word is a return or the halt, and this is neither.
      refine ⟨f.place.next.lt_size, fun w hw => ?_⟩
      have ip := f.getElem?_ip
      cases hf w _ hw
      case inl h => exact hr (Option.some.inj (ip.symm.trans h))
      case inr h => exact hh (Option.some.inj (ip.symm.trans h))

theorem Confined.halted (c : Confined image halt s) (steps : Nat) :
    Confined image halt { s with halted := true, steps } where
  inside      := c.inside
  returns     := c.returns
  joined _ hi := by cases hi

namespace Machine

-- What is known of a machine wherever its run is broken off or comes to its end. It is only left without
-- an error of its own where the limit has been reached and cannot be written.
structure Safe (image : Image) (limit : Option Int) (halt : Nat) (run : Machine × Ending) : Prop where
  confined   : Confined image halt run.1.state
  finished   : run.2 = .finished →
    run.1.state.halted = true ∧ run.1.state.returns = [] ∧ run.1.state.ip = halt
  failed     : ∀ f, run.2 = .failed f →
    f.fault.kind ∈ [Kind.stackUnderflow, .unknownWord, .stepLimit] ∧
      (∀ w, f.fault = .unknownWord w → w ∉ image.dictionary.names) ∧
      (f.fault.kind = .stepLimit →
        ∃ n, limit = some n ∧ isWritable n = true ∧ n ≤ run.1.state.steps)
  unwritable : run.2 = .unwritable →
    ∃ n, limit = some n ∧ isWritable n = false ∧ n ≤ run.1.state.steps

variable {m n : Machine} {v : Vocabulary} {image : Image} {limit : Option Int} {halt : Nat} {t : Thread}
variable {f : Failure}

theorem Safe.ofPause (c : Confined image halt n.state) : Safe image limit halt (n, .unfinished) where
  confined     := c
  finished h   := by cases h
  failed _ h   := by cases h
  unwritable h := by cases h

theorem Safe.ofLimit {k : Int} {i : Instruction} {output : String} (c : Confined image halt n.state)
    (hl : limit = some k) (reached : k ≤ n.state.steps) :
    Safe image limit halt ({ n with output }, (n.stop i (.stepLimit k)).ending) := by
  cases hw : isWritable k <;> simp only [stop, Fault.writable, hw]
  case false =>
    refine ⟨c, ?_, ?_, fun _ => ⟨k, hl, hw, reached⟩⟩
    · rintro ⟨⟩
    · rintro f ⟨⟩
  case true =>
    refine ⟨c, ?_, ?_, ?_⟩
    · rintro ⟨⟩
    · rintro f ⟨⟩
      exact ⟨by simp [failure, Fault.kind], by rintro w ⟨⟩, fun _ => ⟨k, hl, hw, reached⟩⟩
    · rintro ⟨⟩

theorem Safe.ofFailure (c : Confined image halt n.state)
    (hk : f.fault.kind = .stackUnderflow ∨ f.fault.kind = .unknownWord)
    (hw : ∀ w, f.fault = .unknownWord w → w ∉ image.dictionary.names) :
    Safe image limit halt (n, .failed f) where
  confined     := c
  finished h   := by cases h
  unwritable h := by cases h
  failed _ he  := by
    cases he
    refine ⟨?_, hw, fun same => ?_⟩
    · cases hk <;> simp [*]
    · cases hk <;> simp_all

theorem follows_of_pause {k : Nat} (f : Follows m.image halt m.state t)
    (hi : m.image.Implements halt v) (pause : m.run k = (n, .unfinished)) :
    n.image = m.image ∧ ∃ t, Follows n.image halt n.state t := by
  induction k generalizing m t
  case zero => cases pause; exact ⟨rfl, t, f⟩
  case succ k ih =>
    obtain ⟨q, step, rest⟩ := run_succ_unfinished pause
    have followed := f.followed hi
    rw [step] at followed
    cases followed
    case next s text _ _ _ follows =>
      exact ih (m := { m with state := s, output := text }) follows hi rest

theorem safe_run (f : Follows m.image halt m.state t) (hi : m.image.Implements halt v)
    (hf : m.image.Fenced) (fuel : Nat) : Safe m.image m.limit halt (m.run fuel) := by
  let P (n : Machine) := n.image = m.image ∧ n.limit = m.limit ∧ ∃ t, Follows m.image halt n.state t
  have start : P m := ⟨rfl, rfl, t, f⟩
  refine run_induction (P := P) ?pause ?step start fuel
  case pause =>
    intro n ⟨_, _, t, f⟩
    exact .ofPause (f.confined hf)
  case step =>
    intro n ⟨image, same, t, f⟩
    rw [← image] at f hi hf ⊢
    have c := f.confined hf
    have followed := f.followed hi
    generalize n.step = r at followed
    cases followed
    case limit hl reached     => exact .ofLimit c (same ▸ hl) reached
    case next follows         => exact ⟨image, same, _, image ▸ follows⟩
    case value returns ip     => exact ⟨c.halted _, fun _ => ⟨rfl, returns, ip⟩, nofun, nofun⟩
    case failure kind unknown =>
      exact .ofFailure ⟨c.inside, c.returns, c.joined⟩ kind
        fun w h => Table.find?_eq_none_iff.mp (unknown w h)

end Machine

theorem Assembles.safe {words : Table Program} {text : String} {a : Assembler} {image : Image}
    (h : Assembles words text a image) (hw : words.WellFormed) (setup : Setup) (stack : List Int)
    (fuel : Nat) :
    Machine.Safe (.layout a.main a.bodies) setup.limit a.main.size
      (Machine.start a.main a.bodies setup stack |>.run fuel) := by
  have wf := h.wellFormed hw
  have hi := Image.layout_implements a.main wf.bodies
  have hf := Image.layout_fenced a.main wf.bodies
  have f := Follows.start a.bodies wf.main stack
  exact Machine.safe_run (m := .start ..) f hi hf fuel

end StackForth
