import StackForth.Proofs.Simulation

namespace StackForth

def Mentions (code : List Term) (w : String) : Prop :=
  ∃ h, .word w h ∈ code

-- A word that evaluation of the code may come upon.
inductive Reachable (v : Vocabulary) (code : List Term) : String → Prop
  | here (m : Mentions code w) : Reachable v code w
  | there (r : Reachable v code w) (known : v w = some body) (m : Mentions body w') :
      Reachable v code w'

namespace Thread

structure Covered (v : Vocabulary) (main : List Term) (t : Thread) : Prop where
  code   : ∀ w, Mentions t.code w → Reachable v main w
  frames : ∀ code ∈ t.frames, ∀ w, Mentions code w → Reachable v main w

namespace Covered

variable {v v' : Vocabulary} {main : List Term} {t t' : Thread} {s : List Int}

theorem start : Covered v main ⟨s, main, []⟩ where
  code _ m := .here m
  frames   := nofun

theorem tail {term : Term} {code : List Term} {frames : List (List Term)} {u : List Int}
    (c : Covered v main ⟨s, term :: code, frames⟩) : Covered v main ⟨u, code, frames⟩ where
  code w m := c.code w ⟨m.1, List.mem_cons_of_mem _ m.2⟩
  frames   := c.frames

theorem step (c : Covered v main t) (h : t.step v = .next t') : Covered v main t' := by
  revert h
  fun_cases t.step v <;> intro h <;> cases h
  case case1 => exact c.tail
  case case2 => exact c.tail
  case case4 w hw code frames body known =>
    have reached := c.code w ⟨hw, List.mem_cons_self⟩
    refine ⟨fun w' m => .there reached known m, ?_⟩
    exact List.forall_mem_cons.mpr ⟨(c.tail (u := [])).code, c.frames⟩
  case case6 =>
    have frames := List.forall_mem_cons.mp c.frames
    exact ⟨frames.left, frames.right⟩

theorem step_eq (c : Covered v main t) (h : ∀ w, Reachable v main w → v w = v' w) :
    t.step v' = t.step v := by
  obtain ⟨s, code, frames⟩ := t
  cases code
  case nil => cases frames <;> rfl
  case cons term code =>
    cases term
    case literal   => rfl
    case primitive => rfl
    case word w hw => simp only [Thread.step, h w (c.code w ⟨hw, List.mem_cons_self⟩)]

end Covered

end Thread

theorem Located.length_eq {p : Program} {halt ip : Nat} {returns : List Nat} {code : List Term}
    {frames : List (List Term)} (l : Located p halt ip returns code frames) :
    returns.length = frames.length := by
  induction l
  case main        => rfl
  case word ih     => simp [ih]

inductive Both (R : α → α → Prop) : Except ε α → Except ε α → Prop
  | ok : R x y → Both R (.ok x) (.ok y)
  | error : Both R (.error e) (.error e)

-- Reports that give the same answer. Without a limit a report may also say that a run is not over.
structure Report.Agrees (r r' : Report) : Prop where
  ok    : r.isOk = r'.isOk
  kind  : r.trouble?.map Trouble.kind = r'.trouble?.map Trouble.kind
  stack : r.stack = r'.stack
  steps : r.steps = r'.steps

namespace Machine

inductive Ending.Alike : Ending → Ending → Prop
  | finished : Alike .finished .finished
  | unwritable : Alike .unwritable .unwritable
  | unfinished : Alike .unfinished .unfinished
  | failed (fault : f.fault = g.fault) (instruction : f.instruction = g.instruction)
      (stack : f.stack = g.stack) : Alike (.failed f) (.failed g)

structure Abreast (p q : Machine × Ending) : Prop where
  stack   : p.1.state.stack = q.1.state.stack
  depth   : p.1.state.returns.length = q.1.state.returns.length
  steps   : p.1.state.steps = q.1.state.steps
  halted  : p.1.state.halted = q.1.state.halted
  current : p.1.state.current? p.1.image.program = q.1.state.current? q.1.image.program
  ending  : p.2.Alike q.2

structure Paired (v : Vocabulary) (main : List Term) (A B : Image) (halt halt' : Nat)
    (m n : Machine) : Prop where
  images : m.image = A ∧ n.image = B
  limit  : m.limit = n.limit
  steps  : m.state.steps = n.state.steps
  thread : ∃ t, Follows A halt m.state t ∧ Follows B halt' n.state t ∧ t.Covered v main

variable {m n : Machine} {v v' : Vocabulary} {main : List Term} {A B : Image} {halt halt' : Nat}
variable {t : Thread} {e e' : Ending}

theorem Abreast.ofFollows (f : Follows m.image halt m.state t) (g : Follows n.image halt' n.state t)
    (hs : m.state.steps = n.state.steps) (he : e.Alike e') : Abreast (m, e) (n, e') where
  stack   := f.stack.trans g.stack.symm
  depth   := f.place.length_eq.trans g.place.length_eq.symm
  steps   := hs
  halted  := f.active.trans g.active.symm
  current := f.current?.trans g.current?.symm
  ending  := he

theorem Paired.run (p : Paired v main A B halt halt' m n) (hi : A.Implements halt v)
    (hj : B.Implements halt' v') (hv : ∀ w, Reachable v main w → v w = v' w) (fuel : Nat) :
    Abreast (m.run fuel) (n.run fuel) := by
  refine run_induction₂ (P := Paired v main A B halt halt') ?pause ?step p fuel
  case pause =>
    rintro m n ⟨⟨hA, hB⟩, _, hs, t, f, g, _⟩
    cases hA; cases hB
    exact .ofFollows f g hs .unfinished
  case step =>
    rintro m n ⟨⟨hA, hB⟩, hl, hs, t, f, g, c⟩
    cases hA; cases hB
    have hfs : m.state.stack = n.state.stack := f.stack.trans g.stack.symm
    by_cases he : Exhausted m.limit m.state.steps
    case pos =>
      obtain ⟨k, hk, hks⟩ := he
      obtain ⟨_, hm⟩ := f.step_limit hk hks
      obtain ⟨_, hn⟩ := g.step_limit (hl ▸ hk) (hs ▸ hks)
      rw [hm, hn]
      -- The limit is the same for both, so that both can write it or neither can.
      cases hw : isWritable k <;> simp only [stop, Fault.writable, hw]
      case false => exact .ofFollows f g hs .unwritable
      case true  => exact .ofFollows f g hs (.failed rfl rfl hfs)
    case neg =>
      have he' : ¬Exhausted n.limit n.state.steps := hl ▸ hs ▸ he
      cases ht : t.step v
      case next =>
        obtain ⟨_, _, hm, hks, f'⟩ := f.step_next hi he ht
        obtain ⟨_, _, hn, hks', g'⟩ := g.step_next hj he' ((c.step_eq hv).trans ht)
        rw [hm, hn]
        refine ⟨⟨rfl, rfl⟩, hl, ?_, _, f', g', c.step ht⟩
        exact hks.trans (hs ▸ hks'.symm)
      case stop r =>
        have ht' := (c.step_eq hv).trans ht
        cases r
        case value =>
          obtain ⟨⟨_, hm⟩, _, hr, _⟩ := f.step_value he ht
          obtain ⟨⟨_, hn⟩, _, hr', _⟩ := g.step_value he' ht'
          rw [hm, hn]
          have hks := congrArg (· + 1) hs
          exact ⟨hfs, by simp [hr, hr'], hks, rfl, rfl, .finished⟩
        case failure fault _ =>
          obtain ⟨⟨_, hm⟩, _⟩ := f.step_failure hi he ht
          obtain ⟨⟨_, hn⟩, _⟩ := g.step_failure hj he' ht'
          rw [hm, hn]
          -- An unknown word is found out when it has been counted, and by both machines.
          have hks := congrArg (· + fault.delay) hs
          have f' : Follows m.image halt { m.state with steps := m.state.steps + fault.delay } t :=
            ⟨f.active, f.stack, f.place⟩
          have g' : Follows n.image halt' { n.state with steps := n.state.steps + fault.delay } t :=
            ⟨g.active, g.stack, g.place⟩
          exact .ofFollows f' g' hks (.failed rfl rfl hfs)

theorem Abreast.agrees {p q : Machine × Ending} (a : Abreast p q) :
    Both Report.Agrees (Report.ofRun p.1 p.2) (Report.ofRun q.1 q.2) := by
  obtain ⟨m, e⟩ := p
  obtain ⟨n, e'⟩ := q
  have he : e.Alike e' := a.ending
  cases he
  case finished   => exact .ok ⟨rfl, rfl, a.stack, a.steps⟩
  case unfinished => exact .ok ⟨rfl, rfl, a.stack, a.steps⟩
  case unwritable => exact .error
  case failed fault _ stack =>
    have kind := congrArg (some ∘ Fault.kind) fault
    exact .ok ⟨rfl, kind, stack, a.steps⟩

theorem report_agrees (h : ∀ fuel, Abreast (m.run fuel) (n.run fuel)) (hl : m.limit = n.limit)
    (bound : Nat) : Both Report.Agrees (m.report bound).2 (n.report bound).2 := by
  have hf : n.horizon bound = m.horizon bound := by simp only [horizon, hl]
  simp only [Machine.report, runToEnd, hf]
  exact (h (m.horizon bound)).agrees

end Machine

theorem assembled_runs_abreast {text text' : String} {a b : Assembler} {A B : Image}
    (ha : Assembles .empty text a A) (hb : Assembles .empty text' b B) (hm : a.main = b.main)
    (hw : ∀ w, Reachable a.bodies.vocabulary a.main.terms w → a.bodies.find? w = b.bodies.find? w)
    (setup : Setup) :
    Both (fun m n => ∀ fuel, Machine.Abreast (m.run fuel) (n.run fuel))
      (Machine.boot A setup) (Machine.boot B setup) ∧
    ∀ bound, Both Report.Agrees (runSource bound text setup).2 (runSource bound text' setup).2 := by
  have wf := ha.wellFormed .empty
  have wf' := hb.wellFormed .empty
  have hi := Image.layout_implements a.main wf.bodies
  have hj := Image.layout_implements b.main wf'.bodies
  have hv : ∀ w, Reachable a.bodies.vocabulary a.main.terms w →
      a.bodies.vocabulary w = b.bodies.vocabulary w := by
    intro w r
    exact congrArg (Option.map Program.terms) (hw w r)
  have run (stack fuel) : Machine.Abreast ((Machine.start a.main a.bodies setup stack).run fuel)
      ((Machine.start b.main b.bodies setup stack).run fuel) := by
    have f := Follows.start a.bodies wf.main stack
    have g := Follows.start b.bodies wf'.main stack
    rw [← hm] at g hj ⊢
    have start : Machine.Paired a.bodies.vocabulary a.main.terms _ _ _ _
        (.start a.main a.bodies setup stack) (.start a.main b.bodies setup stack) :=
      ⟨⟨rfl, rfl⟩, rfl, rfl, _, f, g, .start⟩
    exact start.run hi hj hv fuel
  rw [ha.boot .empty, hb.boot .empty]
  simp only [ha.runSource_eq, hb.runSource_eq, ha.run_eq .empty, hb.run_eq .empty]
  cases Load.stack [] setup.cells
  case error    => exact ⟨.error, fun _ => .error⟩
  case ok stack => exact ⟨.ok (run stack), fun _ => Machine.report_agrees (run stack) rfl _⟩

def soleAssembler : Assembler where
  main     := #[.callWord "sum"]
  bodies   := ⟨[("sum", #[.prim .add, .callWord "sum", .ret])], by decide⟩
  position := 6

def lastAssembler : Assembler where
  main      := #[.callWord "sum"]
  bodies    := ⟨[("one", #[.push 1, .ret]), ("sum", #[.prim .add, .callWord "sum", .ret])], by decide⟩
  position  := 13
  redefined := ["sum"]

theorem eq_sum_of_reachable {w : String}
    (r : Reachable soleAssembler.bodies.vocabulary soleAssembler.main.terms w) : w = "sum" := by
  induction r
  case here m =>
    have ⟨_, m⟩ := m
    cases m
    case head   => rfl
    case tail m => cases m
  case there known m ih =>
    cases ih
    cases known
    have ⟨_, m⟩ := m
    cases m
    case tail m =>
      cases m
      case head   => rfl
      case tail m => cases m

theorem assembled_runs_abreast_sum :
    Both Report.Agrees
      (runSource 9 ": sum + sum ; sum" { cells := [.int 1, .int 2, .int 3] }).2
      (runSource 9 "sum : sum ; : one 1 ; : sum + sum ;" { cells := [.int 1, .int 2, .int 3] }).2 := by
  have ha : Assembles .empty ": sum + sum ; sum" soleAssembler _ := ⟨rfl, rfl⟩
  have hb : Assembles .empty "sum : sum ; : one 1 ; : sum + sum ;" lastAssembler _ := ⟨rfl, rfl⟩
  have hw (w) (r : Reachable soleAssembler.bodies.vocabulary soleAssembler.main.terms w) :
      soleAssembler.bodies.find? w = lastAssembler.bodies.find? w :=
    eq_sum_of_reachable r ▸ rfl
  exact (assembled_runs_abreast ha hb rfl hw _).right 9

end StackForth
