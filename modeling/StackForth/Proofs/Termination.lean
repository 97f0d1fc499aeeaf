import Mathlib.Data.List.Chain
import Mathlib.Data.List.Nodup
import Mathlib.Data.List.Perm.Subperm
import Mathlib.Logic.Relation
import StackForth.Proofs.Correctness
import StackForth.Proofs.Independence

/-!
Termination of source code. There is nothing to branch on, so a word that refers back to itself
never returns. Without such words evaluation ends, since words are then nested no deeper than their
number.
-/

namespace StackForth

open Relation

-- The definition of one word has the other in it, and both are defined.
def Refers (v : Vocabulary) (w w' : String) : Prop :=
  ∃ body, v w = some body ∧ Mentions body w' ∧ (v w').isSome

-- Evaluation of the code may come upon a word that refers back to itself.
def Recursive (v : Vocabulary) (code : List Term) : Prop :=
  ∃ w, Reachable v code w ∧ TransGen (Refers v) w w

variable {v : Vocabulary} {code body body' : List Term} {w w' : String} {n : Nat}

namespace Mentions

@[simp]
theorem not_nil : ¬Mentions [] w := by
  simp [Mentions]

@[simp]
theorem literal_iff {value : Int32} : Mentions (.literal value :: code) w ↔ Mentions code w := by
  simp [Mentions]

@[simp]
theorem primitive_iff {p : Primitive} : Mentions (.primitive p :: code) w ↔ Mentions code w := by
  simp [Mentions]

@[simp]
theorem word_iff {h : w' ≠ ""} : Mentions (.word w' h :: code) w ↔ w = w' ∨ Mentions code w := by
  simp only [Mentions, List.mem_cons, Term.word.injEq, exists_or]
  refine or_congr_left ⟨?_, fun he => ⟨he ▸ h, he⟩⟩
  rintro ⟨_, he⟩
  exact he

end Mentions

theorem Refers.isSome (h : Refers v w w') : (v w').isSome := by
  have ⟨_, _, _, known⟩ := h
  exact known

theorem Reachable.transGen (r : Reachable v code w) (h : TransGen (Refers v) w w') :
    Reachable v code w' := by
  induction h
  case single h =>
    have ⟨_, known, m, _⟩ := h
    exact r.there known m
  case tail h ih =>
    have ⟨_, known, m, _⟩ := h
    exact ih.there known m

-- A property of code with a number that is smaller for the definitions of its words.
def Descends (v : Vocabulary) (P : Nat → List Term → Prop) : Prop :=
  ∀ n code w body, P n code → Mentions code w → v w = some body → ∃ m < n, P m body

namespace Descends

variable {P : Nat → List Term → Prop}

theorem reachable (hd : Descends v P) (h : P n code) (r : Reachable v code w)
    (known : v w = some body) : ∃ m, P m body := by
  induction r generalizing body
  case here m =>
    have ⟨k, _, hk⟩ := hd _ _ _ _ h m known
    exact ⟨k, hk⟩
  case there known' m ih =>
    have ⟨_, h'⟩ := ih known'
    have ⟨k, _, hk⟩ := hd _ _ _ _ h' m known
    exact ⟨k, hk⟩

theorem transGen (hd : Descends v P) (c : TransGen (Refers v) w w') (known : v w = some body)
    (known' : v w' = some body') (h : P n body) : ∃ m < n, P m body' := by
  induction c generalizing body'
  case single r =>
    have ⟨_, hb, m, _⟩ := r
    cases known.symm.trans hb
    exact hd _ _ _ _ h m known'
  case tail r ih =>
    have ⟨_, hb, m, _⟩ := r
    have ⟨k, hk, h'⟩ := ih hb
    have ⟨l, hl, h''⟩ := hd _ _ _ _ h' m known'
    exact ⟨l, Nat.lt_trans hl hk, h''⟩

theorem not_transGen (hd : Descends v P) (known : v w = some body) (h : P n body) :
    ¬TransGen (Refers v) w w := by
  intro c
  induction n using Nat.strongRecOn
  case ind n ih =>
    have ⟨m, hm, h'⟩ := hd.transGen c known known h
    exact ih m hm h'

theorem not_recursive (hd : Descends v P) (h : P n code) : ¬Recursive v code := by
  intro ⟨w, r, c⟩
  have ⟨_, _, last⟩ := TransGen.tail'_iff.mp c
  have ⟨body, known⟩ := Option.isSome_iff_exists.mp last.isSome
  have ⟨_, h'⟩ := hd.reachable h r known
  exact hd.not_transGen known h' c

end Descends

theorem Evaluates.exists_of_mentions {s u : List Int} {k : Nat}
    (e : Evaluates v code s k (.value u)) (m : Mentions code w) (known : v w = some body) :
    ∃ l < k, ∃ s' u', Evaluates v body s' l (.value u') := by
  generalize hr : Result.value u = r at e
  induction e generalizing u <;> cases hr
  case nil => simp at m
  case literal ih =>
    have ⟨l, hl, e⟩ := ih (by simpa using m) rfl
    exact ⟨l, Nat.lt_succ_of_lt hl, e⟩
  case primitive ih =>
    have ⟨l, hl, e⟩ := ih (by simpa using m) rfl
    exact ⟨l, Nat.lt_succ_of_lt hl, e⟩
  case word k _ _ l _ known' e _ _ ih =>
    cases Mentions.word_iff.mp m
    case inl he =>
      cases he
      cases known.symm.trans known'
      exact ⟨k, by omega, _, _, e⟩
    case inr m =>
      have ⟨j, hj, e⟩ := ih m rfl
      exact ⟨j, by omega, e⟩

theorem descends_value (v : Vocabulary) :
    Descends v fun k code => ∃ s u, Evaluates v code s k (.value u) :=
  fun _ _ _ _ ⟨_, _, e⟩ m known => e.exists_of_mentions m known

def Vocabulary.called (v : Vocabulary) (code : List Term) : List (List Term) :=
  code.filterMap fun
    | .word w _ => v w
    | _         => none

theorem mem_called_iff : body ∈ v.called code ↔ ∃ w, Mentions code w ∧ v w = some body := by
  simp only [Vocabulary.called, List.mem_filterMap]
  constructor
  · rintro ⟨t, m, h⟩
    cases t
    case literal   => cases h
    case primitive => cases h
    case word w hw => exact ⟨w, ⟨hw, m⟩, h⟩
  · rintro ⟨w, ⟨hw, m⟩, h⟩
    exact ⟨.word w hw, m, h⟩

-- Words are nested in the code no deeper than so many levels.
def Shallow (v : Vocabulary) : Nat → List Term → Bool
  | 0,     code => (v.called code).isEmpty
  | n + 1, code => (v.called code).all (Shallow v n)

theorem descends_shallow (v : Vocabulary) : Descends v fun n code => Shallow v n code := by
  intro n code w body h m known
  have called := mem_called_iff.mpr ⟨w, m, known⟩
  cases n
  case zero   => simp [List.isEmpty_iff.mp h] at called
  case succ n => exact ⟨n, Nat.lt_succ_self n, List.all_eq_true.mp h body called⟩

theorem exists_evaluates_of_called
    (h : ∀ body ∈ v.called code, ∀ s, ∃ k r, Evaluates v body s k r) (s : List Int) :
    ∃ k r, Evaluates v code s k r := by
  induction code generalizing s
  case nil => exact ⟨_, _, .nil⟩
  case cons t code ih =>
    cases t
    case literal value =>
      obtain ⟨_, _, e⟩ := ih h (value.toInt :: s)
      exact ⟨_, _, .literal e⟩
    case primitive p =>
      by_cases enough : p.needs ≤ s.length
      case pos =>
        obtain ⟨_, _, e⟩ := ih h (p.effect s)
        exact ⟨_, _, .primitive enough e⟩
      case neg => exact ⟨_, _, .underflow (Nat.lt_of_not_le enough)⟩
    case word w _ =>
      cases known : v w
      case none => exact ⟨_, _, .unknown known⟩
      case some body =>
        have h : ∀ b ∈ body :: v.called code, ∀ s, ∃ k r, Evaluates v b s k r := by
          simpa [Vocabulary.called, known] using h
        obtain ⟨_, r, e⟩ := h body List.mem_cons_self s
        cases r
        case failure => exact ⟨_, _, .wordFailure known e⟩
        case value u =>
          obtain ⟨_, _, e'⟩ := ih (fun b m => h b (List.mem_cons_of_mem _ m)) u
          exact ⟨_, _, .word known e e'⟩

theorem exists_evaluates_of_shallow (h : Shallow v n code) (s : List Int) :
    ∃ k r, Evaluates v code s k r := by
  induction n generalizing code s
  case zero =>
    refine exists_evaluates_of_called (fun body m => ?_) s
    simp [List.isEmpty_iff.mp h] at m
  case succ n ih =>
    refine exists_evaluates_of_called (fun body m => ?_) s
    exact ih (List.all_eq_true.mp h body m)

-- Code that is not shallow has a chain of words in it, each of which refers to the next.
theorem exists_chain_of_deep (h : Shallow v n code = false) :
    ∃ w chain, chain.length = n ∧ Mentions code w ∧ (v w).isSome ∧
      (w :: chain).IsChain (Refers v) := by
  induction n generalizing code
  case zero =>
    have called : v.called code ≠ [] := by simpa [Shallow] using h
    have ⟨body, m⟩ := List.exists_mem_of_ne_nil _ called
    have ⟨w, m, known⟩ := mem_called_iff.mp m
    exact ⟨w, [], rfl, m, by simp [known], .singleton w⟩
  case succ n ih =>
    have ⟨body, m, deep⟩ := List.all_eq_false.mp h
    have ⟨w, m, known⟩ := mem_called_iff.mp m
    have deep : Shallow v n body = false := by simpa using deep
    have ⟨w', chain, length, m', known', next⟩ := ih deep
    refine ⟨w, w' :: chain, by simp [length], m, by simp [known], ?_⟩
    exact .cons_cons ⟨body, known, m', known'⟩ next

theorem isSome_of_isChain {chain : List String} (h : (v w).isSome)
    (c : (w :: chain).IsChain (Refers v)) : ∀ x ∈ w :: chain, (v x).isSome := by
  induction chain generalizing w
  case nil => simpa using h
  case cons w' chain ih =>
    have ⟨refers, c⟩ := List.isChain_cons_cons.mp c
    exact List.forall_mem_cons.mpr ⟨h, ih refers.isSome c⟩

theorem recursive_of_deep {words : Table Program}
    (h : Shallow words.vocabulary words.size code = false) : Recursive words.vocabulary code := by
  have ⟨w, chain, length, m, known, c⟩ := exists_chain_of_deep h
  have defined : w :: chain ⊆ words.names := by
    intro x hx
    have := isSome_of_isChain known c x hx
    rw [Table.vocabulary, Option.isSome_map] at this
    exact Table.isSome_find?_iff.mp this
  -- The chain has one word more than the table, so that some word comes twice.
  have twice : ¬(w :: chain).Nodup := by
    intro nodup
    have := (nodup.subperm defined).length_le
    simp only [List.length_cons, length, Table.size, Table.names, List.length_map] at this
    omega
  have paths : (w :: chain).Pairwise (TransGen (Refers words.vocabulary)) :=
    (c.imp fun _ _ => .single).pairwise
  rw [List.nodup_iff_sublist] at twice
  push Not at twice
  obtain ⟨x, hx⟩ := twice
  -- What stands between its two places leads from the word back to itself.
  have cycle : TransGen (Refers words.vocabulary) x x := by simpa using paths.sublist hx
  have reached : Reachable words.vocabulary code x := by
    cases List.mem_cons.mp (hx.subset List.mem_cons_self)
    case inl he => exact he ▸ .here m
    case inr hm => exact Reachable.here m |>.transGen (List.rel_of_pairwise_cons paths hm)
  exact ⟨x, reached, cycle⟩

theorem recursive_iff_deep {words : Table Program} :
    Recursive words.vocabulary code ↔ Shallow words.vocabulary words.size code = false where
  mp h  := Bool.eq_false_iff.mpr fun shallow => (descends_shallow _).not_recursive shallow h
  mpr h := recursive_of_deep h

instance (words : Table Program) (code : List Term) :
    Decidable (Recursive words.vocabulary code) :=
  decidable_of_iff (Shallow words.vocabulary words.size code = false) recursive_iff_deep.symm

theorem exists_evaluates_of_not_recursive {words : Table Program}
    (h : ¬Recursive words.vocabulary code) (s : List Int) :
    ∃ k r, Evaluates words.vocabulary code s k r := by
  have shallow : Shallow words.vocabulary words.size code := by
    simpa using mt recursive_of_deep h
  exact exists_evaluates_of_shallow shallow s

-- Without recursion the machine for an assembled text comes to an end, and with it the machine does
-- not come to a good end.
theorem termination_is_decided_by_recursion {words : Table Program} {text : String} {a : Assembler}
    {image : Image} {cells : List Int} (hw : words.WellFormed) (ha : Assembles words text a image)
    (hc : ∀ n ∈ cells, Cell.Fits n) (tracing : Bool) :
    ∃ m, Machine.boot image { tracing, cells := cells.map .int } = .ok m ∧
      (¬Recursive a.bodies.vocabulary a.main.terms →
        (∃ s, m.Finishes s) ∨ ∃ fault s, m.Fails fault s) ∧
      ((∃ s, m.Finishes s) → ¬Recursive a.bodies.vocabulary a.main.terms) := by
  have wf := ha.wellFormed hw
  have hi := Image.layout_implements a.main wf.bodies
  have f := Follows.start a.bodies wf.main cells.reverse
  rw [ha.boot hw, Load.stack_ok [] hc, List.append_nil]
  refine ⟨_, rfl, fun acyclic => ?ends, fun ⟨s, finishes⟩ => ?returns⟩
  case ends =>
    have ⟨k, r, e⟩ := exists_evaluates_of_not_recursive acyclic cells.reverse
    have stops := Thread.stops_iff_evaluates.mpr e
    cases r
    case value s         => exact .inl ⟨s, (Machine.finishes_iff f hi rfl).mpr ⟨k, stops⟩⟩
    case failure fault s => exact .inr ⟨fault, s, (Machine.fails_iff f hi rfl).mpr ⟨k, stops⟩⟩
  case returns =>
    have ⟨k, stops⟩ := (Machine.finishes_iff f hi rfl).mp finishes
    have e := Thread.stops_iff_evaluates.mp stops
    exact (descends_value _).not_recursive ⟨_, _, e⟩

def pingAssembler : Assembler where
  main     := #[.callWord "ping"]
  bodies   := {
    entries := [("ping", #[.prim .dup, .callWord "pong", .ret]),
      ("pong", #[.callWord "ping", .ret])]
    nodup   := by decide }
  position := 10

def bystanderAssembler : Assembler where
  main     := #[.callWord "four"]
  bodies   := {
    entries := [("spin", #[.callWord "spin", .ret]),
      ("four", #[.callWord "two", .callWord "two", .ret]), ("two", #[.prim .dup, .prim .add, .ret])]
    nodup   := by decide }
  position := 15

theorem termination_is_decided_by_recursion_ping :
    (∃ m, Machine.boot (.layout pingAssembler.main pingAssembler.bodies)
        { cells := [.int 1] } = .ok m ∧ ∀ s, ¬m.Finishes s) ∧
    ∃ m, Machine.boot (.layout bystanderAssembler.main bystanderAssembler.bodies)
        { cells := [.int 1] } = .ok m ∧ ((∃ s, m.Finishes s) ∨ ∃ fault s, m.Fails fault s) := by
  have hp : Assembles .empty "ping : ping dup pong ; : pong ping ;" pingAssembler _ := ⟨rfl, rfl⟩
  have hb : Assembles .empty ": spin spin ; : four two two ; : two dup + ; four"
      bystanderAssembler _ := ⟨rfl, rfl⟩
  have hc : ∀ n ∈ [1], Cell.Fits n := by decide
  constructor
  case left =>
    have ⟨m, boot, _, returns⟩ := termination_is_decided_by_recursion .empty hp hc false
    have cyclic : Recursive pingAssembler.bodies.vocabulary pingAssembler.main.terms := by decide
    exact ⟨m, boot, fun s finishes => returns ⟨s, finishes⟩ cyclic⟩
  case right =>
    have ⟨m, boot, ends, _⟩ := termination_is_decided_by_recursion .empty hb hc false
    exact ⟨m, boot, ends (by decide)⟩

end StackForth
