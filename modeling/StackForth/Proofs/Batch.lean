import StackForth.Proofs.Correctness
import StackForth.Proofs.Session

namespace StackForth

theorem Text.tokens_intercalate (lines : List String) :
    tokens (String.intercalate "\n" lines) = lines.flatMap tokens := by
  induction lines
  case nil => rfl
  case cons line lines ih =>
    cases lines
    case nil => simp
    case cons next lines =>
      rw [String.intercalate_cons_cons, List.flatMap_cons, ← ih]
      exact tokens_append line _ (c := '\n') rfl

def Defines (line w : String) : Prop :=
  [":", w] <:+: Text.tokens line

instance (line w : String) : Decidable (Defines line w) :=
  inferInstanceAs (Decidable ([":", w] <:+: Text.tokens line))

namespace Session

-- Lines that end well one after the other without defining a word that the session has, and the
-- number of steps that all of them take.
inductive Succeeds : Session → List String → Nat → Session → Prop
  | nil : Succeeds s [] 0 s
  | cons (evaluated : (s.evaluate bound line).2.2 = .ok r) (ok : r.isOk)
      (new : ∀ w ∈ s.words.names, ¬Defines line w) :
      Succeeds (s.evaluate bound line).1 lines k s' → Succeeds s (line :: lines) (r.steps + k) s'

variable {s s' : Session} {bound k n : Nat} {line : String} {lines : List String} {r : Report}

theorem evaluate_ok (hl : s.limit = none) (hw : s.words.WellFormed)
    (he : (s.evaluate bound line).2.2 = .ok r) (hr : r.isOk) :
    ∃ a image k, Assembles s.words line a image ∧
      (s.evaluate bound line).1 = s.accept r.stack a.bodies image ∧
      Evaluates a.bodies.vocabulary a.main.terms s.stack k (.value r.stack) ∧ r.steps = k + 1 := by
  cases s.evaluate_cases bound line
  case inl h => exact absurd hr (by simp [h.right r he])
  case inr h =>
    obtain ⟨a, image, r', ha, hrun, _, hs, he'⟩ := h
    cases he.symm.trans he'
    obtain ⟨stack, k, hst, value, hk⟩ := ha.evaluates_of_run hw hl hrun hr
    have hss : stack = s.stack := by simpa [setup, cells] using Load.stack_of_ok hst
    exact ⟨a, image, k, ha, hs, hss ▸ value, hk⟩

theorem vocabulary_extends {a : Assembler} {image : Image} (ha : Assembles s.words line a image)
    (new : ∀ w ∈ s.words.names, ¬Defines line w) {w : String} {body : List Term}
    (hw : s.words.vocabulary w = some body) : a.bodies.vocabulary w = some body := by
  have ⟨p, hp, _⟩ := Option.map_eq_some_iff.mp hw
  have known : w ∈ s.words.names := Table.isSome_find?_iff.mp (by simp [hp])
  have spared : Assembler.Spares { bodies := s.words } (Text.tokens line) w :=
    ⟨new w known, nofun, nofun⟩
  have ⟨_, hf⟩ := Assembler.feed_ok_iff.mp ha.feed
  rw [← hw]
  exact congrArg (Option.map Program.terms) (spared.feedTokens hf)

-- An assembler that has taken in all lines of a session so far. Evaluation of its main part leads
-- from an empty stack to that of the session.
structure Tracks (s : Session) (b : Assembler) (k : Nat) : Prop where
  limit     : s.limit = none
  words     : s.words.WellFormed
  bodies    : b.bodies = s.words
  mode      : b.mode = .main
  finalized : b.finalized = false
  value     : Evaluates s.words.vocabulary b.main.terms [] k (.value s.stack)

namespace Tracks

variable {b : Assembler}

theorem fresh (tracing : Bool) : Tracks { tracing } {} 0 where
  limit     := rfl
  words     := .empty
  bodies    := rfl
  mode      := rfl
  finalized := rfl
  value     := .nil

theorem evaluate (h : Tracks s b k) (he : (s.evaluate bound line).2.2 = .ok r) (hr : r.isOk)
    (new : ∀ w ∈ s.words.names, ¬Defines line w) :
    ∃ b' l, b.feedTokens (Text.tokens line) = (b', .ok ()) ∧ r.steps = l + 1 ∧
      Tracks (s.evaluate bound line).1 b' (k + l) := by
  have ⟨a, image, l, ha, hs, value, hl⟩ := evaluate_ok h.limit h.words he hr
  have ⟨_, hf⟩ := Assembler.feed_ok_iff.mp ha.feed
  have ⟨ho, hm, _⟩ := Assembler.finalize_ok_iff.mp ha.finalize
  have start : Assembler.Behind b.main { bodies := s.words } b :=
    ⟨by simp, h.bodies, h.mode, h.finalized⟩
  have ⟨b', hb, behind⟩ := start.feedTokens hf
  refine ⟨b', l, hb, hl, ?_⟩
  rw [hs]
  exact {
    limit     := h.limit
    words     := (ha.wellFormed h.words).bodies
    bodies    := behind.bodies
    mode      := behind.mode.trans hm
    finalized := behind.finalized.trans ho
    value     := by
      rw [behind.main, Program.terms_append]
      exact (h.value.extend fun _ _ => vocabulary_extends ha new).append value }

theorem succeeds (h : Tracks s b k) (e : Succeeds s lines n s') :
    ∃ b' l, b.feedTokens (lines.flatMap Text.tokens) = (b', .ok ()) ∧ n = l + lines.length ∧
      Tracks s' b' (k + l) := by
  induction e generalizing b k
  case nil => exact ⟨b, 0, rfl, rfl, h⟩
  case cons evaluated ok new _ ih =>
    have ⟨b₁, l₁, hb₁, hl₁, h₁⟩ := h.evaluate evaluated ok new
    have ⟨b₂, l₂, hb₂, hl₂, h₂⟩ := ih h₁
    refine ⟨b₂, l₁ + l₂, ?feed, ?steps, Nat.add_assoc k l₁ l₂ ▸ h₂⟩
    case feed => rw [List.flatMap_cons, Assembler.feedTokens_append_ok hb₁, hb₂]
    case steps =>
      rw [hl₁, hl₂, List.length_cons]
      omega

end Tracks

end Session

-- The text has one halt where the session has one for each line.
theorem lines_run_as_text {lines : List String} {n : Nat} {s : Session} {tracing : Bool}
    (hn : lines ≠ []) (h : Session.Succeeds { tracing } lines n s) (tracing' : Bool) :
    (∃ a, Assembles .empty (String.intercalate "\n" lines) a (.layout a.main s.words) ∧
      a.bodies = s.words) ∧
    ∃ r, r.isOk ∧ r.stack = s.stack ∧ r.steps + (lines.length - 1) = n ∧
      ∀ bound, r.steps ≤ bound →
        (runSource bound (String.intercalate "\n" lines) { tracing := tracing' }).2 = .ok r := by
  have ⟨b, k, hb, hk, t⟩ := (Session.Tracks.fresh tracing).succeeds h
  have feed : Assembler.feed {} (String.intercalate "\n" lines) = (b, .ok ()) :=
    Assembler.feed_ok_iff.mpr ⟨rfl, Text.tokens_intercalate lines ▸ hb⟩
  have finalize : b.finalize.2 = .ok (.layout b.main s.words) :=
    Assembler.finalize_ok_iff.mpr ⟨t.finalized, t.mode, t.bodies ▸ rfl⟩
  have ha : Assembles .empty (String.intercalate "\n" lines) b _ := ⟨feed, finalize⟩
  have value : Evaluates b.bodies.vocabulary b.main.terms [] k (.value s.stack) := by
    simpa [t.bodies] using t.value
  have ⟨r, ok, stack, steps, run⟩ :=
    ha.runSource_of_evaluates { tracing := tracing' } rfl rfl value
  have count : r.steps + (lines.length - 1) = n := by
    have := List.length_pos_iff.mpr hn
    omega
  exact ⟨⟨b, ha, t.bodies⟩, r, ok, stack, count, run⟩

theorem Session.Succeeds.ofLine {s s' : Session} {bound k l : Nat} {line : String}
    {lines : List String}
    (hr : (s.evaluate bound line).2.2.toOption.map (fun r => (r.isOk, r.steps)) = some (true, k))
    (new : ∀ w ∈ s.words.names, ¬Defines line w)
    (h : Succeeds (s.evaluate bound line).1 lines l s') : Succeeds s (line :: lines) (k + l) s' := by
  cases he : (s.evaluate bound line).2.2 <;> rw [he] at hr
  case error => cases hr
  case ok r =>
    injection hr with hr
    injection hr with ok steps
    exact steps ▸ .cons he ok new h

def squareSession : Session :=
  (Session.evaluate 2 {} "3 : square dup * ;").1

def fourthSession : Session :=
  (squareSession.evaluate 11 ": fourth square square ; fourth").1

theorem lines_run_as_text_fourth :
    ∃ r, r.isOk ∧ r.stack = [81] ∧ r.steps = 12 ∧
      (runSource 12 "3 : square dup * ;\n: fourth square square ; fourth" {}).2 = .ok r := by
  have second : squareSession.Succeeds [": fourth square square ; fourth"] 11 fourthSession :=
    .ofLine (by decide +kernel) (by decide +kernel) .nil
  have first : Session.Succeeds {} ["3 : square dup * ;", ": fourth square square ; fourth"] 13 _ :=
    .ofLine (by decide +kernel) (by decide +kernel) second
  have ⟨_, r, ok, stack, steps, run⟩ := lines_run_as_text (by simp) first false
  have steps : r.steps = 12 := Nat.add_right_cancel steps
  have value : fourthSession.stack = [81] := by decide +kernel
  exact ⟨r, ok, stack.trans value, steps, run 12 (Nat.le_of_eq steps)⟩

end StackForth
