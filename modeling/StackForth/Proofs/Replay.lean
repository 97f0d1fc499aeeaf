import StackForth.Proofs.Session

namespace StackForth

namespace Assembler

def feedAll (a : Assembler) : List String → Assembler × Except AssemblyError Unit
  | []            => (a, .ok ())
  | text :: texts =>
    match a.feed text with
    | (a, .ok ())   => a.feedAll texts
    | (a, .error e) => (a, .error e)

theorem feedAll_cons_ok {a b : Assembler} {text : String} (h : a.feed text = (b, .ok ()))
    (texts : List String) : a.feedAll (text :: texts) = b.feedAll texts := by
  simp [feedAll, h]

structure Ready (a : Assembler) (words : Table Program) : Prop where
  bodies    : a.bodies = words
  mode      : a.mode = .main
  finalized : a.finalized = false

namespace Ready

variable {a : Assembler} {words : Table Program} {line : String} {image : Image}

theorem definitions (h : a.Ready words) : a.definitions = .ok words := by
  simp [Assembler.definitions, h.finalized, h.bodies]

theorem feed {b : Assembler} (h : a.Ready words) (hb : Assembles words line b image) :
    ∃ a', a.feed line = (a', .ok ()) ∧ a'.Ready b.bodies := by
  have ⟨_, hf⟩     := feed_ok_iff.mp hb.feed
  have ⟨ho, hm, _⟩ := finalize_ok_iff.mp hb.finalize
  have start : Behind a.main { bodies := words } a := ⟨by simp, h.bodies, h.mode, h.finalized⟩
  have ⟨a', ha, behind⟩ := start.feedTokens hf
  exact ⟨a', feed_ok_iff.mpr ⟨h.finalized, ha⟩,
    behind.bodies, behind.mode.trans hm, behind.finalized.trans ho⟩

end Ready

end Assembler

def endsWell : Except Refusal Report → Bool
  | .ok report => report.isOk
  | .error _   => false

structure Call where
  line  : String
  bound : Nat
deriving DecidableEq

namespace Session

def after (s : Session) (call : Call) : Session :=
  (s.evaluate call.bound call.line).1

def answer (s : Session) (call : Call) : Except Refusal Report :=
  (s.evaluate call.bound call.line).2.2

def evaluateAll (s : Session) : List Call → Session × List (Except Refusal Report)
  | []            => (s, [])
  | call :: calls =>
    let (s', answers) := (s.after call).evaluateAll calls
    (s', s.answer call :: answers)

def kept (s : Session) (calls : List Call) : List Call :=
  ((calls.zip (s.evaluateAll calls).2).filter (endsWell ·.2)).map Prod.fst

-- A call that ends well goes on from the words of its assembler, any other from where it began.
inductive Called (s : Session) (call : Call) : Prop
  | failed (answer : endsWell (s.answer call) = false) (after : s.after call = s)
  | ended (answer : endsWell (s.answer call) = true)
      (assembles : Assembles s.words call.line a image) (words : (s.after call).words = a.bodies)

theorem called (s : Session) (call : Call) : s.Called call := by
  cases s.evaluate_cases call.bound call.line
  case inl h =>
    refine .failed ?_ h.left
    cases ha : s.answer call
    case error => rfl
    case ok r  => exact h.right r ha
  case inr h =>
    have ⟨a, image, r, assembles, _, ok, hs, answer⟩ := h
    have answer : s.answer call = .ok r := answer
    have words : (s.after call).words = a.bodies := congrArg Session.words hs
    exact .ended (answer ▸ ok) assembles words

variable {s : Session} {call : Call}

theorem kept_cons_of_failed (h : endsWell (s.answer call) = false) (calls : List Call) :
    s.kept (call :: calls) = (s.after call).kept calls := by
  simp [kept, evaluateAll, h]

theorem kept_cons_of_ended (h : endsWell (s.answer call) = true) (calls : List Call) :
    s.kept (call :: calls) = call :: (s.after call).kept calls := by
  simp [kept, evaluateAll, h]

theorem evaluateAll_kept (s : Session) (calls : List Call) :
    s.evaluateAll (s.kept calls) =
      ((s.evaluateAll calls).1, (s.evaluateAll calls).2.filter endsWell) := by
  induction calls generalizing s
  case nil => rfl
  case cons call calls ih =>
    cases s.called call
    case failed answer after =>
      -- The remaining calls are made on the same session whether this one is made or not.
      rw [kept_cons_of_failed answer, after, ih]
      simp [evaluateAll, answer, after]
    case ended answer _ _ =>
      rw [kept_cons_of_ended answer]
      simp [evaluateAll, answer, ih]

theorem exists_feedAll_kept {a : Assembler} (h : a.Ready s.words) (calls : List Call) :
    ∃ a', a.feedAll ((s.kept calls).map Call.line) = (a', .ok ()) ∧
      a'.Ready (s.evaluateAll calls).1.words := by
  induction calls generalizing s a
  case nil => exact ⟨a, rfl, h⟩
  case cons call calls ih =>
    cases s.called call
    case failed answer after =>
      rw [kept_cons_of_failed answer]
      exact ih (after.symm ▸ h)
    case ended answer assembles words =>
      have ⟨a₁, fed, ready⟩ := h.feed assembles
      rw [kept_cons_of_ended answer, List.map_cons, Assembler.feedAll_cons_ok fed]
      exact ih (words ▸ ready)

end Session

-- The words of a session say nothing of the lines that failed, not even by their order.
theorem failed_lines_leave_no_trace :
    (∀ (s : Session) (calls : List Call),
      s.evaluateAll (s.kept calls) =
        ((s.evaluateAll calls).1, (s.evaluateAll calls).2.filter endsWell)) ∧
    ∀ (limit : Option Int) (tracing : Bool) (calls : List Call),
      ∃ a, Assembler.feedAll {} ((Session.kept { limit, tracing } calls).map Call.line) =
          (a, .ok ()) ∧
        a.definitions = .ok (Session.evaluateAll { limit, tracing } calls).1.words := by
  refine ⟨Session.evaluateAll_kept, fun limit tracing calls => ?_⟩
  have fresh : Assembler.Ready {} (Session.words { limit, tracing }) := ⟨rfl, rfl, rfl⟩
  have ⟨a, fed, ready⟩ := Session.exists_feedAll_kept fresh calls
  exact ⟨a, fed, ready.definitions⟩

-- The second line redefines a word, and then takes one cell too many.
def stumbling : List Call :=
  [⟨": one 1 ; : two one one + ;", 1⟩, ⟨": one 3 ; two drop drop", 11⟩, ⟨"two", 10⟩]

theorem kept_stumbling :
    Session.kept {} stumbling = [⟨": one 1 ; : two one one + ;", 1⟩, ⟨"two", 10⟩] := by
  decide +kernel

theorem failed_lines_leave_no_trace_stumbling :
    (Session.evaluateAll {} [⟨": one 1 ; : two one one + ;", 1⟩, ⟨"two", 10⟩]).1 =
      (Session.evaluateAll {} stumbling).1 ∧
    (Session.evaluateAll {} stumbling).1.stack = [2] ∧
    ∃ a, Assembler.feedAll {} [": one 1 ; : two one one + ;", "two"] = (a, .ok ()) ∧
      a.definitions = .ok (Session.evaluateAll {} stumbling).1.words := by
  have ⟨replay, words⟩ := failed_lines_leave_no_trace
  have answers := replay {} stumbling
  have fed := words none false stumbling
  rw [kept_stumbling] at answers fed
  refine ⟨?_, ?_, fed⟩
  · rw [answers]
  · decide +kernel

end StackForth
