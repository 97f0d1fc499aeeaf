import Mathlib.Data.List.Infix
import Mathlib.Data.List.TakeWhile
import StackForth.Console.Terminal
import StackForth.Proofs.Count
import StackForth.Proofs.Reporting
import StackForth.Proofs.Streaming

namespace StackForth

namespace Text

theorem tokensAfter_append_blank (run cs : List Char) {blanks : List Char}
    (h : ∀ c ∈ blanks, isBlank c = true) : tokensAfter run (cs ++ blanks) = tokensAfter run cs := by
  cases blanks
  case nil => rw [List.append_nil]
  case cons c blanks =>
    rw [List.forall_mem_cons] at h
    have none : tokensAfter [] blanks = [] := by
      simpa [tokensAfter, closeRun] using tokensAfter_nil_append h.right []
    rw [tokensAfter_append_cons run cs blanks h.left, none, List.append_nil]

theorem tokens_trim (text : String) : tokens (trim text) = tokens text := by
  have ⟨front, back, before, behind, whole⟩ := exists_trimmed isBlank text.toList
  calc tokens (trim text)
    _ = tokensAfter [] ((text.toList.dropWhile isBlank).rdropWhile isBlank) := by
        rw [tokens, trim, String.toList_ofList, List.rdropWhile]
    _ = tokens text := by
        conv_rhs => rw [tokens, ← whole, List.append_assoc, tokensAfter_nil_append before]
        rw [tokensAfter_append_blank [] _ behind]

theorem not_blank_of_trim {text : String} {c : Char} {cs : List Char}
    (h : (trim text).toList = c :: cs) : isBlank c = false := by
  rw [trim, String.toList_ofList] at h
  generalize front : text.toList.dropWhile isBlank = ds at h
  have back : (ds.reverse.dropWhile isBlank).reverse <+: ds := List.rdropWhile_prefix isBlank ds
  obtain ⟨es, same⟩ := h ▸ back
  have first := List.head?_dropWhile_not isBlank text.toList
  rw [front, ← same] at first
  exact first

theorem tokensAfter_concat (run : List Char) (c : Char) (cs : List Char) :
    ∃ rest tokens, tokensAfter (run ++ [c]) cs = String.ofList (c :: rest) :: tokens := by
  have close (run : List Char) : closeRun (run ++ [c]) = [String.ofList (c :: run.reverse)] := by
    cases run <;> simp [closeRun]
  induction cs generalizing run
  case nil => exact ⟨run.reverse, [], close run⟩
  case cons d cs ih =>
    rw [tokensAfter]
    split
    case isTrue  => exact ⟨run.reverse, tokensAfter [] cs, by rw [close, List.singleton_append]⟩
    case isFalse => exact ih (d :: run)

theorem head?_trim (text : String) :
    (trim text).toList.head? = (tokens text).head?.bind (·.toList.head?) := by
  rw [← tokens_trim]
  cases h : (trim text).toList
  case nil => simp [tokens, h, tokensAfter, closeRun]
  case cons c cs =>
    obtain ⟨rest, later, first⟩ := tokensAfter_concat [] c cs
    rw [List.nil_append] at first
    simp [tokens, h, tokensAfter, not_blank_of_trim h, first]

end Text

namespace Console

def IsSource (line : String) : Prop :=
  Text.trim line ≠ "" ∧ (Text.trim line).toList.head? ≠ some '.'

instance (line : String) : Decidable (IsSource line) :=
  inferInstanceAs (Decidable (_ ∧ _))

inductive Action
  | evaluate (line : String)
  | reset
  | limit (limit : Option Int)
  | tracing (on : Bool)

def act (bound : Nat) (s : Session) : Action → Session
  | .evaluate line => (s.evaluate bound line).1
  | .reset         => s.reset
  | .limit limit   => { s with limit }
  | .tracing on    => { s with tracing := on }

def action? (line : String) : Option Action :=
  let tokens := Text.tokens line
  if tokens.head? = some ".reset" then some .reset
  else if tokens.head? = some ".steps" then
    (tokens[1]?.bind readCount?).map fun n => .limit (if 0 < n then some n else none)
  else if tokens.head? = some ".trace" then
    tokens[1]?.map fun word => .tracing (Text.lowerCase word ∈ ["on", "1", "yes", "true"])
  else if IsSource line then some (.evaluate line)
  else none

-- The answers to a line. There is always one, and source code that cannot be used changes nothing.
inductive Answers (bound : Nat) (s : Session) (line : String) : Session × Reply → Prop
  | blank (tokens : Text.tokens line = []) : Answers bound s line (s, {})
  | command (c : Command) (tokens : Text.tokens line = c.name :: operands) :
      Answers bound s line (c.obey s operands.head?)
  | unknown (tokens : Text.tokens line = name :: operands) (dot : name.toList.head? = some '.')
      (unknown : ∀ c : Command, c.name ≠ name) :
      Answers bound s line (s, { text := "unknown dot-cmd: " ++ name ++ "\n" })
  | report (source : IsSource line) (evaluated : s.evaluate bound line = (t, journal, .ok r)) :
      Answers bound s line (t, { text := reportText r, journal })
  | refusal (source : IsSource line) (evaluated : s.evaluate bound line = (s, journal, .error r)) :
      Answers bound s line (s, { text := refusalText r, journal })

theorem Command.mem_all (c : Command) : c ∈ all := by
  cases c <;> decide

theorem Command.ofName?_eq_some {name : String} {c : Command} (h : ofName? name = some c) :
    c.name = name := by
  simpa using List.find?_some h

theorem Command.ofName?_eq_none {name : String} (h : ofName? name = none) (c : Command) :
    c.name ≠ name := by
  simpa using List.find?_eq_none.mp h c c.mem_all

theorem evaluate_refused {bound : Nat} {s t : Session} {line : String} {journal : Journal} {r : Refusal}
    (h : s.evaluate bound line = (t, journal, .error r)) : t = s := by
  cases s.evaluate_cases bound line
  case inl same =>
    rw [h] at same
    exact same.left
  case inr ended =>
    have ⟨_, _, _, _, _, _, _, ok⟩ := ended
    rw [h] at ok
    cases ok

theorem answers (bound : Nat) (s : Session) (line : String) :
    Answers bound s line (answer bound s line) := by
  have first := Text.head?_trim line
  simp only [answer]
  split
  case h_1 empty =>
    refine .blank ?_
    rw [← Text.tokens_trim, Text.tokens, empty]
    rfl
  case h_2 dot =>
    rw [dot, List.head?_cons] at first
    obtain ⟨name, known, begins⟩ := Option.bind_eq_some_iff.mp first.symm
    obtain ⟨operands, tokens⟩ := List.head?_eq_some_iff.mp known
    simp only [Text.tokens_trim, tokens, command?]
    cases hc : Command.ofName? name
    case none   => exact .unknown tokens begins (Command.ofName?_eq_none hc)
    case some c => exact .command c (Command.ofName?_eq_some hc ▸ tokens)
  case h_3 full other =>
    have source : IsSource line := by
      refine ⟨fun empty => full (String.toList_eq_nil_iff.mpr empty), fun dot => ?_⟩
      obtain ⟨rest, begins⟩ := List.head?_eq_some_iff.mp dot
      exact other rest begins
    simp only [evaluate]
    rcases he : s.evaluate bound line with ⟨t, journal, r | report⟩
    case ok => exact .report source he
    case error =>
      cases evaluate_refused he
      exact .refusal source he

variable {bound : Nat} {s : Session} {line : String}

theorem Command.dot (c : Command) : c.name.toList.head? = some '.' := by
  cases c <;> decide

theorem isSource_iff :
    IsSource line ↔ ∃ name operands, Text.tokens line = name :: operands ∧
      name.toList.head? ≠ some '.' := by
  have empty : Text.trim line = "" ↔ (Text.trim line).toList.head? = none := by simp
  rw [IsSource, Ne, empty, Text.head?_trim]
  cases tokens : Text.tokens line
  case nil => simp
  case cons name operands =>
    have full : name ≠ "" := (Text.mem_tokens (tokens ▸ List.mem_cons_self)).left
    simp [full]

theorem action?_of_tokens {name : String} {operands : List String}
    (tokens : Text.tokens line = name :: operands) (other : ∀ c : Command, c.name ≠ name) :
    action? line = if IsSource line then some (.evaluate line) else none := by
  have reset : name ≠ ".reset" := (other .reset).symm
  have steps : name ≠ ".steps" := (other .steps).symm
  have trace : name ≠ ".trace" := (other .trace).symm
  simp [action?, tokens, reset, steps, trace]

theorem IsSource.action? (source : IsSource line) : action? line = some (.evaluate line) := by
  have ⟨name, operands, tokens, plain⟩ := isSource_iff.mp source
  rw [action?_of_tokens tokens fun c same => plain (same ▸ c.dot), if_pos source]

namespace Input

def leaves : Input → Bool
  | .line text  => (Text.tokens text).head? == some ".bye"
  | .endOfInput => true
  | _           => false

def action? : Input → Option Action
  | .line text => Console.action? text
  | _          => none

end Input

def after (bound : Nat) (s : Session) (inputs : List Input) : Session :=
  (inputs.filterMap Input.action?).foldl (act bound) s

variable {debug : Bool} {i : Input} {inputs : List Input}

namespace Driven

end Driven

end Console

end StackForth
