import StackForth.Proofs.Coherence
import StackForth.Proofs.Replay

namespace StackForth

namespace Text

-- Something to put between two texts: one or more blanks.
structure IsGap (w : String) : Prop where
  nonempty : w ≠ ""
  blank    : ∀ c ∈ w.toList, isBlank c = true

theorem tokensAfter_nil_append {blanks : List Char} (h : ∀ c ∈ blanks, isBlank c = true)
    (cs : List Char) : tokensAfter [] (blanks ++ cs) = tokensAfter [] cs := by
  induction blanks
  case nil => rfl
  case cons c blanks ih =>
    simp only [List.forall_mem_cons] at h
    simp [tokensAfter, closeRun, h.left, ih h.right]

theorem IsGap.tokens_append {w : String} (h : IsGap w) (s t : String) :
    tokens (s ++ w ++ t) = tokens s ++ tokens t := by
  obtain ⟨c, blanks, hw⟩ := List.exists_cons_of_ne_nil (mt String.toList_eq_nil_iff.mp h.nonempty)
  have blank := h.blank
  simp only [hw, List.forall_mem_cons] at blank
  simp only [tokens, String.toList_append, hw, List.append_assoc, List.cons_append]
  rw [tokensAfter_append_cons [] s.toList _ blank.left, tokensAfter_nil_append blank.right]

end Text

def AssemblyError.movedTo (position : Nat) : AssemblyError → AssemblyError
  | .parse e   => .parse { e with position }
  | .refused r => .refused r

namespace Assembler

variable {a b : Assembler} {tokens : List String} {e : AssemblyError}

theorem feedTokens_append_error (h : a.feedTokens tokens = (b, .error e)) (rest : List String) :
    a.feedTokens (tokens ++ rest) = (b, .error e) := by
  induction tokens generalizing a
  case nil => cases h
  case cons token tokens ih =>
    simp only [List.cons_append, feedTokens] at h ⊢
    rcases ht : a.feedToken token with ⟨c, _ | _⟩ <;> simp only [ht] at h ⊢
    case error => exact h
    case ok    => exact ih h

theorem feedTokens_error (h : a.feedTokens tokens = (b, .error e)) :
    ∃ front token back c, tokens = front ++ token :: back ∧ a.feedTokens front = (c, .ok ()) ∧
      c.feedToken token = (b, .error e) := by
  induction tokens generalizing a
  case nil => cases h
  case cons token tokens ih =>
    simp only [feedTokens] at h
    rcases ht : a.feedToken token with ⟨c, _ | _⟩ <;> simp only [ht] at h
    case error =>
      cases h
      exact ⟨[], token, tokens, a, rfl, rfl, ht⟩
    case ok =>
      obtain ⟨front, refused, back, d, split, taken, stop⟩ := ih h
      refine ⟨token :: front, refused, back, d, by rw [split]; rfl, ?_, stop⟩
      exact feedTokens_cons_ok_iff.mpr ⟨c, ht, taken⟩

theorem feedTokens_finalized (h : a.feedTokens tokens = (b, .ok ())) : b.finalized = a.finalized := by
  refine feedTokens_invariant (P := fun c => c.finalized = a.finalized) ?_ ?_ rfl h
  · exact fun _ _ same => same
  · exact fun _ _ _ _ same takes => takes.finalized_eq.trans same

theorem feed_open (h : a.finalized = false) (text : String) :
    a.feed text = a.feedTokens (Text.tokens text) := by
  simp [feed, h]

theorem feedAll_pair (h : a.finalized = false) {w : String} (gap : Text.IsGap w) (s t : String) :
    a.feedAll [s, t] = a.feed (s ++ w ++ t) := by
  rw [feed_open h, gap.tokens_append]
  simp only [feedAll, feed_open h]
  rcases hs : a.feedTokens (Text.tokens s) with ⟨b, e | _⟩
  case error => exact (feedTokens_append_error hs _).symm
  case ok =>
    have more : b.finalized = false := (feedTokens_finalized hs).trans h
    simp only [feedTokens_append_ok hs, feed_open more]
    rcases b.feedTokens (Text.tokens t) with ⟨c, _ | _⟩ <;> rfl

def feedEach (a : Assembler) : List String → Assembler × Except AssemblyError Unit
  | []            => (a, .ok ())
  | token :: rest =>
    match a.feedToken token with
    | (a, .ok ())   => a.feedEach rest
    | (a, .error e) => (a, .error e)

theorem item_position (a : Assembler) (position : Nat) (token : String) :
    { a with position }.item token = (a.item token).mapError (·.movedTo position) := by
  simp only [item]
  cases Literal.read token
  case cell       => rfl
  case tooLong    => rfl
  case outOfRange => rfl
  case notNumeral =>
    cases Primitive.ofWord? token
    case some => rfl
    case none => by_cases h : token = "" <;> simp [h, Except.mapError, AssemblyError.movedTo]

-- Errors tell the position. It has no other use.
theorem feedToken_position (a : Assembler) (position : Nat) (token : String) :
    { a with position }.feedToken token =
      ({ (a.feedToken token).1 with position },
        (a.feedToken token).2.mapError (·.movedTo position)) := by
  simp only [feedToken, item_position]
  cases hf : a.finalized
  case true  => simp [hf, complain, AssemblyError.movedTo, Except.mapError]
  case false =>
    cases hm : a.mode
    case naming => cases nameComplaint? token <;> rfl
    case main =>
      by_cases hc : token = ":"
      case pos => simp [hc, Except.mapError]
      case neg =>
        by_cases hs : token = ";"
        case pos => simp [hs, hf, hm, complain, AssemblyError.movedTo, Except.mapError]
        case neg => cases a.item token <;> simp [hc, hs, hf, hm, Except.mapError]
    case defining name body =>
      by_cases hc : token = ":"
      case pos => simp [hc, hf, hm, complain, AssemblyError.movedTo, Except.mapError]
      case neg =>
        by_cases hs : token = ";"
        case pos => simp [hs, hf, define, Except.mapError]
        case neg => cases a.item token <;> simp [hc, hs, hf, hm, Except.mapError]

theorem feedEach_position (a : Assembler) (position : Nat) (tokens : List String) :
    { a with position }.feedEach tokens =
      ({ (a.feedTokens tokens).1 with position },
        (a.feedTokens tokens).2.mapError (·.movedTo position)) := by
  induction tokens generalizing a
  case nil => rfl
  case cons token tokens ih =>
    simp only [feedEach, feedTokens, feedToken_position]
    rcases a.feedToken token with ⟨b, _ | _⟩
    case error => rfl
    case ok    => exact ih { b with position := b.position + 1 }

theorem feedEach_eq (a : Assembler) (tokens : List String) :
    a.feedEach tokens =
      ({ (a.feedTokens tokens).1 with position := a.position },
        (a.feedTokens tokens).2.mapError (·.movedTo a.position)) :=
  feedEach_position a a.position tokens

end Assembler

-- A text may be cut wherever there are blanks. Tokens that come one by one are taken or refused as in
-- the text, with the errors that the text has, except that all are found at the same position.
theorem parts_are_fed_as_whole {a : Assembler} {w : String} (h : a.finalized = false)
    (gap : Text.IsGap w) (s t : String) :
    a.feedAll [s, t] = a.feed (s ++ w ++ t) ∧
    a.feedEach (Text.tokens s) =
      ({ (a.feed s).1 with position := a.position },
        (a.feed s).2.mapError (·.movedTo a.position)) ∧
    ∀ b e, a.feed s = (b, .error e) → ∃ front token back c,
      Text.tokens s = front ++ token :: back ∧
      a.feedTokens front = (c, .ok ()) ∧ c.feedToken token = (b, .error e) ∧
      a.feedEach front = ({ c with position := a.position }, .ok ()) ∧
      { c with position := a.position }.feedToken token =
        ({ b with position := a.position }, .error (e.movedTo a.position)) := by
  refine ⟨Assembler.feedAll_pair h gap s t, ?_, fun b e refused => ?_⟩
  · rw [Assembler.feed_open h, Assembler.feedEach_eq]
  · rw [Assembler.feed_open h] at refused
    obtain ⟨front, token, back, c, split, taken, stop⟩ := Assembler.feedTokens_error refused
    refine ⟨front, token, back, c, split, taken, stop, ?_, ?_⟩
    · rw [Assembler.feedEach_eq, taken]
      rfl
    · rw [Assembler.feedToken_position, stop]
      rfl

def halfway : Assembler where
  mode     := .defining "sq" #[.prim .dup]
  position := 3

theorem gap_wide : Text.IsGap "\u3000\n" where
  nonempty := by decide
  blank    := List.all_eq_true.mp rfl

theorem parts_are_fed_as_whole_halfway :
    (halfway.feed "* ; 4\u3000\nsq ;").2 = .error (.parse ⟨.strayEnd, some ";", 7⟩) ∧
    (halfway.feedAll ["* ; 4", "sq ;"]).2 = .error (.parse ⟨.strayEnd, some ";", 7⟩) ∧
    (halfway.feed "* : 4").2 = .error (.parse ⟨.nestedDefinition "sq", some ":", 4⟩) ∧
    (halfway.feedEach ["*", ":", "4"]).2 =
      .error (.parse ⟨.nestedDefinition "sq", some ":", 3⟩) := by
  have ⟨whole, _⟩ := parts_are_fed_as_whole (a := halfway) rfl gap_wide "* ; 4" "sq ;"
  have ⟨_, each, _⟩ := parts_are_fed_as_whole (a := halfway) rfl gap_wide "* : 4" ""
  have late : (halfway.feed "* ; 4\u3000\nsq ;").2 = .error (.parse ⟨.strayEnd, some ";", 7⟩) := rfl
  have nested : (halfway.feed "* : 4").2 =
      .error (.parse ⟨.nestedDefinition "sq", some ":", 4⟩) := rfl
  refine ⟨late, (congrArg Prod.snd whole).trans late, nested, (congrArg Prod.snd each).trans ?_⟩
  rw [nested]
  rfl

end StackForth
