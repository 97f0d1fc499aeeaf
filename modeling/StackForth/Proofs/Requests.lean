import StackForth.Proofs.Streaming

namespace StackForth

inductive Request
  | feed (text : String)
  | token (token : String)
  | definitions
  | finalize
  | parse (text : String)
deriving DecidableEq

namespace Request

def token? : Request → Option String
  | .token t => some t
  | _        => none

def tokens : Request → List String
  | .feed text  => Text.tokens text
  | .token t    => [t]
  | .parse text => Text.tokens text
  | _           => []

end Request

inductive Reply
  | taken
  | words (words : Table Program)
  | image (image : Image)

namespace Assembler

def answer (a : Assembler) : Request → Assembler × Except AssemblyError Reply
  | .feed text   => ((a.feed text).1, (a.feed text).2.map fun _ => .taken)
  | .token token => ((a.feedToken token).1, (a.feedToken token).2.map fun _ => .taken)
  | .definitions => (a, a.definitions.map .words)
  | .finalize    => (a.finalize.1, a.finalize.2.map .image)
  | .parse text  => ((a.parse text).1, (a.parse text).2.map .image)

def serve (a : Assembler) : List Request → Assembler × List (Except AssemblyError Reply)
  | []            => (a, [])
  | r :: requests =>
    let (b, replies) := (a.answer r).1.serve requests
    (b, (a.answer r).2 :: replies)

-- Assemblers as they come about: with any words to begin with, then requests that are met or refused.
inductive Reached : Assembler → Prop
  | fresh (words : Table Program) : Reached { bodies := words }
  | answer (r : Request) : Reached a → Reached (a.answer r).1

def unnamed (a : Assembler) : Assembler :=
  if a.mode = .naming then { a with mode := .main } else a

def emptied (a : Assembler) : Assembler :=
  { a with main := #[], bodies := .empty, finalized := true }

variable {a b : Assembler} {token : String} {e : AssemblyError} {r : Request} {image : Image}

theorem feedToken_refused (h : a.feedToken token = (b, .error e)) :
    b = if a.finalized then a else a.unnamed := by
  simp only [feedToken] at h
  split at h
  case isTrue closed => cases h; simp [closed]
  case isFalse ho =>
    rw [if_neg ho, unnamed]
    split at h
    case h_1 hm =>
      split at h <;> cases h
      rw [if_pos hm]
    case h_2 hm =>
      rw [if_neg (by simp [hm])]
      repeat' split at h
      all_goals cases h <;> rfl
    case h_3 hm =>
      rw [if_neg (by simp [hm])]
      repeat' split at h
      all_goals cases h <;> rfl

theorem finalize_error (h : a.finalize.2 = .error e) : a.finalize.1 = a := by
  simp only [finalize] at h ⊢
  cases hf : a.finalized <;> cases hm : a.mode <;> simp_all

theorem finalize_of_ok (h : a.finalize.2 = .ok image) : a.finalize.1 = a.emptied := by
  obtain ⟨ho, hm, _⟩ := finalize_ok_iff.mp h
  simp [finalize, ho, hm, emptied]

theorem answer_of_finalized (h : a.finalized = true) (r : Request) :
    a.answer r = (a, .error (a.complain .finalized r.token?)) := by
  cases r <;>
    simp [answer, feed, feedToken, Assembler.definitions, Assembler.finalize, parse, h, Except.map,
      Request.token?]

theorem answer_eq_of_refused (hr : r = .finalize ∨ r = .definitions)
    (h : (a.answer r).2 = .error e) : a.answer r = (a, .error e) := by
  rw [← h]
  rcases hr with rfl | rfl
  case inr => rfl
  case inl =>
    simp only [answer] at h ⊢
    cases hi : a.finalize.2 <;> simp only [hi, Except.map] at h
    case error => rw [finalize_error hi]
    case ok    => cases h

-- What an assembler keeps that is given these tokens: it does not depend on positions, and holds behind
-- each token that is taken, behind a name that is refused and behind the layout of the image.
structure Keeps (P : Assembler → Prop) (tokens : List String) : Prop where
  count  : ∀ a position, P a → P { a with position }
  takes  : ∀ a token b, token ∈ tokens → a.finalized = false → P a → a.Takes token b → P b
  unname : ∀ a, P a → P a.unnamed
  empty  : ∀ a, P a → a.finalized = false → a.mode = .main → P a.emptied

namespace Keeps

variable {P : Assembler → Prop} {tokens : List String}

theorem tail (k : Keeps P (token :: tokens)) : Keeps P tokens where
  count         := k.count
  takes a t b m := k.takes a t b (List.mem_cons_of_mem _ m)
  unname        := k.unname
  empty         := k.empty

theorem feedToken (k : Keeps P tokens) (m : token ∈ tokens) (h : P a) :
    P (a.feedToken token).1 := by
  rcases ht : a.feedToken token with ⟨b, _ | _⟩
  case ok =>
    have ⟨ho, taken⟩ := feedToken_ok_iff.mp ht
    exact k.takes a token b m ho h taken
  case error =>
    rw [feedToken_refused ht]
    split
    case isTrue  => exact h
    case isFalse => exact k.unname a h

theorem feedTokens (k : Keeps P tokens) (h : P a) : P (a.feedTokens tokens).1 := by
  induction tokens generalizing a
  case nil => exact h
  case cons token tokens ih =>
    have next := k.feedToken List.mem_cons_self h
    simp only [Assembler.feedTokens]
    rcases ht : a.feedToken token with ⟨b, _ | _⟩ <;> rw [ht] at next
    case error => exact next
    case ok    => exact ih k.tail (k.count b _ next)

theorem feed {text : String} (k : Keeps P (Text.tokens text)) (h : P a) : P (a.feed text).1 := by
  simp only [Assembler.feed]
  split
  case isTrue  => exact h
  case isFalse => exact k.feedTokens h

theorem finalize (k : Keeps P tokens) (h : P a) : P a.finalize.1 := by
  cases hi : a.finalize.2
  case error => rwa [finalize_error hi]
  case ok =>
    have ⟨ho, hm, _⟩ := finalize_ok_iff.mp hi
    rw [finalize_of_ok hi]
    exact k.empty a h ho hm

theorem answer (k : Keeps P r.tokens) (h : P a) : P (a.answer r).1 := by
  cases r
  case feed        => exact k.feed h
  case token       => exact k.feedToken List.mem_cons_self h
  case definitions => exact h
  case finalize    => exact k.finalize h
  case parse text =>
    have fed := k.feed h
    simp only [Assembler.answer, parse]
    rcases ht : a.feed text with ⟨b, _ | _⟩ <;> rw [ht] at fed
    case error => exact fed
    case ok    => exact k.finalize fed

end Keeps

theorem mode_eq_main_kept (tokens : List String) :
    Keeps (fun a => a.finalized = true → a.mode = .main) tokens where
  count _ _ main     := main
  empty _ _ _ main _ := main
  unname a main closed := by
    simp only [unnamed] at closed ⊢
    split
    case isTrue        => rfl
    case isFalse other => exact main (by simpa [other] using closed)
  takes a token b _ ho _ taken closed := by
    cases (taken.finalized_eq.trans ho).symm.trans closed

theorem Reached.mode_eq_main (h : a.Reached) : a.finalized = true → a.mode = .main := by
  induction h
  case fresh => nofun
  case answer r _ ih => exact Keeps.answer (mode_eq_main_kept r.tokens) ih

theorem Reached.feedToken_refused (h : a.Reached) (refused : a.feedToken token = (b, .error e)) :
    b = a.unnamed := by
  rw [Assembler.feedToken_refused refused]
  split
  case isFalse => rfl
  case isTrue closed => rw [unnamed, if_neg (by simp [h.mode_eq_main closed])]

theorem feed_refused {text : String} (refused : a.feed text = (b, .error e)) :
    (a.finalized = true ∧ b = a) ∨
    ∃ front token back c, Text.tokens text = front ++ token :: back ∧
      a.feedTokens front = (c, .ok ()) ∧ c.feedToken token = (b, .error e) ∧ b = c.unnamed := by
  cases hf : a.finalized
  case true =>
    simp only [feed, hf, if_true] at refused
    cases refused
    exact .inl ⟨rfl, rfl⟩
  case false =>
    rw [feed_open hf] at refused
    obtain ⟨front, token, back, c, split, taken, stop⟩ := feedTokens_error refused
    refine .inr ⟨front, token, back, c, split, taken, stop, ?_⟩
    have more : c.finalized = false := (feedTokens_finalized taken).trans hf
    simpa [more] using feedToken_refused stop

theorem serve_cons_of_refused (h : a.answer r = (a, .error e)) (requests : List Request) :
    a.serve (r :: requests) = ((a.serve requests).1, .error e :: (a.serve requests).2) := by
  simp [serve, h]

theorem serve_of_finalized (h : a.finalized = true) (requests : List Request) :
    a.serve requests = (a, requests.map fun r => .error (a.complain .finalized r.token?)) := by
  induction requests
  case nil => rfl
  case cons r requests ih => simp [serve, answer_of_finalized h, ih]

theorem serve_closing {name : String} {body : Program} (ho : a.finalized = false)
    (hm : a.mode = .defining name body) :
    (a.serve [.finalize, .feed ";", .finalize]).2 =
      [.error (a.complain (.openDefinition name) name), .ok .taken,
        .ok (.image (.layout a.main (a.bodies.define name (body.push .ret))))] := by
  have refused : a.answer .finalize = (a, .error (a.complain (.openDefinition name) name)) := by
    simp [answer, Assembler.finalize, ho, hm, Except.map]
  have token : Text.tokens ";" = [";"] := rfl
  have closed : a.feed ";" = ({ a.define name body with position := a.position + 1 }, .ok ()) := by
    simp [feed_open ho, token, feedTokens, feedToken, ho, hm, define]
  rw [serve_cons_of_refused refused]
  simp [serve, answer, closed, Assembler.finalize, define, ho, Except.map]

end Assembler

-- A token that is refused changes nothing, except that it takes back the colon in front of it. A text
-- that is refused has been taken up to such a token. If the image or the words are refused, the request
-- might as well not have been made. If the image is given, everything else is refused from then on.
theorem refused_requests_leave_no_trace {a : Assembler} (h : a.Reached) :
    (∀ token b e, a.feedToken token = (b, .error e) → b = a.unnamed) ∧
    (∀ text b e, a.feed text = (b, .error e) →
      (a.finalized = true ∧ b = a) ∨
      ∃ front token back c, Text.tokens text = front ++ token :: back ∧
        a.feedTokens front = (c, .ok ()) ∧ c.feedToken token = (b, .error e) ∧ b = c.unnamed) ∧
    (∀ r e, r = .finalize ∨ r = .definitions → (a.answer r).2 = .error e →
      (a.answer r).1 = a ∧ ∀ requests,
        a.serve (r :: requests) = ((a.serve requests).1, .error e :: (a.serve requests).2)) ∧
    (∀ name body, a.mode = .defining name body →
      (a.serve [.finalize, .feed ";", .finalize]).2 =
        [.error (a.complain (.openDefinition name) name), .ok .taken,
          .ok (.image (.layout a.main (a.bodies.define name (body.push .ret))))]) ∧
    ∀ image, a.finalize.2 = .ok image → ∀ requests,
      a.finalize.1.serve requests =
        (a.finalize.1, requests.map fun r => .error (a.finalize.1.complain .finalized r.token?)) := by
  refine ⟨fun _ _ _ => h.feedToken_refused, fun _ _ _ => Assembler.feed_refused, ?_, ?_, ?_⟩
  · intro r e hr refused
    have same := Assembler.answer_eq_of_refused hr refused
    exact ⟨congrArg Prod.fst same, Assembler.serve_cons_of_refused same⟩
  · intro name body hm
    refine Assembler.serve_closing (Bool.eq_false_iff.mpr fun closed => ?_) hm
    cases (h.mode_eq_main closed).symm.trans hm
  · intro image hi requests
    exact Assembler.serve_of_finalized (by rw [Assembler.finalize_of_ok hi]; rfl) requests

def colon : Assembler where
  mode     := .naming
  position := 1

theorem colon_reached : colon.Reached :=
  .answer (.feed ":") (.fresh .empty)

theorem halfway_reached : halfway.Reached :=
  .answer (.feed ": sq dup") (.fresh .empty)

theorem refused_requests_leave_no_trace_colon :
    (colon.feedToken "dup").2 = .error (.parse ⟨.primitiveName "dup", some "dup", 1⟩) ∧
    (colon.feedToken "dup").1 = { position := 1 } ∧
    (halfway.serve [.finalize, .feed ";", .finalize]).2 =
      [.error (.parse ⟨.openDefinition "sq", some "sq", 3⟩), .ok .taken,
        .ok (.image (.layout #[] (Table.empty.define "sq" #[.prim .dup, .ret])))] ∧
    ∃ front token back c, Text.tokens "* : 2" = front ++ token :: back ∧
      halfway.feedTokens front = (c, .ok ()) ∧ (halfway.feed "* : 2").1 = c.unnamed := by
  have ⟨refused, _⟩ := refused_requests_leave_no_trace colon_reached
  have ⟨_, fed, _, closing, _⟩ := refused_requests_leave_no_trace halfway_reached
  refine ⟨rfl, refused "dup" _ _ rfl, closing "sq" #[.prim .dup] rfl, ?_⟩
  cases fed "* : 2" _ _ rfl
  case inl closed => cases closed.left
  case inr stop =>
    obtain ⟨front, token, back, c, split, taken, _, same⟩ := stop
    exact ⟨front, token, back, c, split, taken, same⟩

end StackForth
