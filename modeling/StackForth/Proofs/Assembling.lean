import StackForth.Proofs.Term

namespace StackForth.Assembler

theorem item_ok_iff {a : Assembler} {token : String} {i : Instruction} :
    a.item token = .ok i ↔ ∃ t, Term.ofToken? token = some t ∧ i = t.instruction := by
  simp only [item, Term.ofToken?]
  cases Literal.read token
  case cell v     => simp [Term.instruction, eq_comm]
  case tooLong    => simp
  case outOfRange => simp
  case notNumeral =>
    cases Primitive.ofWord? token
    case some p => simp [Term.instruction, eq_comm]
    case none =>
      by_cases h : token = ""
      case pos => simp [h]
      case neg => simp [h, Term.instruction, eq_comm]

inductive Takes (a : Assembler) : String → Assembler → Prop
  | colon (hm : a.mode = .main) : Takes a ":" { a with mode := .naming }
  | name (hm : a.mode = .naming) (hn : nameComplaint? token = none) :
      Takes a token { a with mode := .defining token #[] }
  | outer (hm : a.mode = .main) (hc : token ≠ ":") (hs : token ≠ ";")
      (ht : Term.ofToken? token = some t) :
      Takes a token { a with main := a.main.push t.instruction }
  | inner (hm : a.mode = .defining name body) (hc : token ≠ ":") (hs : token ≠ ";")
      (ht : Term.ofToken? token = some t) :
      Takes a token { a with mode := .defining name (body.push t.instruction) }
  | semicolon (hm : a.mode = .defining name body) : Takes a ";" (a.define name body)

variable {a b c : Assembler} {token : String} {tokens : List String}

theorem Takes.of_feedToken (h : a.feedToken token = (b, .ok ())) :
    a.finalized = false ∧ a.Takes token b := by
  simp only [feedToken] at h
  split at h
  case isTrue => simp at h
  case isFalse ho =>
    refine ⟨Bool.eq_false_iff.mpr ho, ?_⟩
    split at h
    case h_1 hm =>
      split at h <;> simp at h
      case h_2 hn => exact h ▸ .name hm hn
    case h_2 hm =>
      split at h
      case isTrue ht =>
        simp at h
        exact h ▸ ht ▸ .colon hm
      case isFalse hc =>
        split at h
        case isTrue => simp at h
        case isFalse hs =>
          split at h <;> simp at h
          case h_1 hi =>
            have ⟨t, ht, hi⟩ := item_ok_iff.mp hi
            exact h ▸ hi ▸ .outer hm hc hs ht
    case h_3 name body hm =>
      split at h
      case isTrue => simp at h
      case isFalse hc =>
        split at h
        case isTrue ht =>
          simp at h
          exact h ▸ ht ▸ .semicolon hm
        case isFalse hs =>
          split at h <;> simp at h
          case h_1 hi =>
            have ⟨t, ht, hi⟩ := item_ok_iff.mp hi
            exact h ▸ hi ▸ .inner hm hc hs ht

theorem Takes.feedToken (ho : a.finalized = false) (h : a.Takes token b) :
    a.feedToken token = (b, .ok ()) := by
  cases h
  case colon hm     => simp [Assembler.feedToken, ho, hm]
  case name hm hn   => simp [Assembler.feedToken, ho, hm, hn]
  case semicolon hm => simp [Assembler.feedToken, ho, hm]
  case outer hm hc hs ht =>
    simp [Assembler.feedToken, ho, hm, hc, hs, a.item_ok_iff.mpr ⟨_, ht, rfl⟩]
  case inner hm hc hs ht =>
    simp [Assembler.feedToken, ho, hm, hc, hs, a.item_ok_iff.mpr ⟨_, ht, rfl⟩]

theorem Takes.position_eq (h : a.Takes token b) : b.position = a.position := by
  cases h <;> rfl

theorem Takes.finalized_eq (h : a.Takes token b) : b.finalized = a.finalized := by
  cases h <;> rfl

theorem feedToken_ok_iff :
    a.feedToken token = (b, .ok ()) ↔ a.finalized = false ∧ a.Takes token b where
  mp h  := Takes.of_feedToken h
  mpr h := h.right.feedToken h.left

-- A token that is refused takes back the colon in front of it, and changes nothing else.
theorem feedToken_error {e : AssemblyError} (h : a.feedToken token = (b, .error e)) :
    b = a ∨ b = { a with mode := .main } := by
  simp only [feedToken] at h
  repeat' split at h
  all_goals cases h
  all_goals simp

theorem feedTokens_cons_ok_iff :
    a.feedTokens (token :: tokens) = (c, .ok ()) ↔
    ∃ b, a.feedToken token = (b, .ok ()) ∧
      { b with position := b.position + 1 }.feedTokens tokens = (c, .ok ()) := by
  simp only [feedTokens]
  rcases a.feedToken token with ⟨b, _ | _⟩ <;> simp

theorem feedTokens_append_ok (h : a.feedTokens tokens = (b, .ok ())) (rest : List String) :
    a.feedTokens (tokens ++ rest) = b.feedTokens rest := by
  induction tokens generalizing a
  case nil => simp_all [feedTokens]
  case cons token tokens ih =>
    have ⟨_, ht, h⟩ := feedTokens_cons_ok_iff.mp h
    simp only [List.cons_append, feedTokens, ht, ih h]

theorem feed_ok_iff {text : String} :
    a.feed text = (b, .ok ()) ↔
    a.finalized = false ∧ a.feedTokens (Text.tokens text) = (b, .ok ()) := by
  simp only [feed]
  cases a.finalized <;> simp

-- What has been assembled can be laid out: the main part and the body that is still open hold terms
-- only, and the finished bodies are well-formed.
structure WellFormed (a : Assembler) : Prop where
  main   : a.main.Plain
  bodies : a.bodies.WellFormed
  name   : ∀ name body, a.mode = .defining name body → name ≠ ""
  body   : ∀ name body, a.mode = .defining name body → body.Plain

namespace WellFormed

theorem ofWords {words : Table Program} (h : words.WellFormed) :
    WellFormed { bodies := words } where
  main   := Program.plain_empty
  bodies := h
  name   := nofun
  body   := nofun

theorem setMode (h : a.WellFormed) {mode : Mode}
    (hm : ∀ name body, mode = .defining name body → name ≠ "" ∧ body.Plain) :
    WellFormed { a with mode } where
  main        := h.main
  bodies      := h.bodies
  name _ _ he := hm _ _ he |>.left
  body _ _ he := hm _ _ he |>.right

theorem takes (h : a.WellFormed) (hn : token ≠ "") (ht : a.Takes token b) : b.WellFormed := by
  cases ht
  case colon => exact h.setMode nofun
  case name =>
    refine h.setMode fun name body he => ?_
    injection he with hname hbody
    exact ⟨hname ▸ hn, hbody ▸ Program.plain_empty⟩
  case outer t _ _ _ _ => exact ⟨h.main.push t, h.bodies, h.name, h.body⟩
  case inner name body t hm _ _ _ =>
    refine h.setMode fun name' body' he => ?_
    injection he with hname hbody
    exact ⟨hname ▸ h.name _ _ hm, hbody ▸ (h.body _ _ hm).push t⟩
  case semicolon name body hm =>
    exact ⟨h.main, h.bodies.define (h.name _ _ hm) (h.body _ _ hm).isBody, nofun, nofun⟩

theorem feedToken (h : a.WellFormed) (hn : token ≠ "") : (a.feedToken token).1.WellFormed := by
  rcases ht : a.feedToken token with ⟨b, e | _⟩
  case ok => exact h.takes hn (feedToken_ok_iff.mp ht).right
  case error =>
    cases feedToken_error ht
    case inl hb => exact hb ▸ h
    case inr hb => exact hb ▸ h.setMode nofun

theorem feedTokens (h : a.WellFormed) (hn : ∀ token ∈ tokens, token ≠ "") :
    (a.feedTokens tokens).1.WellFormed := by
  induction tokens generalizing a
  case nil => exact h
  case cons token tokens ih =>
    simp only [List.forall_mem_cons] at hn
    have hb := h.feedToken hn.left
    simp only [Assembler.feedTokens]
    rcases ht : a.feedToken token with ⟨b, _ | _⟩ <;> rw [ht] at hb
    case error => exact hb
    case ok    => exact ih ⟨hb.main, hb.bodies, hb.name, hb.body⟩ hn.right

theorem feed (h : a.WellFormed) (text : String) : (a.feed text).1.WellFormed := by
  simp only [Assembler.feed]
  split
  case isTrue  => exact h
  case isFalse => exact h.feedTokens fun _ ht => Text.mem_tokens ht |>.left

end WellFormed

theorem finalize_ok_iff {image : Image} :
    a.finalize.2 = .ok image ↔
    a.finalized = false ∧ a.mode = .main ∧ image = .layout a.main a.bodies := by
  simp only [finalize]
  cases a.finalized <;> cases a.mode <;> simp [eq_comm]

-- Two assemblers in the same place, except that the second one has more in front of its main part.
structure Behind (front : Program) (a b : Assembler) : Prop where
  main      : b.main = front ++ a.main
  bodies    : b.bodies = a.bodies
  mode      : b.mode = a.mode
  finalized : b.finalized = a.finalized

namespace Behind

variable {front : Program} {a' : Assembler}

theorem takes (h : Behind front a b) (ht : a.Takes token a') :
    ∃ b', b.Takes token b' ∧ Behind front a' b' := by
  cases ht
  case colon hm =>
    exact ⟨_, .colon (h.mode.trans hm), h.main, h.bodies, rfl, h.finalized⟩
  case name hm hn =>
    exact ⟨_, .name (h.mode.trans hm) hn, h.main, h.bodies, rfl, h.finalized⟩
  case outer hm hc hs ht =>
    refine ⟨_, .outer (h.mode.trans hm) hc hs ht, ?_, h.bodies, h.mode, h.finalized⟩
    simp only [h.main, Array.append_push]
  case inner hm hc hs ht =>
    exact ⟨_, .inner (h.mode.trans hm) hc hs ht, h.main, h.bodies, rfl, h.finalized⟩
  case semicolon name body hm =>
    refine ⟨_, .semicolon (h.mode.trans hm), h.main, ?_, rfl, h.finalized⟩
    simp only [define, h.bodies]

theorem feedTokens (h : Behind front a b) (ha : a.feedTokens tokens = (a', .ok ())) :
    ∃ b', b.feedTokens tokens = (b', .ok ()) ∧ Behind front a' b' := by
  induction tokens generalizing a b
  case nil =>
    cases ha
    exact ⟨b, rfl, h⟩
  case cons token tokens ih =>
    have ⟨a₁, ha₁, ha⟩ := feedTokens_cons_ok_iff.mp ha
    have ⟨ho, ht⟩ := feedToken_ok_iff.mp ha₁
    have ⟨b₁, ht', h'⟩ := h.takes ht
    have hb₁ := feedToken_ok_iff.mpr ⟨h.finalized.trans ho, ht'⟩
    have ⟨b', hb, h'⟩ := @ih { a₁ with position := a₁.position + 1 }
      { b₁ with position := b₁.position + 1 } ⟨h'.main, h'.bodies, h'.mode, h'.finalized⟩ ha
    exact ⟨b', feedTokens_cons_ok_iff.mpr ⟨b₁, hb₁, hb⟩, h'⟩

end Behind

-- A word whose definition is neither open nor among the tokens that follow.
structure Spares (a : Assembler) (tokens : List String) (w : String) : Prop where
  later  : ¬[":", w] <:+: tokens
  naming : a.mode = .naming → tokens.head? ≠ some w
  body   : ∀ body, a.mode ≠ .defining w body

namespace Spares

variable {w : String}

theorem takes (h : a.Spares (token :: tokens) w) (ht : a.Takes token b) :
    b.Spares tokens w ∧ b.bodies.find? w = a.bodies.find? w := by
  have later : ¬[":", w] <:+: tokens := fun hi => h.later (hi.trans (List.suffix_cons _ _).isInfix)
  cases ht
  case colon =>
    refine ⟨⟨later, fun _ hh => ?_, nofun⟩, rfl⟩
    have ⟨rest, hr⟩ := List.head?_eq_some_iff.mp hh
    exact h.later ⟨[], rest, by rw [hr]; rfl⟩
  case name hm _ =>
    have hn : token ≠ w := fun hn => h.naming hm (congrArg some hn)
    exact ⟨⟨later, nofun, fun _ hb => hn (Mode.defining.inj hb).left⟩, rfl⟩
  case outer hm _ _ _ =>
    exact ⟨⟨later, fun hn => absurd (hm.symm.trans hn) nofun, h.body⟩, rfl⟩
  case inner name body _ hm _ _ _ =>
    have hn : name ≠ w := fun hn => h.body body (hn ▸ hm)
    exact ⟨⟨later, nofun, fun _ hb => hn (Mode.defining.inj hb).left⟩, rfl⟩
  case semicolon name body hm =>
    have hn : w ≠ name := fun hn => h.body body (hn ▸ hm)
    exact ⟨⟨later, nofun, nofun⟩, by simp [define, Table.find?_define, hn]⟩

theorem feedTokens (h : a.Spares tokens w) (ha : a.feedTokens tokens = (b, .ok ())) :
    b.bodies.find? w = a.bodies.find? w := by
  induction tokens generalizing a
  case nil =>
    cases ha
    rfl
  case cons token tokens ih =>
    have ⟨a₁, ha₁, ha⟩ := feedTokens_cons_ok_iff.mp ha
    have ⟨h₁, hf⟩ := h.takes (feedToken_ok_iff.mp ha₁).right
    have hb := @ih { a₁ with position := a₁.position + 1 } ⟨h₁.later, h₁.naming, h₁.body⟩ ha
    exact hb.trans hf

end Spares

end StackForth.Assembler
