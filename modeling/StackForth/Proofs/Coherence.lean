import StackForth.Proofs.Acceptance
import StackForth.Proofs.Session

namespace StackForth

structure IsWord (token : String) : Prop extends IsName token where
  nonempty : token ≠ ""
  unbroken : ∀ c ∈ token.toList, Text.isBlank c = false

namespace Assembler

-- All words have proper names, the one whose definition is open included.
structure Named (a : Assembler) : Prop where
  bodies : ∀ name ∈ a.bodies.names, IsWord name
  mode   : ∀ name body, a.mode = .defining name body → IsWord name

variable {a b : Assembler} {token : String} {tokens : List String}

theorem feedTokens_invariant {P : Assembler → Prop}
    (count : ∀ a position, P a → P { a with position })
    (takes : ∀ a token b, token ∈ tokens → P a → a.Takes token b → P b) (h : P a)
    (ha : a.feedTokens tokens = (b, .ok ())) : P b := by
  induction tokens generalizing a
  case nil =>
    cases ha
    exact h
  case cons token tokens ih =>
    have ⟨a₁, ha₁, ha⟩ := feedTokens_cons_ok_iff.mp ha
    have h₁ := takes a token a₁ List.mem_cons_self h (feedToken_ok_iff.mp ha₁).right
    exact ih (fun a token b m => takes a token b (List.mem_cons_of_mem _ m)) (count a₁ _ h₁) ha

namespace Named

theorem ofWords {words : Table Program} (h : ∀ name ∈ words.names, IsWord name) :
    Named { bodies := words } where
  bodies := h
  mode   := nofun

theorem takes (h : a.Named) (nonempty : token ≠ "")
    (unbroken : ∀ c ∈ token.toList, Text.isBlank c = false) (ht : a.Takes token b) : b.Named := by
  cases ht
  case colon        => exact ⟨h.bodies, nofun⟩
  case outer        => exact ⟨h.bodies, h.mode⟩
  case inner hm _ _ _ =>
    refine ⟨h.bodies, fun _ _ he => ?_⟩
    cases he
    exact h.mode _ _ hm
  case name hn =>
    refine ⟨h.bodies, fun _ _ he => ?_⟩
    cases he
    exact ⟨nameComplaint?_eq_none_iff.mp hn, nonempty, unbroken⟩
  case semicolon name body hm =>
    refine ⟨fun other ho => ?_, nofun⟩
    rw [define, Table.names_define, List.mem_append] at ho
    cases ho
    case inl ho => exact h.bodies other (List.mem_filter.mp ho).left
    case inr ho => exact List.mem_singleton.mp ho ▸ h.mode _ _ hm

theorem feed {text : String} (h : a.Named) (ha : a.feed text = (b, .ok ())) : b.Named := by
  have ⟨_, ha⟩ := feed_ok_iff.mp ha
  refine feedTokens_invariant (fun _ _ h => ⟨h.bodies, h.mode⟩) ?_ h ha
  intro a token b m h ht
  have ⟨nonempty, unbroken⟩ := Text.mem_tokens m
  exact h.takes nonempty unbroken ht

end Named

end Assembler

theorem Program.Plain.not_mem {p : Program} {i : Instruction} (h : p.Plain)
    (hi : Term.ofInstruction? i = none) : i ∉ p := by
  intro m
  have m : i ∈ p.terms.map Term.instruction := h ▸ Array.mem_toList_iff.mpr m
  have ⟨t, _, ht⟩ := List.mem_map.mp m
  simp [← ht] at hi

namespace Image

theorem layout_program_toList (main : Program) (words : Table Program) :
    (layout main words).program.toList =
      main.toList ++ .halt :: words.entries.flatMap (·.2.toList) := by
  simp [layout, Layout.toList_append]

theorem layout_word {words : Table Program} {name : String} {body : Program}
    (h : words.find? name = some body) :
    ∃ offset, ∀ main : Program,
      (layout main words).dictionary.find? name = some (main.size + offset) ∧
      (layout main words).program.extract (main.size + offset) (main.size + offset + body.size) =
        body := by
  have ⟨front, back, he, hf⟩ := List.lookup_eq_some_iff.mp h
  have fresh : name ∉ front.map Prod.fst := by
    intro m
    have ⟨e, m, hn⟩ := List.mem_map.mp m
    simpa [hn] using hf e m
  -- The bodies in front of this one take the same room behind every main part.
  refine ⟨1 + (front.flatMap (·.2.toList)).length, fun main => ⟨?_, ?_⟩⟩
  · have address := Layout.lookup_addresses_append (main.size + 1) body back fresh
    rwa [← he, Nat.add_assoc] at address
  · have code : (layout main words).program.toList =
        (main.toList ++ .halt :: front.flatMap (·.2.toList)) ++
          (body.toList ++ back.flatMap (·.2.toList)) := by
      simp [layout_program_toList, he]
    have length : (main.toList ++ .halt :: front.flatMap (·.2.toList)).length =
        main.size + (1 + (front.flatMap (·.2.toList)).length) := by
      simp
      omega
    rw [← Array.toList_inj, Array.toList_extract, List.extract_eq_take_drop, code, ← length,
      List.drop_left, Nat.add_sub_cancel_left, ← Array.length_toList, List.take_left]

end Image

namespace Session

-- The last image has the words of the session behind a main part. The image of the words alone has
-- them in the same order, and closer to its beginning by the length of the main part.
structure Reflects (s : Session) (main : Program) : Prop where
  free            : .halt ∉ main ∧ .ret ∉ main
  program         : s.last.program.toList =
                      main.toList ++ .halt :: s.words.entries.flatMap (·.2.toList)
  names           : s.last.dictionary.names = s.words.names
  compiledProgram : s.compiled.program.toList = .halt :: s.words.entries.flatMap (·.2.toList)
  compiledNames   : s.compiled.dictionary.names = s.words.names
  words           : ∀ name body, s.words.find? name = some body →
                      ∃ address, s.last.dictionary.find? name = some address ∧
                        s.last.program.extract address (address + body.size) = body ∧
                        main.size ≤ address ∧
                        s.compiled.dictionary.find? name = some (address - main.size)

structure Coherent (s : Session) : Prop where
  names    : ∀ name ∈ s.words.names, IsWord name
  bodies   : ∀ word ∈ s.words.entries, word.2.IsBody
  compiled : s.assembler.finalize.2 = .ok s.compiled
  last     : (s.words = .empty ∧ s.last = {}) ∨ ∃ main, s.Reflects main

variable {s : Session}

theorem Reflects.ofLayout {main : Program} (hm : main.Plain) (h : s.last = .layout main s.words) :
    s.Reflects main where
  free            := ⟨hm.not_mem rfl, hm.not_mem rfl⟩
  program         := h ▸ Image.layout_program_toList main s.words
  names           := h ▸ Image.layout_dictionary_names main s.words
  compiledProgram := Image.layout_program_toList #[] s.words
  compiledNames   := Image.layout_dictionary_names #[] s.words
  words name body hb := by
    have ⟨offset, place⟩ := Image.layout_word hb
    have ⟨address, code⟩ := place main
    have ⟨address', _⟩ := place #[]
    refine ⟨main.size + offset, h ▸ address, h ▸ code, Nat.le_add_right _ _, ?_⟩
    rw [Nat.add_sub_cancel_left]
    simpa [compiled] using address'

theorem Reached.names (h : Reached s) : ∀ name ∈ s.words.names, IsWord name := by
  induction h
  case fresh  => nofun
  case reset  => nofun
  case set ih => exact ih
  case evaluate s bound line _ ih =>
    cases s.evaluate_cases bound line
    case inl he =>
      rw [he.left]
      exact ih
    case inr he =>
      have ⟨a, _, _, ha, _, _, hs, _⟩ := he
      rw [hs]
      exact (Assembler.Named.ofWords ih).feed ha.feed |>.bodies

theorem Reached.last (h : Reached s) :
    (s.words = .empty ∧ s.last = {}) ∨
      ∃ main : Program, main.Plain ∧ s.last = .layout main s.words := by
  induction h
  case fresh  => exact .inl ⟨rfl, rfl⟩
  case reset  => exact .inl ⟨rfl, rfl⟩
  case set ih => exact ih
  case evaluate s bound line h ih =>
    cases s.evaluate_cases bound line
    case inl he =>
      rw [he.left]
      exact ih
    case inr he =>
      have ⟨a, _, _, ha, _, _, hs, _⟩ := he
      rw [hs]
      exact .inr ⟨a.main, (ha.wellFormed h.wellFormed).main, ha.image_eq⟩

end Session

-- The last image is that of the last line that ended well, and no line behind it has changed words.
theorem session_is_coherent {s : Session} (h : s.Reached) : s.Coherent where
  names    := h.names
  bodies   := h.wellFormed.closed
  compiled := rfl
  last     := by
    cases h.last
    case inl he => exact .inl he
    case inr he =>
      have ⟨main, hm, hl⟩ := he
      exact .inr ⟨main, .ofLayout hm hl⟩

def doubleSession : Session :=
  (Session.evaluate 1 {} ": one 1 ; : two one one + ;").1

def failedSession : Session :=
  (doubleSession.evaluate 11 ": one 3 ; two drop drop").1

def reorderedSession : Session :=
  (failedSession.evaluate 10 ": one 4 ; two").1

theorem failedSession_reached : failedSession.Reached :=
  have first : doubleSession.Reached := .evaluate 1 _ (.fresh none false)
  first.evaluate 11 _

theorem session_is_coherent_reordered :
    failedSession.Coherent ∧ failedSession.words.names = ["one", "two"] ∧
      reorderedSession.Coherent ∧ reorderedSession.words.names = ["two", "one"] ∧
      reorderedSession.stack = [8] :=
  ⟨session_is_coherent failedSession_reached, by decide +kernel,
    session_is_coherent (failedSession_reached.evaluate 10 _), by decide +kernel,
    by decide +kernel⟩

end StackForth
