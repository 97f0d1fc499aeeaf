import StackForth.Proofs.Acceptance

namespace StackForth

def BreaksOff (tokens : List String) (name : String) : Prop :=
  ∃ front body, Sentence front ∧ IsName name ∧ (∀ item ∈ body, IsItem item) ∧
    tokens = front ++ ":" :: name :: body

theorem breaksOff_iff {tokens : List String} {name : String} :
    BreaksOff tokens name ↔
      ∃ source body, Draft.read {} tokens = some ⟨source, .definition name body⟩ := by
  constructor
  · rintro ⟨front, body, sentence, hn, hb, ht⟩
    obtain ⟨source, read⟩ := sentence_iff.mp sentence
    exact ⟨source, body, by simp [ht, Draft.read_append, read, Draft.read_definition source hn hb]⟩
  · rintro ⟨source, body, read⟩
    obtain ⟨valid, tokens⟩ := Draft.read_eq_some_iff.mp read
    exact ⟨_, body, ⟨source, valid.source, rfl⟩, valid.rest.left, valid.rest.right, tokens.symm⟩

namespace BreaksOff

variable {tokens : List String} {name name' : String}

theorem viable (h : BreaksOff tokens name) : Viable tokens :=
  have ⟨_, _, read⟩ := breaksOff_iff.mp h
  viable_iff.mpr ⟨_, read⟩

theorem unique (h : BreaksOff tokens name) (h' : BreaksOff tokens name') : name = name' := by
  have ⟨_, _, read⟩  := breaksOff_iff.mp h
  have ⟨_, _, read'⟩ := breaksOff_iff.mp h'
  cases read.symm.trans read'
  rfl

end BreaksOff

namespace Assembler

variable {a b : Assembler} {tokens : List String}

theorem feedTokens_position (h : a.feedTokens tokens = (b, .ok ())) :
    b.position = a.position + tokens.length := by
  induction tokens generalizing a
  case nil =>
    cases h
    rfl
  case cons token tokens ih =>
    have ⟨a₁, taken, h⟩ := feedTokens_cons_ok_iff.mp h
    have same := (feedToken_ok_iff.mp taken).right.position_eq
    have count := ih h
    simp only [same, List.length_cons] at count ⊢
    omega

-- The errors that a row of tokens can end in: a token that no sentence goes on with, a colon that
-- is the last token, and a definition that is not closed.
inductive Complains (tokens : List String) : ParseError → Prop
  | token (front : List String) (split : tokens = front ++ token :: back)
      (stuck : ¬Viable (front ++ [token])) : Complains tokens ⟨c, some token, front.length⟩
  | nameless : Complains tokens ⟨.missingName, none, tokens.length⟩
  | brokenOff (broken : BreaksOff tokens name) :
      Complains tokens ⟨.openDefinition name, some name, tokens.length⟩

theorem At.complains {d : Draft} {e : ParseError} (h : a.At d)
    (read : Draft.read {} tokens = some d) (count : a.position = tokens.length)
    (he : a.finalize.2 = .error (.parse e)) : Complains tokens e := by
  obtain ⟨source, rest⟩ := d
  obtain ⟨mode, ho⟩ := h
  generalize hm : a.mode = m at mode
  cases mode
  case main => simp [finalize, ho, hm] at he
  case naming =>
    simp only [finalize, ho, hm, complain, count] at he
    cases he
    exact .nameless
  case defining =>
    simp only [finalize, ho, hm, complain, count] at he
    cases he
    exact .brokenOff (breaksOff_iff.mpr ⟨source, _, read⟩)

theorem complains {text : String} {e : ParseError} (h : assemble text = .error (.parse e)) :
    Complains (Text.tokens text) e := by
  have answers : Answers {} {} (Text.tokens text) (feed {} text) := Answers.feed .empty text
  have count {b} (hf : feed {} text = (b, .ok ())) : b.position = (Text.tokens text).length := by
    simpa using feedTokens_position (feed_ok_iff.mp hf).right
  simp only [assemble, parse] at h
  generalize feed {} text = result at answers count h
  generalize Text.tokens text = tokens at answers count
  cases answers
  case taken place _ read => exact place.complains read (count rfl) h
  case refused            => cases h
  case complained front read stuck _ =>
    cases h
    simpa using .token front rfl (not_viable_of_stuck read stuck)

end Assembler

-- The name of a word whose definition is not closed stands behind the last sentence and its colon,
-- and so before the end.
theorem complaint_is_located_unless_broken_off {text token : String} {e : ParseError}
    (h : assemble text = .error (.parse e)) (ht : e.token = some token) :
    ((Text.tokens text)[e.position]? = some token ↔ ∀ name, ¬BreaksOff (Text.tokens text) name) ∧
    ∀ name, BreaksOff (Text.tokens text) name →
      token = name ∧ e.position = (Text.tokens text).length := by
  have complains := Assembler.complains h
  generalize Text.tokens text = tokens at complains ⊢
  cases complains
  case nameless => cases ht
  case token back _ front split stuck =>
    cases ht
    have closed (name : String) : ¬BreaksOff tokens name := by
      intro broken
      have viable : Viable (front ++ [token] ++ back) := by simpa [split] using broken.viable
      exact stuck viable.of_append
    exact ⟨iff_of_true (by simp [split]) closed, fun name broken => absurd broken (closed name)⟩
  case brokenOff broken =>
    cases ht
    refine ⟨iff_of_false (by simp) fun closed => closed _ broken, fun name broken' => ?_⟩
    exact ⟨broken.unique broken', rfl⟩

theorem complaint_is_located_unless_broken_off_dup :
    (∃ e, assemble "1 ; 2" = .error (.parse e) ∧ (Text.tokens "1 ; 2")[e.position]? = some ";") ∧
    ∃ e, assemble ": a dup" = .error (.parse e) ∧ e.token = some "a" ∧ e.position = 3 ∧
      (Text.tokens ": a dup")[e.position]? ≠ some "a" ∧
      (Text.tokens ": a dup")[1]? = some "a" := by
  have stray : assemble "1 ; 2" = .error (.parse ⟨.strayEnd, some ";", 1⟩) := rfl
  have ended : assemble ": a dup" = .error (.parse ⟨.openDefinition "a", some "a", 3⟩) := rfl
  have closed (name : String) : ¬BreaksOff (Text.tokens "1 ; 2") name :=
    fun broken => absurd broken.viable (by decide)
  have broken : BreaksOff (Text.tokens ": a dup") "a" :=
    ⟨[], ["dup"], by decide, by decide, by decide, rfl⟩
  have ⟨located, _⟩ := complaint_is_located_unless_broken_off stray rfl
  have ⟨lost, atEnd⟩ := complaint_is_located_unless_broken_off ended rfl
  exact ⟨⟨_, stray, located.mpr closed⟩, _, ended, rfl, (atEnd "a" broken).right,
    fun h => lost.mp h "a" broken, rfl⟩

end StackForth
