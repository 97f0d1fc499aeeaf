import StackForth.Proofs.Assembling
import StackForth.Proofs.Grammar
import StackForth.Proofs.Placement

namespace StackForth

theorem Primitive.ofWord?_eq_none_iff {token : String} :
    ofWord? token = none ↔ ∀ p : Primitive, p.word ≠ token := by
  simp [ofWord?, mem_all]

section

variable {a : Assembler} {token : String} {t : Term}

namespace Literal

theorem read_overlong (h : Overlong token) : read token = .tooLong (numeralDigits token) := by
  simp [read, h.left, h.right]

theorem read_outOfRange (h : OutOfRange token) (hl : ¬Overlong token) :
    read token = .outOfRange := by
  have hd : ¬digitLimit < numeralDigits token := fun hd => hl ⟨h.left, hd⟩
  simp [read, h.left, h.right, hd]

theorem read_cell (hn : isNumeral token) (hr : ¬OutOfRange token) (hl : ¬Overlong token) :
    ∃ v, read token = .cell v ∧ v.toInt = numeralValue token := by
  have hd : ¬digitLimit < numeralDigits token := fun hd => hl ⟨hn, hd⟩
  have hf : Cell.Fits (numeralValue token) := Decidable.byContradiction fun hf => hr ⟨hn, hf⟩
  exact ⟨_, by simp [read, hn, hd, hf], Cell.toInt_ofInt hf⟩

end Literal

theorem exists_denotes (hn : token ≠ "") (hr : ¬OutOfRange token) (hl : ¬Overlong token) :
    ∃ t, Term.ofToken? token = some t ∧ Denotes token t := by
  cases numeral : isNumeral token
  case true =>
    have ⟨v, hv, value⟩ := Literal.read_cell numeral hr hl
    exact ⟨_, by simp [Term.ofToken?, hv], .literal numeral value⟩
  case false =>
    have hv : Literal.read token = .notNumeral := by simp [Literal.read, numeral]
    cases hp : Primitive.ofWord? token
    case some p =>
      have word : p.word = token := by simpa using List.find?_some hp
      exact ⟨.primitive p, by simp [Term.ofToken?, hv, hp], word ▸ .primitive p⟩
    case none =>
      have primitive := Primitive.ofWord?_eq_none_iff.mp hp
      exact ⟨_, by simp [Term.ofToken?, hv, hp, hn], .word numeral primitive hn⟩

theorem Denotes.of_ofToken? (hn : token ≠ "") (h : Term.ofToken? token = some t) :
    Denotes token t := by
  have hl : ¬Overlong token := fun hl => by simp [Term.ofToken?, Literal.read_overlong hl] at h
  have hr : ¬OutOfRange token := fun hr => by
    simp [Term.ofToken?, Literal.read_outOfRange hr hl] at h
  obtain ⟨_, ht, hd⟩ := exists_denotes hn hr hl
  cases h.symm.trans ht
  exact hd

namespace Assembler

theorem item_overlong (h : Overlong token) :
    a.item token = .error (.refused (.unreadable (numeralDigits token))) := by
  simp [item, Literal.read_overlong h]

theorem item_outOfRange (h : OutOfRange token) (hl : ¬Overlong token) :
    a.item token = .error (a.complain (.outOfRange token) token) := by
  simp [item, Literal.read_outOfRange h hl]

theorem nameComplaint?_eq_none_iff : nameComplaint? token = none ↔ IsName token := by
  simp only [nameComplaint?]
  constructor
  · intro h
    split at h <;> try cases h
    split at h <;> try cases h
    split at h <;> try cases h
    rename_i hr hn hp
    simp only [not_or, Bool.not_eq_true, Option.isSome_eq_false_iff,
      Option.isNone_iff_eq_none] at hr hn hp
    exact ⟨hr.left, hr.right, hn, Primitive.ofWord?_eq_none_iff.mp hp⟩
  · rintro ⟨hc, hs, hn, hp⟩
    simp [hc, hs, hn, Primitive.ofWord?_eq_none_iff.mpr hp]

theorem kind_of_nameComplaint? {c : Complaint} (h : nameComplaint? token = some c) :
    c.kind = .malformedDefinition := by
  simp only [nameComplaint?] at h
  repeat' split at h
  all_goals cases h
  all_goals rfl

end Assembler

end

-- What an assembler is in the middle of, with a draft behind it.
inductive Remainder.Matches : Remainder → Mode → Prop
  | main : Matches .none .main
  | naming : Matches .colon .naming
  | defining : Matches (.definition name body) (.defining name code)

namespace Draft

-- A numeral that cannot be read stands where an item is looked for.
def Chokes (d : Draft) (token : String) : Prop :=
  d.rest ≠ .colon ∧ Overlong token

theorem not_chokes {d : Draft} {token : String} (h : isNumeral token = false) : ¬d.Chokes token :=
  fun hc => Bool.false_ne_true (h.symm.trans hc.right.left)

def complaintKind (d : Draft) (token : String) : Kind :=
  if d.rest ≠ .colon ∧ OutOfRange token then .invalidLiteral else .malformedDefinition

end Draft

namespace Assembler

structure At (a : Assembler) (d : Draft) : Prop where
  mode      : d.rest.Matches a.mode
  finalized : a.finalized = false

-- An assembler without words of its own has put together what a draft says.
structure Holds (a : Assembler) (d : Draft) : Prop where
  main  : List.Forall₂ Denotes (d.source.filterMap Clause.item?) a.main.terms
  words : List.Forall₂ Spells (latest (d.source.filterMap Clause.definition?))
            (a.bodies.entries.map fun w => (w.1, w.2.terms))
  body  : ∀ name body code, d.rest = .definition name body → a.mode = .defining name code →
            List.Forall₂ Denotes body code.terms

inductive TakesWith (a : Assembler) (d : Draft) : String → Assembler → Draft → Prop
  | colon (hm : a.mode = .main) (hr : d.rest = .none) :
      TakesWith a d ":" { a with mode := .naming } { d with rest := .colon }
  | name (hm : a.mode = .naming) (hr : d.rest = .colon) (hn : IsName token) :
      TakesWith a d token { a with mode := .defining token #[] }
        { d with rest := .definition token [] }
  | outer (hm : a.mode = .main) (hr : d.rest = .none) (hi : IsItem token)
      (ht : Term.ofToken? token = some t) :
      TakesWith a d token { a with main := a.main.push t.instruction }
        { d with source := d.source ++ [.item token] }
  | inner (hm : a.mode = .defining name code) (hr : d.rest = .definition name body)
      (hi : IsItem token) (ht : Term.ofToken? token = some t) :
      TakesWith a d token { a with mode := .defining name (code.push t.instruction) }
        { d with rest := .definition name (body ++ [token]) }
  | semicolon (hm : a.mode = .defining name code) (hr : d.rest = .definition name body) :
      TakesWith a d ";" (a.define name code) { source := d.source ++ [.definition name body] }

inductive Answer (a : Assembler) (d : Draft) (token : String) :
    Assembler × Except AssemblyError Unit → Prop
  | taken (readable : ¬d.Chokes token) (takes : a.TakesWith d token b d') :
      Answer a d token (b, .ok ())
  | complained (readable : ¬d.Chokes token) (stuck : d.next? token = none)
      (kind : c.kind = d.complaintKind token) :
      Answer a d token (b, .error (a.complain c token))
  | refused (unreadable : d.Chokes token) : Answer a d token (b, .error (.refused r))

-- How an assembler answers a row of tokens. Those in front of the first that it does not take have a
-- draft.
inductive Answers (a : Assembler) (d : Draft) :
    List String → Assembler × Except AssemblyError Unit → Prop
  | taken (read : d.read tokens = some d') (place : b.At d') (holds : a.Holds d → b.Holds d') :
      Answers a d tokens (b, .ok ())
  | complained (front : List String) (read : d.read front = some d')
      (stuck : d'.next? token = none) (kind : c.kind = d'.complaintKind token) :
      Answers a d (front ++ token :: back)
        (b, .error (.parse ⟨c, some token, a.position + front.length⟩))
  | refused (front : List String) (read : d.read front = some d')
      (unreadable : d'.Chokes token) :
      Answers a d (front ++ token :: back) (b, .error (.refused r))

variable {a b : Assembler} {d d' : Draft} {token : String} {tokens : List String}

theorem feedToken_item_error {e : AssemblyError} (ho : a.finalized = false) (hm : a.mode ≠ .naming)
    (hc : token ≠ ":") (hs : token ≠ ";") (h : a.item token = .error e) :
    a.feedToken token = (a, .error e) := by
  cases mode : a.mode
  case main     => simp [feedToken, ho, mode, hc, hs, h]
  case naming   => exact absurd mode hm
  case defining => simp [feedToken, ho, mode, hc, hs, h]

namespace TakesWith

theorem takes (h : a.TakesWith d token b d') : a.Takes token b := by
  cases h
  case colon hm _          => exact .colon hm
  case name hm _ hn        => exact .name hm (nameComplaint?_eq_none_iff.mpr hn)
  case outer hm _ hi ht    => exact .outer hm hi.colon hi.semicolon ht
  case inner hm _ hi ht    => exact .inner hm hi.colon hi.semicolon ht
  case semicolon hm _      => exact .semicolon hm

theorem draft (h : a.TakesWith d token b d') : d.Extends token d' := by
  cases h
  case colon hr        => exact .colon hr
  case name hr hn      => exact .name hr hn
  case outer hr hi _   => exact .outer hr hi
  case inner hr hi _   => exact .inner hr hi
  case semicolon hr    => exact .semicolon hr

theorem place (h : a.TakesWith d token b d') (ho : a.finalized = false) : b.At d' := by
  refine ⟨?_, h.takes.finalized_eq.trans ho⟩
  cases h
  case colon           => exact .naming
  case name            => exact .defining
  case outer hm hr _ _ => exact hm ▸ hr ▸ .main
  case inner           => exact .defining
  case semicolon       => exact .main

theorem holds (ht : a.TakesWith d token b d') (hn : token ≠ "") (h : a.Holds d) : b.Holds d' := by
  have ⟨main, words, body⟩ := h
  cases ht
  case colon => exact ⟨main, words, nofun⟩
  case name =>
    refine ⟨main, words, fun _ _ _ hr hm => ?_⟩
    cases hr
    cases hm
    exact .nil
  case outer t hm hr _ ht =>
    have denotes := Denotes.of_ofToken? hn ht
    refine ⟨?_, ?_, body⟩
    · simpa [Clause.item?] using List.rel_append main (.cons denotes .nil)
    · simpa [List.filterMap_cons, Clause.definition?] using words
  case inner hm hr _ ht =>
    have denotes := Denotes.of_ofToken? hn ht
    refine ⟨main, words, fun _ _ _ hr' hm' => ?_⟩
    cases hr'
    cases hm'
    simpa using List.rel_append (body _ _ _ hr hm) (.cons denotes .nil)
  case semicolon name code items hm hr =>
    refine ⟨?_, ?_, nofun⟩
    · simpa [List.filterMap_cons, Clause.item?, define] using main
    · have spells : Spells (name, items) (name, Program.terms (code.push .ret)) :=
        ⟨rfl, by simpa using body _ _ _ hr hm⟩
      -- An earlier definition of the name goes away on both sides.
      have others := List.rel_filter (p := (·.1 ≠ name)) (q := (·.1 ≠ name))
        (fun _ _ (h : Spells _ _) => by simp [h.left]) words
      have := List.rel_append others (.cons spells .nil)
      simpa [Clause.definition?, define, latest_concat, Table.define, Table.erase, List.filter_map,
        Function.comp_def] using this

theorem answer (h : a.TakesWith d token b d') (ho : a.finalized = false)
    (readable : ¬d.Chokes token) : Answer a d token (a.feedToken token) :=
  h.takes.feedToken ho ▸ .taken readable h

end TakesWith

namespace At

theorem answer_item (h : a.At d) (hn : token ≠ "") (hc : token ≠ ":") (hs : token ≠ ";")
    (hr : d.rest ≠ .colon) : Answer a d token (a.feedToken token) := by
  obtain ⟨source, rest⟩ := d
  obtain ⟨mode, ho⟩ := h
  have hm : a.mode ≠ .naming := by
    intro hm
    rw [hm] at mode
    cases mode
    exact hr rfl
  by_cases hl : Overlong token
  case pos =>
    rw [feedToken_item_error ho hm hc hs (item_overlong hl)]
    exact .refused ⟨hr, hl⟩
  case neg =>
    have readable : ¬Draft.Chokes ⟨source, rest⟩ token := fun h => hl h.right
    by_cases hr' : OutOfRange token
    case pos =>
      rw [feedToken_item_error ho hm hc hs (item_outOfRange hr' hl)]
      have hi : ¬IsItem token := fun hi => hi.inRange hr'
      refine .complained readable ?stuck ?kind
      case stuck => cases rest <;> simp_all [Draft.next?]
      case kind  => simp [Draft.complaintKind, hr, hr', Complaint.kind]
    case neg =>
      obtain ⟨t, ht, _⟩ := exists_denotes hn hr' hl
      have hi : IsItem token := ⟨hc, hs, hr'⟩
      generalize hm : a.mode = m at mode
      cases mode
      case main     => exact TakesWith.outer hm rfl hi ht |>.answer ho readable
      case naming   => exact absurd rfl hr
      case defining => exact TakesWith.inner hm rfl hi ht |>.answer ho readable

theorem feedToken (h : a.At d) (hn : token ≠ "") : Answer a d token (a.feedToken token) := by
  obtain ⟨source, rest⟩ := d
  have mode := h.mode
  have ho := h.finalized
  generalize hm : a.mode = m at mode
  cases mode
  case main =>
    by_cases hc : token = ":"
    case pos =>
      cases hc
      exact TakesWith.colon hm rfl |>.answer ho (Draft.not_chokes rfl)
    case neg =>
      by_cases hs : token = ";"
      case pos =>
        cases hs
        have refused : a.feedToken ";" = (a, .error (a.complain .strayEnd ";")) := by
          simp [Assembler.feedToken, ho, hm]
        rw [refused]
        exact .complained (Draft.not_chokes rfl) rfl rfl
      case neg => exact h.answer_item hn hc hs (by simp)
  case naming =>
    -- What stands behind a colon is never read as a number, however long it is.
    have readable : ¬Draft.Chokes ⟨source, .colon⟩ token := fun hc => hc.left rfl
    cases hc : nameComplaint? token
    case none =>
      have hname := nameComplaint?_eq_none_iff.mp hc
      exact TakesWith.name hm rfl hname |>.answer ho readable
    case some c =>
      have hname : ¬IsName token := fun h => by simp [nameComplaint?_eq_none_iff.mpr h] at hc
      have refused : a.feedToken token =
          ({ a with mode := .main }, .error (a.complain c token)) := by
        simp [Assembler.feedToken, ho, hm, hc]
      rw [refused]
      exact .complained readable (by simp [Draft.next?, hname]) (kind_of_nameComplaint? hc)
  case defining name body code =>
    by_cases hc : token = ":"
    case pos =>
      cases hc
      have refused : a.feedToken ":" = (a, .error (a.complain (.nestedDefinition name) ":")) := by
        simp [Assembler.feedToken, ho, hm]
      rw [refused]
      exact .complained (Draft.not_chokes rfl) rfl rfl
    case neg =>
      by_cases hs : token = ";"
      case pos =>
        cases hs
        exact TakesWith.semicolon hm rfl |>.answer ho (Draft.not_chokes rfl)
      case neg => exact h.answer_item hn hc hs (by simp)

end At

theorem Answers.cons {r : Assembler × Except AssemblyError Unit} (hn : token ≠ "")
    (ht : a.TakesWith d token b d')
    (h : Answers { b with position := b.position + 1 } d' tokens r) :
    Answers a d (token :: tokens) r := by
  have read (front : List String) : d.read (token :: front) = d'.read front := by
    simp [Draft.read, Draft.next?_eq_some_iff.mpr ht.draft]
  cases h
  case taken place holds hr =>
    refine .taken ((read tokens).trans hr) place fun h => holds ?_
    obtain ⟨main, words, body⟩ := ht.holds hn h
    exact ⟨main, words, body⟩
  case complained front hr stuck kind =>
    have count : b.position + 1 + front.length = a.position + (token :: front).length := by
      simp only [ht.takes.position_eq, List.length_cons]
      omega
    rw [count]
    exact .complained (token :: front) ((read front).trans hr) stuck kind
  case refused front hr unreadable =>
    exact .refused (token :: front) ((read front).trans hr) unreadable

theorem At.feedTokens (h : a.At d) (hn : ∀ token ∈ tokens, token ≠ "") :
    Answers a d tokens (a.feedTokens tokens) := by
  induction tokens generalizing a d
  case nil => exact .taken rfl h id
  case cons token tokens ih =>
    simp only [List.forall_mem_cons] at hn
    have answer := h.feedToken hn.left
    generalize hf : a.feedToken token = result at answer
    simp only [Assembler.feedTokens, hf]
    cases answer
    case taken b d' readable takes =>
      obtain ⟨mode, finalized⟩ := takes.place h.finalized
      have place : At { b with position := b.position + 1 } d' := ⟨mode, finalized⟩
      exact .cons hn.left takes (ih place hn.right)
    case complained stuck kind => exact .complained [] rfl stuck kind
    case refused unreadable    => exact .refused [] rfl unreadable

theorem Answers.feed (words : Table Program) (text : String) :
    Answers { bodies := words } {} (Text.tokens text) (feed { bodies := words } text) :=
  At.feedTokens ⟨.main, rfl⟩ fun _ ht => Text.mem_tokens ht |>.left

theorem Holds.empty : Holds {} {} where
  main  := .nil
  words := .nil
  body  := nofun

theorem Holds.compiles (h : a.Holds d) (wf : a.WellFormed) :
    Compiles d.source (.layout a.main a.bodies) a.main.terms
      (a.bodies.entries.map fun w => (w.1, w.2.terms)) where
  items       := h.main
  definitions := h.words
  program     := by
    have bodies : a.bodies.entries.flatMap (·.2.toList) =
        a.bodies.entries.flatMap fun w => w.2.terms.map Term.instruction ++ [.ret] :=
      List.flatMap_congr fun w hw => wf.bodies.closed w hw
    have main : a.main.toList = _ := wf.main
    simp [Image.layout, Layout.toList_append, main, bodies, List.flatMap_map]
  names       := by
    rw [Image.layout_dictionary_names]
    simp [Table.names, Function.comp_def]
  addresses front name body back hw := by
    obtain ⟨front, rest, he, rfl, hr⟩ := List.map_eq_append_iff.mp hw
    obtain ⟨⟨name, body⟩, back, rfl, hn, rfl⟩ := List.map_eq_cons_iff.mp hr
    cases hn
    -- The name occurs once, so that it is not found in front of its own entry.
    have fresh : name ∉ front.map Prod.fst := by
      have nodup := a.bodies.nodup
      rw [he, List.map_append, List.nodup_append] at nodup
      exact fun hf => nodup.right.right name hf name (by simp) rfl
    have code : front.flatMap (·.2.toList) =
        front.flatMap fun w => w.2.terms.map Term.instruction ++ [.ret] := by
      refine List.flatMap_congr fun w hw => wf.bodies.closed w ?_
      simp [he, hw]
    have address := Layout.lookup_addresses_append (a.main.size + 1) body back fresh
    rw [← he, code] at address
    rw [← wf.main.size_eq, List.flatMap_map]
    exact address

theorem At.mode_eq_main_iff (h : a.At d) : a.mode = .main ↔ d.rest = .none := by
  have ⟨mode, _⟩ := h
  generalize d.rest = rest, a.mode = m at mode
  cases mode <;> simp

variable {text : String} {e : AssemblyError}

theorem exists_read_of_feed (h : feed {} text = (b, .ok ())) :
    ∃ d, Draft.read {} (Text.tokens text) = some d ∧ b.At d ∧ b.Holds d := by
  have answers := Answers.feed .empty text
  rw [h] at answers
  generalize Text.tokens text = tokens at answers
  cases answers
  case taken read place holds => exact ⟨_, read, place, holds .empty⟩

theorem feed_of_read (short : ∀ token ∈ Text.tokens text, ¬Overlong token)
    (h : Draft.read {} (Text.tokens text) = some d) :
    ∃ b, feed {} text = (b, .ok ()) ∧ b.At d ∧ b.Holds d := by
  have answers := Answers.feed .empty text
  generalize feed { bodies := .empty } text = result at answers
  generalize Text.tokens text = tokens at answers h short
  cases answers
  case taken place holds read =>
    cases read.symm.trans h
    exact ⟨_, rfl, place, holds .empty⟩
  case complained read stuck _ => simp [Draft.read_append, read, Draft.read, stuck] at h
  case refused unreadable      => exact absurd unreadable.right (short _ (by simp))

theorem feed_error (short : ∀ token ∈ Text.tokens text, ¬Overlong token)
    (h : feed {} text = (b, .error e)) :
    ∃ front token back d c, Text.tokens text = front ++ token :: back ∧
      Draft.read {} front = some d ∧ d.next? token = none ∧ c.kind = d.complaintKind token ∧
      e = .parse ⟨c, some token, front.length⟩ := by
  have answers := Answers.feed .empty text
  rw [h] at answers
  generalize Text.tokens text = tokens at answers short
  cases answers
  case complained d token back c front read stuck kind =>
    exact ⟨front, token, back, d, c, rfl, read, stuck, kind, by simp⟩
  case refused unreadable => exact absurd unreadable.right (short _ (by simp))

theorem assemble_eq_ok_iff {image : Image} :
    assemble text = .ok image ↔ ∃ a, feed {} text = (a, .ok ()) ∧ a.finalize.2 = .ok image := by
  simp only [assemble, parse]
  rcases feed {} text with ⟨a, _ | _⟩ <;> simp

end Assembler

section

variable {text : String} (short : ∀ token ∈ Text.tokens text, ¬Overlong token)

include short

theorem assembles_iff_sentence :
    (∃ image, assemble text = .ok image) ↔ Sentence (Text.tokens text) := by
  simp only [Assembler.assemble_eq_ok_iff, Assembler.finalize_ok_iff, sentence_iff]
  constructor
  · intro ⟨_, a, hf, _, hm, _⟩
    have ⟨⟨source, rest⟩, read, place, _⟩ := Assembler.exists_read_of_feed hf
    cases place.mode_eq_main_iff.mp hm
    exact ⟨source, read⟩
  · intro ⟨source, read⟩
    have ⟨a, hf, place, _⟩ := Assembler.feed_of_read short read
    exact ⟨_, a, hf, place.finalized, place.mode_eq_main_iff.mpr rfl, rfl⟩

theorem feed_fails_iff (k : Nat) :
    (∃ a c token, Assembler.feed {} text = (a, .error (.parse ⟨c, some token, k⟩))) ↔
      k < (Text.tokens text).length ∧ Viable ((Text.tokens text).take k) ∧
        ¬Viable ((Text.tokens text).take (k + 1)) := by
  -- What a complaint says of the tokens in front of it and of those with it.
  have located {a e} (hf : Assembler.feed {} text = (a, .error e)) :
      ∃ c token j, e = .parse ⟨c, some token, j⟩ ∧ j < (Text.tokens text).length ∧
        Viable ((Text.tokens text).take j) ∧ ¬Viable ((Text.tokens text).take (j + 1)) := by
    have ⟨front, token, back, d, c, ht, read, stuck, _, he⟩ := Assembler.feed_error short hf
    refine ⟨c, token, front.length, he, ?_⟩
    have hv := viable_iff.mpr ⟨d, read⟩
    have hs := not_viable_of_stuck read stuck
    rw [ht]
    simpa [List.take_append, List.take_of_length_le] using ⟨hv, hs⟩
  constructor
  · intro ⟨a, c, token, hf⟩
    have ⟨_, _, j, he, located⟩ := located hf
    cases he
    exact located
  · intro ⟨hk, viable, stuck⟩
    rcases hf : Assembler.feed {} text with ⟨a, e | _⟩
    case error =>
      have ⟨c, token, j, he, _, viable', stuck'⟩ := located hf
      have hj : j < k + 1 := Nat.lt_of_not_le fun h => stuck (viable'.take h)
      have hk : k < j + 1 := Nat.lt_of_not_le fun h => stuck' (viable.take h)
      cases Nat.le_antisymm (Nat.le_of_lt_succ hj) (Nat.le_of_lt_succ hk)
      exact ⟨a, c, token, by rw [he]⟩
    case ok =>
      have ⟨d, read, _⟩ := Assembler.exists_read_of_feed hf
      have all : Viable ((Text.tokens text).take (Text.tokens text).length) := by
        rw [List.take_length]
        exact viable_iff.mpr ⟨d, read⟩
      exact absurd (all.take hk) stuck

theorem feed_complaint {a : Assembler} {e : AssemblyError}
    (hf : Assembler.feed {} text = (a, .error e)) :
    ∃ c token k, e = .parse ⟨c, some token, k⟩ ∧ (Text.tokens text)[k]? = some token ∧
      (c.kind = .invalidLiteral ∨ c.kind = .malformedDefinition) ∧
      (c.kind = .invalidLiteral ↔ OutOfRange token ∧ TakesItems ((Text.tokens text).take k)) := by
  have ⟨front, token, back, d, c, ht, read, stuck, kind, he⟩ := Assembler.feed_error short hf
  refine ⟨c, token, front.length, he, ?_⟩
  have items : TakesItems front ↔ d.rest ≠ .colon := by simp [takesItems_iff, read]
  rw [ht, List.take_left, items, kind, Draft.complaintKind]
  by_cases h : d.rest ≠ .colon ∧ OutOfRange token
  case pos => simp [h]
  case neg => simpa [h] using fun ho hr => h ⟨hr, ho⟩

theorem finalize_fails_iff :
    (∃ a e, Assembler.feed {} text = (a, .ok ()) ∧ a.finalize.2 = .error e) ↔
      ∃ d : Draft, d.Valid ∧ d.rest ≠ .none ∧ d.tokens = Text.tokens text := by
  constructor
  · intro ⟨a, e, hf, he⟩
    have ⟨d, read, place, _⟩ := Assembler.exists_read_of_feed hf
    have ⟨valid, tokens⟩ := Draft.read_eq_some_iff.mp read
    refine ⟨d, valid, fun hr => ?_, tokens⟩
    have mode := place.mode_eq_main_iff.mpr hr
    have := Assembler.finalize_ok_iff.mpr ⟨place.finalized, mode, rfl⟩
    simp [this] at he
  · intro ⟨d, valid, hr, tokens⟩
    have read := Draft.read_eq_some_iff.mpr ⟨valid, tokens⟩
    have ⟨a, hf, place, _⟩ := Assembler.feed_of_read short read
    cases he : a.finalize.2
    case error e => exact ⟨a, e, hf, he⟩
    case ok =>
      have ⟨_, mode, _⟩ := Assembler.finalize_ok_iff.mp he
      exact absurd (place.mode_eq_main_iff.mp mode) hr

end

theorem assemble_compiles {text : String} {image : Image} (h : assemble text = .ok image) :
    ∃ source main words, (∀ c ∈ source, c.Valid) ∧
      source.flatMap Clause.tokens = Text.tokens text ∧ Compiles source image main words := by
  have ⟨a, hf, hi⟩ := Assembler.assemble_eq_ok_iff.mp h
  have ⟨_, mode, image⟩ := Assembler.finalize_ok_iff.mp hi
  have ⟨⟨source, rest⟩, read, place, holds⟩ := Assembler.exists_read_of_feed hf
  cases place.mode_eq_main_iff.mp mode
  have ⟨valid, tokens⟩ := Draft.read_eq_some_iff.mp read
  have wf : a.WellFormed := by simpa [hf] using Assembler.WellFormed.ofWords .empty |>.feed text
  refine ⟨source, _, _, valid.source, ?_, image ▸ holds.compiles wf⟩
  simpa [Draft.tokens, Remainder.tokens] using tokens

-- Texts are accepted just as the grammar says, an error is at the first token that no sentence goes on
-- with, and an image holds what the clauses of the text say.
theorem assembler_accepts_grammar (text : String)
    (short : ∀ token ∈ Text.tokens text, ¬Overlong token) :
    ((∃ image, assemble text = .ok image) ↔ Sentence (Text.tokens text)) ∧
    (∀ k, (∃ a c token, Assembler.feed {} text = (a, .error (.parse ⟨c, some token, k⟩))) ↔
      k < (Text.tokens text).length ∧ Viable ((Text.tokens text).take k) ∧
        ¬Viable ((Text.tokens text).take (k + 1))) ∧
    (∀ a e, Assembler.feed {} text = (a, .error e) →
      ∃ c token k, e = .parse ⟨c, some token, k⟩ ∧ (Text.tokens text)[k]? = some token ∧
        (c.kind = .invalidLiteral ∨ c.kind = .malformedDefinition) ∧
        (c.kind = .invalidLiteral ↔ OutOfRange token ∧ TakesItems ((Text.tokens text).take k))) ∧
    ((∃ a e, Assembler.feed {} text = (a, .ok ()) ∧ a.finalize.2 = .error e) ↔
      ∃ d : Draft, d.Valid ∧ d.rest ≠ .none ∧ d.tokens = Text.tokens text) ∧
    ∀ image, assemble text = .ok image → ∃ source main words, (∀ c ∈ source, c.Valid) ∧
      source.flatMap Clause.tokens = Text.tokens text ∧ Compiles source image main words :=
  ⟨assembles_iff_sentence short, feed_fails_iff short, fun _ _ => feed_complaint short,
    finalize_fails_iff short, fun _ => assemble_compiles⟩

-- A word that is used in front of its second definition.
def twin : Program :=
  #[.callWord "twin", .halt, .push 2, .prim .dup, .ret]

theorem assembler_accepts_grammar_twin :
    (∃ image source main words, assemble ": twin 1 ; twin : twin +2 dup ;" = .ok image ∧
      Compiles source image main words ∧ words.map Prod.fst = ["twin"] ∧ image.program = twin) ∧
    ∃ a c token, Assembler.feed {} ": twin 1 ; : dup ;" =
      (a, .error (.parse ⟨c, some token, 5⟩)) := by
  have ⟨accepted, _, _, _, holds⟩ :=
    assembler_accepts_grammar ": twin 1 ; twin : twin +2 dup ;" (by decide)
  have ⟨_, refused, _⟩ := assembler_accepts_grammar ": twin 1 ; : dup ;" (by decide)
  have ⟨image, assembles⟩ := accepted.mpr (by decide)
  have ⟨source, main, words, _, _, compiles⟩ := holds image assembles
  have made : (assemble ": twin 1 ; twin : twin +2 dup ;").toOption.map
      (fun image => (image.dictionary.names, image.program)) = some (["twin"], twin) := by
    decide +kernel
  rw [assembles] at made
  have ⟨names, program⟩ := Prod.mk.inj (Option.some.inj made)
  exact ⟨⟨image, source, main, words, assembles, compiles, compiles.names.symm.trans names, program⟩,
    (refused 5).mpr (by decide)⟩

end StackForth
