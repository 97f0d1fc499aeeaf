import Mathlib.Data.List.Forall2
import StackForth.Proofs.Term

/-!
The grammar of source code: items, and definitions of words between a colon and a semicolon. A draft
is source code that may be broken off in its last definition. Tokens have at most one draft, and they
have one just as long as they can go on to a sentence.
-/

namespace StackForth

def OutOfRange (token : String) : Prop :=
  isNumeral token ∧ ¬Cell.Fits (numeralValue token)

-- A numeral of more digits than are read.
def Overlong (token : String) : Prop :=
  isNumeral token ∧ digitLimit < numeralDigits token

structure IsItem (token : String) : Prop where
  colon     : token ≠ ":"
  semicolon : token ≠ ";"
  inRange   : ¬OutOfRange token

structure IsName (token : String) : Prop where
  colon     : token ≠ ":"
  semicolon : token ≠ ";"
  numeral   : isNumeral token = false
  primitive : ∀ p : Primitive, p.word ≠ token

instance : DecidablePred OutOfRange :=
  fun _ => inferInstanceAs (Decidable (_ ∧ _))

instance : DecidablePred Overlong :=
  fun _ => inferInstanceAs (Decidable (_ ∧ _))

instance : DecidablePred IsItem := fun token =>
  decidable_of_iff (token ≠ ":" ∧ token ≠ ";" ∧ ¬OutOfRange token)
    ⟨fun ⟨c, s, r⟩ => ⟨c, s, r⟩, fun ⟨c, s, r⟩ => ⟨c, s, r⟩⟩

instance : DecidablePred IsName := fun token =>
  decidable_of_iff
    (token ≠ ":" ∧ token ≠ ";" ∧ isNumeral token = false ∧ ∀ p ∈ Primitive.all, p.word ≠ token)
    ⟨fun ⟨c, s, n, p⟩ => ⟨c, s, n, fun q => p q q.mem_all⟩,
      fun ⟨c, s, n, p⟩ => ⟨c, s, n, fun q _ => p q⟩⟩

inductive Denotes : String → Term → Prop
  | literal (numeral : isNumeral token) (value : v.toInt = numeralValue token) :
      Denotes token (.literal v)
  | primitive (p : Primitive) : Denotes p.word (.primitive p)
  | word (numeral : isNumeral token = false) (primitive : ∀ p : Primitive, p.word ≠ token)
      (nonempty : token ≠ "") : Denotes token (.word token nonempty)

inductive Clause
  | item (token : String)
  | definition (name : String) (body : List String)

namespace Clause

def tokens : Clause → List String
  | item token           => [token]
  | definition name body => ":" :: name :: (body ++ [";"])

def Valid : Clause → Prop
  | item token           => IsItem token
  | definition name body => IsName name ∧ ∀ token ∈ body, IsItem token

def item? : Clause → Option String
  | item token    => some token
  | definition .. => none

def definition? : Clause → Option (String × List String)
  | item _               => none
  | definition name body => some (name, body)

end Clause

def Sentence (tokens : List String) : Prop :=
  ∃ source : List Clause, (∀ c ∈ source, c.Valid) ∧ source.flatMap Clause.tokens = tokens

-- Tokens that a sentence begins with.
def Viable (tokens : List String) : Prop :=
  ∃ rest, Sentence (tokens ++ rest)

-- Any item may follow the tokens. Behind a colon it would have to be a name.
def TakesItems (tokens : List String) : Prop :=
  ∀ item, IsItem item → Viable (tokens ++ [item])

theorem Viable.of_append {tokens rest : List String} (h : Viable (tokens ++ rest)) :
    Viable tokens := by
  obtain ⟨rest', h⟩ := h
  exact ⟨rest ++ rest', by rwa [List.append_assoc] at h⟩

theorem Viable.take {tokens : List String} {j k : Nat} (h : Viable (tokens.take k)) (hj : j ≤ k) :
    Viable (tokens.take j) := by
  have ht : tokens.take j = (tokens.take k).take j := by rw [List.take_take, Nat.min_eq_left hj]
  rw [← List.take_append_drop j (tokens.take k)] at h
  exact ht ▸ h.of_append

-- What stands behind the last clause that is complete.
inductive Remainder
  | none
  | colon
  | definition (name : String) (body : List String)
deriving DecidableEq

namespace Remainder

def tokens : Remainder → List String
  | none                 => []
  | colon                => [":"]
  | definition name body => ":" :: name :: body

def Valid : Remainder → Prop
  | definition name body => IsName name ∧ ∀ token ∈ body, IsItem token
  | _                    => True

end Remainder

structure Draft where
  source : List Clause := []
  rest   : Remainder := .none

namespace Draft

def tokens (d : Draft) : List String :=
  d.source.flatMap Clause.tokens ++ d.rest.tokens

structure Valid (d : Draft) : Prop where
  source : ∀ c ∈ d.source, c.Valid
  rest   : d.rest.Valid

def next? (d : Draft) (token : String) : Option Draft :=
  match d.rest with
  | .none =>
    if token = ":" then some { d with rest := .colon }
    else if IsItem token then some { d with source := d.source ++ [.item token] }
    else none
  | .colon =>
    if IsName token then some { d with rest := .definition token [] } else none
  | .definition name body =>
    if token = ";" then some { source := d.source ++ [.definition name body] }
    else if IsItem token then some { d with rest := .definition name (body ++ [token]) }
    else none

def read (d : Draft) : List String → Option Draft
  | []              => some d
  | token :: tokens => (d.next? token).bind (read · tokens)

inductive Extends (d : Draft) : String → Draft → Prop
  | colon (hr : d.rest = .none) : Extends d ":" { d with rest := .colon }
  | name (hr : d.rest = .colon) (hn : IsName token) :
      Extends d token { d with rest := .definition token [] }
  | outer (hr : d.rest = .none) (hi : IsItem token) :
      Extends d token { d with source := d.source ++ [.item token] }
  | inner (hr : d.rest = .definition name body) (hi : IsItem token) :
      Extends d token { d with rest := .definition name (body ++ [token]) }
  | semicolon (hr : d.rest = .definition name body) :
      Extends d ";" { source := d.source ++ [.definition name body] }

variable {d d' : Draft} {name token : String} {body front tokens : List String}

theorem read_append (d : Draft) (front back : List String) :
    d.read (front ++ back) = (d.read front).bind (read · back) := by
  induction front generalizing d
  case nil => rfl
  case cons token front ih =>
    simp only [List.cons_append, read]
    cases d.next? token
    case none   => rfl
    case some d => exact ih d

theorem read_concat (d : Draft) (front : List String) (token : String) :
    d.read (front ++ [token]) = (d.read front).bind (next? · token) := by
  simp [read_append, read]

theorem Extends.of_next? (h : d.next? token = some d') : d.Extends token d' := by
  simp only [next?] at h
  split at h
  case h_1 hr =>
    split at h
    case isTrue ht =>
      cases h; cases ht
      exact .colon hr
    case isFalse =>
      split at h <;> cases h
      case isTrue hi => exact .outer hr hi
  case h_2 hr =>
    split at h <;> cases h
    case isTrue hn => exact .name hr hn
  case h_3 hr =>
    split at h
    case isTrue ht =>
      cases h; cases ht
      exact .semicolon hr
    case isFalse =>
      split at h <;> cases h
      case isTrue hi => exact .inner hr hi

theorem next?_eq_some_iff : d.next? token = some d' ↔ d.Extends token d' where
  mp := .of_next?
  mpr h := by
    cases h
    case colon hr     => simp [next?, hr]
    case name hr hn   => simp [next?, hr, hn]
    case outer hr hi  => simp [next?, hr, hi, hi.colon]
    case inner hr hi  => simp [next?, hr, hi, hi.semicolon]
    case semicolon hr => simp [next?, hr]

namespace Extends

theorem tokens_eq (h : d.Extends token d') : d'.tokens = d.tokens ++ [token] := by
  cases h
  case colon hr     => simp [Draft.tokens, Remainder.tokens, hr]
  case name hr _    => simp [Draft.tokens, Remainder.tokens, hr]
  case outer hr _   => simp [Draft.tokens, Remainder.tokens, Clause.tokens, hr]
  case inner hr _   => simp [Draft.tokens, Remainder.tokens, hr]
  case semicolon hr => simp [Draft.tokens, Remainder.tokens, Clause.tokens, hr]

theorem valid (h : d.Extends token d') (hd : d.Valid) : d'.Valid := by
  have ⟨source, rest⟩ := hd
  cases h
  case colon      => exact ⟨source, trivial⟩
  case name hn    => exact ⟨source, hn, nofun⟩
  case outer hi   => exact ⟨by simpa [or_imp, forall_and] using ⟨source, hi⟩, rest⟩
  case inner hr hi =>
    rw [hr] at rest
    exact ⟨source, rest.left, by simpa [or_imp, forall_and] using ⟨rest.right, hi⟩⟩
  case semicolon hr =>
    rw [hr] at rest
    exact ⟨by simpa [or_imp, forall_and] using ⟨source, rest⟩, trivial⟩

end Extends

theorem read_sound (h : d.read tokens = some d') (hd : d.Valid) :
    d'.Valid ∧ d'.tokens = d.tokens ++ tokens := by
  induction tokens generalizing d
  case nil =>
    cases h
    exact ⟨hd, by simp⟩
  case cons token tokens ih =>
    have ⟨d₁, hn, h⟩ := Option.bind_eq_some_iff.mp h
    have e := next?_eq_some_iff.mp hn
    have ⟨hv, ht⟩ := ih h (e.valid hd)
    exact ⟨hv, by simp [ht, e.tokens_eq]⟩

theorem read_body {source : List Clause} (h : ∀ token ∈ tokens, IsItem token) :
    read ⟨source, .definition name body⟩ tokens =
      some ⟨source, .definition name (body ++ tokens)⟩ := by
  induction tokens generalizing body
  case nil => simp [read]
  case cons token tokens ih =>
    simp only [List.forall_mem_cons] at h
    have e := Extends.inner (d := ⟨source, .definition name body⟩) rfl h.left
    simp [read, next?_eq_some_iff.mpr e, ih h.right]

theorem read_definition (source : List Clause) (hn : IsName name)
    (h : ∀ token ∈ body, IsItem token) :
    read ⟨source, .none⟩ (":" :: name :: body) = some ⟨source, .definition name body⟩ := by
  simp [read, next?, hn, read_body h]

theorem read_clause {c : Clause} {source : List Clause} (h : c.Valid) :
    read ⟨source, .none⟩ c.tokens = some ⟨source ++ [c], .none⟩ := by
  cases c
  case item token =>
    have e := Extends.outer (d := ⟨source, .none⟩) rfl h
    simp [read, Clause.tokens, next?_eq_some_iff.mpr e]
  case definition name body =>
    have hb := read_definition source h.left h.right
    rw [Clause.tokens, ← List.cons_append, ← List.cons_append, read_concat, hb]
    simp [next?]

theorem read_source (source : List Clause) {source' : List Clause} (h : ∀ c ∈ source', c.Valid) :
    read ⟨source, .none⟩ (source'.flatMap Clause.tokens) = some ⟨source ++ source', .none⟩ := by
  induction source' generalizing source
  case nil => simp [read]
  case cons c source' ih =>
    simp only [List.forall_mem_cons] at h
    simp [read_append, read_clause h.left, ih _ h.right]

theorem read_tokens (h : d.Valid) : read {} d.tokens = some d := by
  obtain ⟨source, rest⟩ := d
  have hs := read_source [] h.source
  simp only [Draft.tokens, read_append, hs, Option.bind_some, List.nil_append]
  cases rest
  case none       => rfl
  case colon      => rfl
  case definition => exact read_definition source h.rest.left h.rest.right

theorem read_eq_some_iff : read {} tokens = some d ↔ d.Valid ∧ d.tokens = tokens where
  mp h  := read_sound h ⟨nofun, trivial⟩
  mpr h := h.right ▸ read_tokens h.left

-- A definition that is broken off can be completed.
theorem Valid.viable (h : d.Valid) : Viable d.tokens := by
  obtain ⟨source, rest⟩ := d
  have ⟨hs, hr⟩ := h
  cases rest
  case none  => exact ⟨[], source, hs, by simp [Draft.tokens, Remainder.tokens]⟩
  case colon =>
    -- Any name will do, with nothing in the body.
    have hn : IsName "x" := by decide
    refine ⟨["x", ";"], source ++ [.definition "x" []], ?_, ?_⟩
    · simpa [or_imp, forall_and] using ⟨hs, hn, nofun⟩
    · simp [Draft.tokens, Remainder.tokens, Clause.tokens]
  case definition name body =>
    refine ⟨[";"], source ++ [.definition name body], ?_, ?_⟩
    · simpa [or_imp, forall_and] using ⟨hs, hr⟩
    · simp [Draft.tokens, Remainder.tokens, Clause.tokens]

end Draft

theorem sentence_iff {tokens : List String} :
    Sentence tokens ↔ ∃ source, Draft.read {} tokens = some ⟨source, .none⟩ := by
  simp only [Draft.read_eq_some_iff]
  constructor
  · intro ⟨source, hs, ht⟩
    exact ⟨source, ⟨hs, trivial⟩, by simpa [Draft.tokens, Remainder.tokens] using ht⟩
  · intro ⟨source, hs, ht⟩
    exact ⟨source, hs.source, by simpa [Draft.tokens, Remainder.tokens] using ht⟩

theorem viable_iff {tokens : List String} : Viable tokens ↔ ∃ d, Draft.read {} tokens = some d where
  mp := by
    intro ⟨rest, h⟩
    have ⟨source, h⟩ := sentence_iff.mp h
    rw [Draft.read_append] at h
    have ⟨d, hd, _⟩ := Option.bind_eq_some_iff.mp h
    exact ⟨d, hd⟩
  mpr := by
    intro ⟨d, h⟩
    have ⟨hd, ht⟩ := Draft.read_eq_some_iff.mp h
    exact ht ▸ hd.viable

instance : DecidablePred Sentence := fun tokens =>
  decidable_of_iff ((Draft.read {} tokens).map Draft.rest = some .none) <| by
    rw [sentence_iff, Option.map_eq_some_iff]
    exact ⟨fun ⟨d, h, hr⟩ => ⟨d.source, hr ▸ h⟩, fun ⟨_, h⟩ => ⟨_, h, rfl⟩⟩

instance : DecidablePred Viable := fun tokens =>
  decidable_of_iff ((Draft.read {} tokens).isSome) <| by
    rw [viable_iff, Option.isSome_iff_exists]

theorem not_viable_of_stuck {d : Draft} {front : List String} {token : String}
    (read : Draft.read {} front = some d) (stuck : d.next? token = none) :
    ¬Viable (front ++ [token]) := by
  simp [viable_iff, Draft.read_concat, read, stuck]

theorem takesItems_iff {tokens : List String} :
    TakesItems tokens ↔ ∃ d, Draft.read {} tokens = some d ∧ d.rest ≠ .colon := by
  simp only [TakesItems, viable_iff, Draft.read_concat]
  constructor
  · intro h
    have ⟨_, h⟩ := h "1" (by decide)
    have ⟨d, hd, hn⟩ := Option.bind_eq_some_iff.mp h
    refine ⟨d, hd, fun hr => ?_⟩
    have hn : ¬IsName "1" := by decide
    simp_all [Draft.next?]
  · intro ⟨d, hd, hr⟩ item hi
    rw [hd, Option.bind_some]
    cases hd' : d.rest
    case none       => exact ⟨_, Draft.next?_eq_some_iff.mpr (.outer hd' hi)⟩
    case colon      => exact absurd hd' hr
    case definition => exact ⟨_, Draft.next?_eq_some_iff.mpr (.inner hd' hi)⟩

def latest {α : Type} : List (String × α) → List (String × α)
  | []           => []
  | e :: entries => if e.1 ∈ entries.map Prod.fst then latest entries else e :: latest entries

theorem latest_concat {α : Type} (entries : List (String × α)) (e : String × α) :
    latest (entries ++ [e]) = (latest entries).filter (·.1 ≠ e.1) ++ [e] := by
  induction entries
  case nil => simp [latest]
  case cons e' entries ih =>
    simp only [List.cons_append, latest, ih]
    by_cases hl : e'.1 ∈ entries.map Prod.fst
    case pos =>
      simp_all
    case neg =>
      by_cases he : e'.1 = e.1 <;> simp_all

-- A definition and a word of the same name, whose terms the tokens of the body stand for.
def Spells (definition : String × List String) (word : String × List Term) : Prop :=
  definition.1 = word.1 ∧ List.Forall₂ Denotes definition.2 word.2

-- What source code is compiled to: the terms of the main part, and the words with the terms of their
-- bodies. The program has the main part first and a halt behind it, and then the bodies, each with a
-- return at its end. A word is found where its body begins.
structure Compiles (source : List Clause) (image : Image) (main : List Term)
    (words : List (String × List Term)) : Prop where
  items       : List.Forall₂ Denotes (source.filterMap Clause.item?) main
  definitions : List.Forall₂ Spells (latest (source.filterMap Clause.definition?)) words
  program     : image.program.toList = main.map Term.instruction ++ .halt ::
                  words.flatMap fun w => w.2.map Term.instruction ++ [.ret]
  names       : image.dictionary.names = words.map Prod.fst
  addresses   : ∀ front name body back, words = front ++ (name, body) :: back →
                  image.dictionary.find? name = some (main.length + 1 +
                    (front.flatMap fun w => w.2.map Term.instruction ++ [.ret]).length)

end StackForth
