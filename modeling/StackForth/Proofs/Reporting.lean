import StackForth.Proofs.Acceptance
import StackForth.Proofs.Failing
import StackForth.Proofs.Safety

namespace StackForth

-- A numeral is too long, and all goes well up to where it stands for an item.
def Unreadable (tokens : List String) : Prop :=
  ∃ front token back, tokens = front ++ token :: back ∧ TakesItems front ∧ Overlong token

theorem readable_of_short {tokens : List String} (h : ∀ token ∈ tokens, ¬Overlong token) :
    ¬Unreadable tokens := by
  intro ⟨front, token, back, ht, _, long⟩
  exact h token (by simp [ht]) long

namespace Assembler

variable {a : Assembler} {d d' : Draft} {front back : List String} {token : String}

theorem At.feedTokens_refused (h : a.At d) (hn : ∀ t ∈ front ++ token :: back, t ≠ "")
    (read : d.read front = some d') (chokes : d'.Chokes token) :
    ∃ b r, a.feedTokens (front ++ token :: back) = (b, .error (.refused r)) := by
  induction front generalizing a d
  case nil =>
    cases read
    have answer := h.feedToken (hn token (by simp))
    generalize hf : a.feedToken token = result at answer
    cases answer
    case taken readable _        => exact absurd chokes readable
    case complained readable _ _ => exact absurd chokes readable
    case refused b r _           => exact ⟨b, r, by simp [Assembler.feedTokens, hf]⟩
  case cons t front ih =>
    obtain ⟨d₁, next, read⟩ := Option.bind_eq_some_iff.mp read
    have answer := h.feedToken (hn t (by simp))
    generalize hf : a.feedToken t = result at answer
    simp only [List.cons_append, Assembler.feedTokens, hf]
    cases answer
    case refused b r _      => exact ⟨b, r, rfl⟩
    case complained stuck _ => cases stuck.symm.trans next
    case taken b d₂ _ takes =>
      cases (Draft.next?_eq_some_iff.mpr takes.draft).symm.trans next
      obtain ⟨mode, finalized⟩ := takes.place h.finalized
      have place : At { b with position := b.position + 1 } d₁ := ⟨mode, finalized⟩
      exact ih place (fun t ht => hn t (.tail _ ht)) read

theorem feed_refused_iff (words : Table Program) (text : String) :
    (∃ b r, feed { bodies := words } text = (b, .error (.refused r))) ↔
      Unreadable (Text.tokens text) where
  mp := by
    intro ⟨b, r, h⟩
    have answers := Answers.feed words text
    rw [h] at answers
    generalize Text.tokens text = tokens at answers
    cases answers
    case refused d token back front read chokes =>
      exact ⟨front, token, back, rfl, takesItems_iff.mpr ⟨d, read, chokes.left⟩, chokes.right⟩
  mpr := by
    intro ⟨front, token, back, ht, takes, long⟩
    have ⟨d, read, hr⟩ := takesItems_iff.mp takes
    have hn : ∀ t ∈ front ++ token :: back, t ≠ "" :=
      fun t h => (Text.mem_tokens (ht ▸ h)).left
    have place : At { bodies := words } {} := ⟨.main, rfl⟩
    have refused := place.feedTokens_refused hn read ⟨hr, long⟩
    rwa [← ht] at refused

inductive Parsed (tokens : List String) : Except AssemblyError Image → Prop
  | image (readable : ¬Unreadable tokens) (sentence : Sentence tokens) : Parsed tokens (.ok image)
  | complaint (readable : ¬Unreadable tokens) (broken : ¬Sentence tokens) :
      Parsed tokens (.error (.parse e))
  | refusal (unreadable : Unreadable tokens) : Parsed tokens (.error (.refused r))

theorem At.finalize (h : a.At d) :
    (d.rest = .none ∧ ∃ image, a.finalize.2 = .ok image) ∨
    (d.rest ≠ .none ∧ ∃ e, a.finalize.2 = .error (.parse e)) := by
  obtain ⟨source, rest⟩ := d
  obtain ⟨mode, ho⟩ := h
  generalize hm : a.mode = m at mode
  cases mode
  case main     => exact .inl ⟨rfl, by simp [Assembler.finalize, ho, hm]⟩
  case naming   => exact .inr ⟨by simp, by simp [Assembler.finalize, ho, hm, complain]⟩
  case defining => exact .inr ⟨by simp, by simp [Assembler.finalize, ho, hm, complain]⟩

theorem parsed (words : Table Program) (text : String) :
    Parsed (Text.tokens text) (parse { bodies := words } text).2 := by
  have answers := Answers.feed words text
  have refused := feed_refused_iff words text
  simp only [parse]
  generalize feed { bodies := words } text = result at answers refused ⊢
  generalize Text.tokens text = tokens at answers refused ⊢
  cases answers
  case refused b r _ _ _ => exact .refusal (refused.mp ⟨b, r, rfl⟩)
  case complained read stuck _ =>
    refine .complaint (mt refused.mpr (by simp)) fun sentence => ?_
    -- A sentence would lead the draft past the token that it cannot go on with.
    obtain ⟨source, complete⟩ := sentence_iff.mp sentence
    simp [Draft.read_append, read, Draft.read, stuck] at complete
  case taken d b place _ read =>
    have readable := mt refused.mpr (by simp)
    obtain ⟨source, rest⟩ := d
    cases place.finalize
    case inl h =>
      obtain ⟨hr, image, hi⟩ := h
      cases hr
      simp only [hi]
      exact .image readable (sentence_iff.mpr ⟨source, read⟩)
    case inr h =>
      obtain ⟨hr, e, he⟩ := h
      simp only [he]
      refine .complaint readable fun sentence => ?_
      obtain ⟨source, complete⟩ := sentence_iff.mp sentence
      cases complete.symm.trans read
      exact hr rfl

end Assembler

namespace Machine

variable {m : Machine} {limit : Int}

theorem run_unfinished {fuel : Nat} (hl : m.limit = some limit)
    (h : (m.run fuel).2 = .unfinished) : fuel = 0 ∨ m.state.steps + fuel ≤ limit := by
  induction fuel generalizing m
  case zero => exact .inl rfl
  case succ fuel ih =>
    have stepped := m.step_stepped
    rcases hs : m.step with ⟨n, stop | ⟨_ | _⟩⟩ <;> simp only [run, hs] at h stepped
    case error    => cases ending_ne_unfinished stop h
    case ok.false => cases h
    case ok.true  =>
      obtain ⟨below, count⟩ := stepped.counted
      have allowed := below limit hl
      have rest := ih (m := n) (stepped.limit_eq.trans hl) h
      omega

theorem runToEnd_ends (hl : m.limit = some limit) (bound : Nat) :
    (m.runToEnd bound).2 ≠ .unfinished := by
  intro h
  simp only [runToEnd, horizon, hl] at h
  have := run_unfinished hl h
  omega

-- The machine comes to an instruction that its step limit does not allow.
def Exceeds (m : Machine) : Prop :=
  ∃ fuel p, m.run fuel = (p, .unfinished) ∧ p.state.current? p.image.program ≠ none ∧
    Exhausted p.limit p.state.steps

end Machine

def Report.Complete (r : Report) : Prop :=
  r.verdict ≠ .unfinished

def Report.kind? (r : Report) : Option Kind :=
  r.trouble?.map Trouble.kind

-- The machine for an assembled text only has one number to write on its own, and that is its limit.
theorem Follows.unwritable_iff {m : Machine} {halt : Nat} {v : Vocabulary} {t : Thread}
    (f : Follows m.image halt m.state t) (hi : m.image.Implements halt v) :
    (∃ fuel, (m.run fuel).2 = .unwritable) ↔
      m.Exceeds ∧ ∃ n, m.limit = some n ∧ isWritable n = false where
  mp := by
    intro ⟨fuel, stopped⟩
    rcases hr : m.run fuel with ⟨e, ending⟩
    cases show ending = .unwritable by rw [← stopped, hr]
    obtain ⟨k, p, pause, step⟩ := Machine.run_stopped (x := .unwritable) hr
    obtain ⟨image, t', f'⟩ := Machine.follows_of_pause f hi pause
    have followed := f'.followed (image ▸ hi)
    -- Of all that a machine can do on a thread, only the limit has a number to write.
    generalize hs : p.step = s at followed
    cases followed
    case limit n _ hn reached =>
      have stop : p.stop t'.instruction (.stepLimit n) = .unwritable :=
        Except.error.inj (congrArg Prod.snd (hs.symm.trans step))
      have long : isWritable n = false := Machine.stop_eq_unwritable_iff.mp stop
      exact ⟨⟨k, p, pause, by simp [f'.current?], n, hn, reached⟩, n,
        (Machine.limit_of_unfinished pause).symm.trans hn, long⟩
    all_goals cases hs.symm.trans step
  mpr := by
    intro ⟨⟨k, p, pause, current, n, hn, reached⟩, n', hl, long⟩
    cases hn.symm.trans ((Machine.limit_of_unfinished pause).trans hl)
    obtain ⟨i, current⟩ := Option.ne_none_iff_exists'.mp current
    have ⟨_, step⟩ := Machine.step_refused (hn ▸ State.step_limit current reached)
    have long : (Fault.stepLimit n).writable = false := long
    rw [Machine.stop_eq_unwritable_iff.mpr long] at step
    refine ⟨k + 1, ?_⟩
    rw [Machine.run_resume pause]
    simp only [Machine.run, step, Stop.ending]

theorem Machine.report_complete_iff {m : Machine} {limit : Int} (hl : m.limit = some limit)
    (bound : Nat) :
    (∃ r, (m.report bound).2 = .ok r ∧ r.Complete) ↔ ¬∃ fuel, (m.run fuel).2 = .unwritable := by
  have ended := m.runToEnd_ends hl bound
  rcases hr : m.runToEnd bound with ⟨n, ending⟩
  have unique (fuel : Nat) (h : (m.run fuel).2 = .unwritable) : ending = .unwritable := by
    have same := Machine.run_unique (show (m.run fuel).2 ≠ .unfinished by simp [h]) ended
    rw [← h, same, ← Machine.runToEnd, hr]
  simp only [Machine.report, hr]
  cases ending
  case unfinished => exact absurd (congrArg Prod.snd hr) ended
  case unwritable =>
    refine iff_of_false ?_ fun never => never ⟨m.horizon bound, congrArg Prod.snd hr⟩
    rintro ⟨_, ⟨⟩, _⟩
  all_goals
    refine iff_of_true ⟨_, rfl, by rintro ⟨⟩⟩ ?_
    rintro ⟨fuel, h⟩
    cases unique fuel h

theorem Load.fits_of_stack {below cells s : List Int} (h : stack below (cells.map .int) = .ok s) :
    ∀ c ∈ cells, Cell.Fits c := by
  induction cells generalizing below
  case nil => nofun
  case cons n cells ih =>
    simp only [List.map_cons, stack] at h
    split at h
    case isTrue fits => exact List.forall_mem_cons.mpr ⟨fits, ih h⟩
    case isFalse     => cases h

section

variable {words : Table Program} {text : String} {a : Assembler} {image : Image} {setup : Setup}
variable {limit : Int} {cells : List Int}

def Image.Exceeds (image : Image) (setup : Setup) : Prop :=
  ∃ m, Machine.boot image setup = .ok m ∧ m.Exceeds

def Tellable (limit : Int) (setup : Setup) (parsed : Except AssemblyError Image) : Prop :=
  isWritable limit ∨ ∀ image, parsed = .ok image → ¬image.Exceeds setup

theorem Assembles.complete_iff (h : Assembles words text a image) (hw : words.WellFormed)
    (hl : setup.limit = some limit) (hc : setup.cells = cells.map .int) (bound : Nat) :
    (∃ r, (image.run bound setup).2 = .ok r ∧ r.Complete) ↔
      (∀ c ∈ cells, Cell.Fits c) ∧ (isWritable limit ∨ ¬image.Exceeds setup) := by
  rw [h.run_eq hw, Image.Exceeds, h.boot hw, hc]
  by_cases fits : ∀ c ∈ cells, Cell.Fits c
  case neg =>
    cases hs : Load.stack [] (cells.map .int)
    case error    => simp [fits, Except.bind]
    case ok stack => exact absurd (Load.fits_of_stack hs) fits
  case pos =>
    have wf := h.wellFormed hw
    have hi := Image.layout_implements a.main wf.bodies
    have f := Follows.start a.bodies wf.main (cells.reverse ++ [])
    have complete := Machine.report_complete_iff
      (m := .start a.main a.bodies setup (cells.reverse ++ [])) hl bound
    rw [Follows.unwritable_iff f hi] at complete
    rw [Load.stack_ok [] fits, and_iff_right fits]
    simpa [Machine.start, hl, or_comm, imp_iff_not_or, Except.map, Except.bind] using complete

def conclude (bound : Nat) (setup : Setup) (stack : List Int) :
    Except AssemblyError Image → Except Refusal Report
  | .error e  => Report.ofAssemblyError stack e
  | .ok image => (image.run bound setup).2

theorem runSource_eq_conclude (bound : Nat) (text : String) (setup : Setup) :
    (runSource bound text setup).2 = conclude bound setup [] (Assembler.parse {} text).2 := by
  rcases hp : Assembler.parse {} text with ⟨a, _ | image⟩ <;> simp only [runSource, hp, conclude]

theorem Session.evaluate_eq_conclude (s : Session) (bound : Nat) (line : String) :
    (s.evaluate bound line).2.2 =
      conclude bound s.setup s.stack (s.assembler.parse line).2 := by
  simp only [evaluate, Assembler.parse]
  rcases s.assembler.feed line with ⟨a, e | _⟩
  case error => rfl
  case ok =>
    cases hi : a.finalize.2 <;> simp only [hi, conclude]
    case ok image => cases (image.run bound s.setup).2 <;> rfl

theorem exists_assembles (h : (Assembler.parse { bodies := words } text).2 = .ok image) :
    ∃ a, Assembles words text a image := by
  simp only [Assembler.parse] at h
  rcases hf : Assembler.feed { bodies := words } text with ⟨a, _ | _⟩ <;> simp only [hf] at h
  case error => cases h
  case ok    => exact ⟨a, hf, h⟩

theorem conclude_complete_iff (text : String) (hw : words.WellFormed) (hl : setup.limit = some limit)
    (hc : setup.cells = cells.map .int) (bound : Nat) (stack : List Int)
    {parsed : Except AssemblyError Image}
    (hp : (Assembler.parse { bodies := words } text).2 = parsed) :
    (∃ r, conclude bound setup stack parsed = .ok r ∧ r.Complete) ↔
      ¬Unreadable (Text.tokens text) ∧
        (Sentence (Text.tokens text) → ∀ c ∈ cells, Cell.Fits c) ∧ Tellable limit setup parsed := by
  have cases := Assembler.parsed words text
  rw [hp] at cases
  cases cases
  case refusal unreadable =>
    exact iff_of_false (fun ⟨_, h, _⟩ => by cases h) fun h => h.left unreadable
  case complaint e readable broken =>
    exact iff_of_true ⟨_, rfl, nofun⟩ ⟨readable, fun h => absurd h broken, .inr nofun⟩
  case image image readable sentence =>
    have ⟨a, h⟩ := exists_assembles hp
    simpa [conclude, Tellable, readable, sentence] using h.complete_iff hw hl hc bound

end

-- With a step limit there is a report on every text and on every line of a session, unless a numeral
-- is too long to be read, the limit is exceeded and too long for the message that says so, or the stack
-- of the session has a depth in it that no cell holds.
theorem source_is_reported_unless_unreadable (limit : Int) (tracing : Bool) (bound : Nat) :
    (∀ text, (∃ r, (runSource bound text { limit := some limit, tracing }).2 = .ok r ∧
        r.Complete) ↔
      ¬Unreadable (Text.tokens text) ∧
        Tellable limit { limit := some limit, tracing } (Assembler.parse {} text).2) ∧
    ∀ s : Session, s.Reached → s.limit = some limit → ∀ line,
      (∃ r, (s.evaluate bound line).2.2 = .ok r ∧ r.Complete) ↔
      ¬Unreadable (Text.tokens line) ∧
        (Sentence (Text.tokens line) → ∀ c ∈ s.stack, Cell.Fits c) ∧
        Tellable limit s.setup (s.assembler.parse line).2 := by
  constructor
  · intro text
    rw [runSource_eq_conclude]
    have limited : Setup.limit { limit := some limit, tracing } = some limit := rfl
    have complete := conclude_complete_iff text .empty limited List.map_nil.symm bound [] rfl
    simpa using complete
  · intro s reached hl line
    rw [s.evaluate_eq_conclude]
    have limited : s.setup.limit = some limit := hl
    have cells : s.setup.cells = s.cells.map .int := rfl
    have complete := conclude_complete_iff line reached.wellFormed limited cells bound s.stack rfl
    simpa [Session.cells, Session.assembler] using complete

theorem Text.tokensAfter_of_not_blank (run : List Char) {cs : List Char}
    (h : ∀ c ∈ cs, isBlank c = false) : tokensAfter run cs = closeRun (cs.reverse ++ run) := by
  induction cs generalizing run
  case nil => rfl
  case cons c cs ih =>
    simp only [List.forall_mem_cons] at h
    simp [tokensAfter, h.left, ih (c :: run) h.right]

theorem Text.tokens_of_not_blank {text : String} (nonempty : text ≠ "")
    (h : ∀ c ∈ text.toList, isBlank c = false) : tokens text = [text] := by
  rw [tokens, tokensAfter_of_not_blank [] h, List.append_nil]
  cases run : text.toList.reverse
  case nil => simp [← String.toList_inj, List.reverse_eq_nil_iff.mp run] at nonempty
  case cons => rw [closeRun, ← run, List.reverse_reverse, String.ofList_toList]

def nines (count : Nat) : String :=
  String.ofList (List.replicate count '9')

theorem tokens_nines (k : Nat) : Text.tokens (nines (k + 1)) = [nines (k + 1)] := by
  have black : ∀ c ∈ (nines (k + 1)).toList, Text.isBlank c = false := by
    intro c hc
    rw [nines, String.toList_ofList] at hc
    rw [List.eq_of_mem_replicate hc]
    rfl
  exact Text.tokens_of_not_blank (by simp [nines, ← String.toList_inj]) black

theorem nines_overlong {k : Nat} (h : digitLimit ≤ k) : Overlong (nines (k + 1)) := by
  have sign : splitSign (List.replicate (k + 1) '9') = (false, List.replicate (k + 1) '9') := rfl
  constructor
  · simp [nines, isNumeral, sign]
  · simpa [nines, numeralDigits, sign] using Nat.lt_succ_of_le h

theorem unreadable_nines {k : Nat} (h : digitLimit ≤ k) :
    Unreadable (Text.tokens (nines (k + 1))) :=
  ⟨[], nines (k + 1), [], tokens_nines k, takesItems_iff.mpr ⟨{}, rfl, nofun⟩, nines_overlong h⟩

theorem source_is_reported_unless_unreadable_nines :
    (∃ r, (runSource 0 "1 dup" { limit := some 10 }).2 = .ok r ∧ r.Complete) ∧
    ¬∃ r, (runSource 0 (nines 4301) { limit := some 10 }).2 = .ok r ∧ r.Complete := by
  have ⟨reported, _⟩ := source_is_reported_unless_unreadable 10 false 0
  have short : ∀ token ∈ Text.tokens "1 dup", ¬Overlong token := by decide
  refine ⟨(reported "1 dup").mpr ⟨readable_of_short short, .inl (by decide)⟩, fun complete => ?_⟩
  have ⟨readable, _⟩ := (reported (nines 4301)).mp complete
  exact readable (unreadable_nines (k := 4300) (by decide))

end StackForth
