import StackForth.Proofs.Alongside
import StackForth.Proofs.Tracing

namespace StackForth

inductive IsEntry : Datum × Datum → Prop
  | intro (name : String) (nonempty : name ≠ "") (a : Nat) : IsEntry (.text name, .int a)

-- What is wrong with an entry. The name is looked at before the address.
def flaw : Datum × Datum → Rejection
  | (.text name, address) =>
    if name = "" then .wordName (.text "") else .wordAddress name address
  | (name, _)             => .wordName name

-- What is wrong with the first entry that is not proper.
inductive FirstFlaw : Entries → Rejection → Prop
  | here (wrong : ¬IsEntry e) : FirstFlaw (e :: rest) (flaw e)
  | later (proper : IsEntry e) (first : FirstFlaw rest r) : FirstFlaw (e :: rest) r

def addressOf? (w : String) : Datum × Datum → Option Nat
  | (.text name, .int (.ofNat a)) => if w = name then some a else none
  | _                             => none

def latest? (entries : Entries) (w : String) : Option Nat :=
  (entries.filterMap (addressOf? w)).getLast?

theorem latest?_append (front back : Entries) (w : String) :
    latest? (front ++ back) w = (latest? back w).or (latest? front w) := by
  rw [latest?, List.filterMap_append, List.getLast?_append]
  rfl

theorem Table.find?_merge {α : Type} (t u : Table α) (w : String) :
    (t.merge u).find? w = (u.find? w).or (t.find? w) := by
  obtain ⟨entries, nodup⟩ := u
  simp only [merge, find?]
  induction entries generalizing t
  case nil => rfl
  case cons e es ih =>
    obtain ⟨fresh, nodup⟩ := List.nodup_cons.mp nodup
    rw [List.foldl_cons, ih (t.insert e.1 e.2) nodup, lookup_cons]
    have inserted : (t.insert e.1 e.2).entries.lookup w =
        if w = e.1 then some e.2 else t.entries.lookup w := find?_insert t e.1 w e.2
    rw [inserted]
    split
    case isFalse => rfl
    case isTrue same =>
      have absent : es.lookup w = none := by
        rw [same]
        exact find?_eq_none_iff (t := ⟨es, nodup⟩) |>.mpr fresh
      rw [absent]
      rfl

namespace Dictionary

variable {d d' : Dictionary} {entries : Entries} {w : String}

theorem addEntries_cons (d : Dictionary) {name : String} (nonempty : name ≠ "") (a : Nat)
    (rest : Entries) :
    d.addEntries ((.text name, .int a) :: rest) = addEntries (d.insert name a) rest := by
  simp [addEntries, nonempty]

theorem isEntry_of_addEntries (h : d.addEntries entries = .ok d') : ∀ e ∈ entries, IsEntry e := by
  revert h
  fun_induction addEntries d entries <;> intro h
  case case1 => nofun
  case case2 => cases h
  case case3 nonempty a ih => exact List.forall_mem_cons.mpr ⟨.intro _ nonempty a, ih h⟩
  case case4 => cases h
  case case5 => cases h

theorem addEntries_of_isEntry (d : Dictionary) (h : ∀ e ∈ entries, IsEntry e) :
    ∃ d', d.addEntries entries = .ok d' ∧
      ∀ w, d'.find? w = (latest? entries w).or (d.find? w) := by
  induction entries generalizing d
  case nil => exact ⟨d, rfl, fun _ => rfl⟩
  case cons e rest ih =>
    obtain ⟨⟨name, nonempty, a⟩, others⟩ := List.forall_mem_cons.mp h
    have ⟨d', added, found⟩ := ih (d.insert name a) others
    refine ⟨d', (addEntries_cons d nonempty a rest).trans added, fun w => ?_⟩
    have first : latest? [(.text name, .int a)] w = if w = name then some a else none := by
      by_cases same : w = name <;> simp [latest?, addressOf?, same]
    rw [found, Table.find?_insert, ← List.singleton_append, latest?_append, first, Option.or_assoc]
    by_cases same : w = name <;> simp [same]

theorem addEntries_cons_of_not_isEntry (d : Dictionary) {e : Datum × Datum} (wrong : ¬IsEntry e)
    (rest : Entries) : d.addEntries (e :: rest) = .error (flaw e).refusal := by
  obtain ⟨name, address⟩ := e
  cases name
  case text name =>
    by_cases empty : name = ""
    case pos => simp [addEntries, flaw, empty]
    case neg =>
      simp only [addEntries, flaw, empty, if_false]
      split
      case h_1 a => exact absurd (.intro name empty a) wrong
      case h_2   => rfl
  all_goals rfl

theorem addEntries_error (d : Dictionary) (h : ¬∀ e ∈ entries, IsEntry e) :
    ∃ r, FirstFlaw entries r ∧ d.addEntries entries = .error r.refusal := by
  induction entries generalizing d
  case nil => exact absurd nofun h
  case cons e rest ih =>
    by_cases proper : IsEntry e
    case neg => exact ⟨_, .here proper, addEntries_cons_of_not_isEntry d proper rest⟩
    case pos =>
      have others : ¬∀ e ∈ rest, IsEntry e := fun others => h (List.forall_mem_cons.mpr ⟨proper, others⟩)
      obtain ⟨name, nonempty, a⟩ := proper
      have ⟨r, first, refused⟩ := ih (d.insert name a) others
      exact ⟨r, .later (.intro name nonempty a) first, (addEntries_cons d nonempty a _).trans refused⟩

theorem ofEntries_ok_iff : (∃ d, ofEntries entries = .ok d) ↔ ∀ e ∈ entries, IsEntry e where
  mp h  := isEntry_of_addEntries h.choose_spec
  mpr h := have ⟨d, added, _⟩ := addEntries_of_isEntry .empty h; ⟨d, added⟩

theorem find?_of_ofEntries (h : ofEntries entries = .ok d) (w : String) :
    d.find? w = latest? entries w := by
  have ⟨d', added, found⟩ := addEntries_of_isEntry .empty (isEntry_of_addEntries h)
  cases added.symm.trans h
  exact (found w).trans Option.or_none

end Dictionary

-- What a machine can be told to do. All but its dictionary can be replaced at any time.
inductive Order
  | step
  | run (fuel : Nat)
  | install (entries : Entries)
  | set (other : Machine)

-- The count is not set back to nothing.
def Order.KeepsCount : Order → Prop
  | .set other => other.state.steps ≠ 0
  | _          => True

namespace Machine

def obey (m : Machine) : Order → Machine
  | .step            => m.step.1
  | .run fuel        => (m.run fuel).1
  | .install entries => (m.install entries).1
  | .set other       =>
    { other with image := { other.image with dictionary := m.image.dictionary } }

def obeyAll (m : Machine) (orders : List Order) : Machine :=
  orders.foldl obey m

def added (m : Machine) : Order → Entries
  | .install entries => if (m.install entries).2.isOk then entries else []
  | _                => []

def addedAll (m : Machine) : List Order → Entries
  | []              => []
  | order :: orders => m.added order ++ (m.obey order).addedAll orders

variable {m : Machine} {entries : Entries}

theorem install_ok_iff (m : Machine) (entries : Entries) :
    (m.install entries).2 = .ok () ↔ m.state.steps = 0 ∧ ∀ e ∈ entries, IsEntry e := by
  rw [← Dictionary.ofEntries_ok_iff]
  simp only [install]
  split
  case isTrue locked    => simp [locked]
  case isFalse unlocked => cases Dictionary.ofEntries entries <;> simp_all

theorem install_error {x : Failure ⊕ Refusal} (h : (m.install entries).2 = .error x) :
    (m.install entries).1 = m ∧
      ((m.state.steps ≠ 0 ∧ x = .inl ⟨.dictionaryLocked, m.state.ip, none, m.state.stack⟩) ∨
        (m.state.steps = 0 ∧ ∃ r, FirstFlaw entries r ∧ x = .inr r.refusal)) := by
  simp only [install] at h ⊢
  split at h
  case isTrue locked =>
    cases h
    simp [locked]
  case isFalse unlocked =>
    rw [if_neg unlocked]
    cases he : Dictionary.ofEntries entries <;> simp only [he] at h ⊢ <;> cases h
    have wrong : ¬∀ e ∈ entries, IsEntry e := by
      rw [← Dictionary.ofEntries_ok_iff, he]
      rintro ⟨_, ⟨⟩⟩
    obtain ⟨r, first, refused⟩ := Dictionary.addEntries_error .empty wrong
    cases he.symm.trans refused
    exact ⟨trivial, .inr ⟨not_not.mp unlocked, r, first, rfl⟩⟩

theorem install_locked (h : m.state.steps ≠ 0) (entries : Entries) : (m.install entries).1 = m := by
  simp [install, h]

theorem find?_install (m : Machine) (entries : Entries) (w : String) :
    (m.install entries).1.image.dictionary.find? w =
      (latest? (m.added (.install entries)) w).or (m.image.dictionary.find? w) := by
  simp only [added, install]
  split
  case isTrue => rfl
  case isFalse =>
    cases he : Dictionary.ofEntries entries
    case error => rfl
    case ok d  =>
      simp only [Table.find?_merge, Dictionary.find?_of_ofEntries he]
      rfl

theorem find?_obey (m : Machine) (order : Order) (w : String) :
    (m.obey order).image.dictionary.find? w =
      (latest? (m.added order) w).or (m.image.dictionary.find? w) := by
  cases order
  case step            => rw [obey, m.step_stepped.image_eq]; rfl
  case run fuel        => rw [obey, m.run_image fuel]; rfl
  case install entries => exact m.find?_install entries w
  case set             => rfl

theorem obey_locked (h : m.state.steps ≠ 0) {order : Order} (keeps : order.KeepsCount) :
    (m.obey order).image.dictionary = m.image.dictionary ∧ (m.obey order).state.steps ≠ 0 := by
  have counted := Nat.pos_of_ne_zero h
  cases order <;> simp only [obey]
  case step =>
    have stepped := m.step_stepped
    exact ⟨congrArg Image.dictionary stepped.image_eq,
      Nat.ne_of_gt (Nat.lt_of_lt_of_le counted stepped.le_steps)⟩
  case run fuel =>
    exact ⟨congrArg Image.dictionary (m.run_image fuel),
      Nat.ne_of_gt (Nat.lt_of_lt_of_le counted (m.le_steps_run fuel))⟩
  case install entries => simp [install_locked h, h]
  case set             => exact ⟨trivial, keeps⟩

theorem find?_obeyAll (m : Machine) (orders : List Order) (w : String) :
    (m.obeyAll orders).image.dictionary.find? w =
      (latest? (m.addedAll orders) w).or (m.image.dictionary.find? w) := by
  induction orders generalizing m
  case nil => rfl
  case cons order orders ih =>
    have rest := ih (m.obey order)
    rw [m.find?_obey, ← Option.or_assoc, ← latest?_append] at rest
    exact rest

theorem obeyAll_locked (h : m.state.steps ≠ 0) {orders : List Order}
    (keeps : ∀ order ∈ orders, order.KeepsCount) :
    (m.obeyAll orders).image.dictionary = m.image.dictionary := by
  induction orders generalizing m
  case nil => rfl
  case cons order orders ih =>
    have ⟨first, others⟩ := List.forall_mem_cons.mp keeps
    have ⟨same, locked⟩ := obey_locked h first
    exact (ih locked others).trans same

theorem load_entries {items : List Item} {setup : Setup} (h : load items entries setup = .ok m) :
    Dictionary.ofEntries entries = .ok m.image.dictionary := by
  have ⟨_, _, h⟩ := exists_ok_of_bind h
  have ⟨_, _, h⟩ := exists_ok_of_bind h
  have ⟨_, known, h⟩ := exists_ok_of_bind h
  cases h
  exact known

end Machine

-- Whatever a machine was told to do, its words are those that it was loaded with and those that were
-- added since, where a later address takes the place of an earlier one. A call adds all its words or none,
-- and none if a step has counted. A call that is refused leaves the machine as it is, and the reason is
-- told unless the value that is wrong is too long to be written.
theorem dictionary_is_fixed_by_first_step {items : List Item} {entries : Entries} {setup : Setup}
    {m : Machine} (h : Machine.load items entries setup = .ok m) (orders : List Order) :
    (∀ words, ((m.obeyAll orders).install words).2 = .ok () ↔
      (m.obeyAll orders).state.steps = 0 ∧ ∀ e ∈ words, IsEntry e) ∧
    (∀ words x, ((m.obeyAll orders).install words).2 = .error x →
      ((m.obeyAll orders).install words).1 = m.obeyAll orders ∧
      (((m.obeyAll orders).state.steps ≠ 0 ∧ ∃ f, x = .inl f ∧ f.fault = .dictionaryLocked) ∨
        ((m.obeyAll orders).state.steps = 0 ∧ ∃ r, FirstFlaw words r ∧
          x = .inr (if r.writable then .invalid r else .unwritable)))) ∧
    (∀ w, (m.obeyAll orders).image.dictionary.find? w = latest? (entries ++ m.addedAll orders) w) ∧
    (∀ fuel, ((m.obeyAll orders).run fuel).1.image = (m.obeyAll orders).image) ∧
    ((m.obeyAll orders).state.steps ≠ 0 → ∀ more, (∀ order ∈ more, order.KeepsCount) →
      (m.obeyAll (orders ++ more)).image.dictionary = (m.obeyAll orders).image.dictionary) := by
  refine ⟨Machine.install_ok_iff _, ?_, ?_, Machine.run_image _, ?_⟩
  · intro words x refused
    have ⟨same, reason⟩ := Machine.install_error refused
    refine ⟨same, reason.imp_left fun ⟨locked, told⟩ => ⟨locked, _, told, rfl⟩⟩
  · intro w
    rw [Machine.find?_obeyAll, Dictionary.find?_of_ofEntries (Machine.load_entries h), latest?_append]
  · intro locked more keeps
    rw [Machine.obeyAll, List.foldl_append]
    exact Machine.obeyAll_locked locked keeps

def waiting : Machine where
  image := ⟨#[.callWord "later", .halt], Table.empty.insert "later" 1⟩
  limit := some 0

theorem waiting_load :
    Machine.load (waiting.image.program.toList.map .instruction) [(.text "later", .int 1)]
      { limit := some 0 } = .ok waiting :=
  rfl

-- The first step is refused and does not count. The stack and the program are replaced with the limit.
-- The second step fails, for the word leads nowhere, and counts.
def delayed : List Order :=
  [.step, .install [(.text "v", .int 0), (.text "", .int 1)], .install [(.text "later", .int 5)],
    .set { image := { program := #[.callWord "later"] }, state := { stack := [3] } }, .step]

theorem not_isEntry_neg {name : String} {n : Int} (h : n < 0) : ¬IsEntry (.text name, .int n) := by
  generalize he : (Datum.text name, Datum.int n) = e
  rintro ⟨_, _, a⟩
  cases he
  omega

theorem firstFlaw_neg {name : String} {n : Int} {r : Rejection} (h : n < 0) (nonempty : name ≠ "")
    (first : FirstFlaw [(.text name, .int n)] r) : r = .wordAddress name (.int n) := by
  cases first
  case here           => simp [flaw, nonempty]
  case later proper _ => exact absurd proper (not_isEntry_neg h)

theorem dictionary_is_fixed_by_first_step_delayed :
    (waiting.obeyAll delayed).state.steps = 1 ∧
    (waiting.obeyAll delayed).image.dictionary.find? "later" = some 5 ∧
    (waiting.obeyAll delayed).image.dictionary.find? "v" = none ∧
    ((waiting.obeyAll delayed).install []).2 ≠ .ok () ∧
    (waiting.install [(.text "w", .int (-tooLong))]).2 = .error (.inr .unwritable) ∧
    ∀ more, (∀ order ∈ more, order.KeepsCount) →
      (waiting.obeyAll (delayed ++ more)).image.dictionary =
        (waiting.obeyAll delayed).image.dictionary := by
  have ⟨installs, _, found, _, fixed⟩ := dictionary_is_fixed_by_first_step waiting_load delayed
  have ⟨begins, refusals, _⟩ := dictionary_is_fixed_by_first_step waiting_load []
  have added : waiting.addedAll delayed = [(.text "later", .int 5)] := rfl
  have counted : (waiting.obeyAll delayed).state.steps = 1 := rfl
  refine ⟨counted, ?_, ?_, ?_, ?_, fixed (by simp [counted])⟩
  · rw [found, added]
    rfl
  · rw [found, added]
    rfl
  · rw [Ne, installs, counted]
    exact fun h => nomatch h.left
  · have far : (-tooLong : Int) < 0 := by
      have := ten_le_tooLong
      omega
    rcases told : (waiting.install [(.text "w", .int (-tooLong))]).2 with x | _
    case ok =>
      have ⟨_, proper⟩ := (begins _).mp told
      exact absurd (proper _ List.mem_cons_self) (not_isEntry_neg far)
    case error =>
      have ⟨_, reason⟩ := refusals _ x told
      obtain ⟨locked, _⟩ | ⟨_, r, first, rfl⟩ := reason
      · exact absurd rfl locked
      · cases firstFlaw_neg far (by decide) first
        have long : isWritable (-tooLong) = false := not_isWritable_of_natAbs (by simp)
        simp [Rejection.writable, Datum.writable, long]

end StackForth
