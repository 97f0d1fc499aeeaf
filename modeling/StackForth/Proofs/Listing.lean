import Mathlib
import StackForth.Listing
import StackForth.Proofs.Legality

/-!
Listings can be read back. The lines of labels and those of instructions are told apart by their first
character, and the text of an instruction is the text of no other. So a listing tells the program, and
which words begin where.
-/

namespace StackForth

namespace Text

def lines (text : String) : List String :=
  (text.toList.splitOn '\n').map String.ofList

def IsLine (text : String) : Prop :=
  '\n' ∉ text.toList

instance (text : String) : Decidable (IsLine text) :=
  inferInstanceAs (Decidable ('\n' ∉ text.toList))

theorem lines_intercalate {ls : List String} (h : ∀ l ∈ ls, IsLine l) (nonempty : ls ≠ []) :
    lines ("\n".intercalate ls) = ls := by
  have unbroken : ∀ l ∈ ls.map String.toList, '\n' ∉ l := List.forall_mem_map.mpr h
  have split := List.splitOn_intercalate '\n' unbroken (mt List.map_eq_nil_iff.mp nonempty)
  rw [lines, String.toList_intercalate]
  have join : "\n".toList = ['\n'] := rfl
  rw [join, split, List.map_map]
  simp [Function.comp_def]

theorem filter_lines_intercalate {ls : List String} (h : ∀ l ∈ ls, IsLine l) (full : "" ∉ ls) :
    (lines ("\n".intercalate ls)).filter (· ≠ "") = ls := by
  by_cases none : ls = []
  case pos => subst none; rfl
  case neg =>
    rw [lines_intercalate h none, List.filter_eq_self]
    exact fun l m => decide_eq_true fun e => full (e ▸ m)

theorem IsLine.append {s t : String} (hs : IsLine s) (ht : IsLine t) : IsLine (s ++ t) := by
  simpa [IsLine] using ⟨hs, ht⟩

theorem isDigit_of_mem_repr {n : Nat} {c : Char} (h : c ∈ (Nat.repr n).toList) : c.isDigit := by
  rw [Nat.repr_eq_ofList_toDigits, String.toList_ofList] at h
  exact Nat.isDigit_of_mem_toDigits (by decide) (by decide) h

theorem isLine_repr (n : Nat) : IsLine (Nat.repr n) :=
  fun h => nomatch isDigit_of_mem_repr h

theorem isLine_decimal (n : Int) : IsLine (decimal n) := by
  cases n
  case ofNat n   => exact isLine_repr n
  case negSucc n => exact IsLine.append (by decide) (isLine_repr (n + 1))

theorem repr_ne_minus (n : Nat) (s : String) : Nat.repr n ≠ "-" ++ s := by
  intro h
  have digit := isDigit_of_mem_repr (n := n) (c := '-') (by simp [h])
  cases digit

theorem decimal_inj {m n : Int} : decimal m = decimal n ↔ m = n := by
  refine ⟨fun h => ?_, congrArg decimal⟩
  cases m <;> cases n <;> simp only [decimal] at h
  case ofNat.ofNat     => rw [Nat.repr_inj.mp h]
  case ofNat.negSucc   => exact absurd h (repr_ne_minus _ _)
  case negSucc.ofNat   => exact absurd h.symm (repr_ne_minus _ _)
  case negSucc.negSucc =>
    have same := Nat.repr_inj.mp ((String.append_right_inj "-").mp h)
    rw [Nat.succ.inj same]

theorem isDigit_of_mem_fourDigits {n : Nat} {c : Char} (h : c ∈ (fourDigits n).toList) :
    c.isDigit := by
  rw [fourDigits, String.toList_ofList, List.leftpad, List.mem_append] at h
  cases h
  case inl h =>
    rw [List.eq_of_mem_replicate h]
    rfl
  case inr h => exact Nat.isDigit_of_mem_toDigits (by decide) (by decide) h

theorem isLine_fourDigits (n : Nat) : IsLine (fourDigits n) :=
  fun h => nomatch isDigit_of_mem_fourDigits h

end Text

theorem append_cons_inj {α : Type} {p : α → Bool} {front front' back back' : List α} {x x' : α}
    (h : ∀ a ∈ front, p a) (h' : ∀ a ∈ front', p a) (hx : p x = false) (hx' : p x' = false)
    (same : front ++ x :: back = front' ++ x' :: back') :
    front = front' ∧ x = x' ∧ back = back' := by
  have start := congrArg (List.takeWhile p) same
  simp only [List.takeWhile_append_of_pos h, List.takeWhile_append_of_pos h', List.takeWhile_cons,
    hx, hx', Bool.false_eq_true, if_false, List.append_nil] at start
  subst start
  simpa using same

theorem Opcode.ofName?_name (op : Opcode) : ofName? op.name = some op := by
  cases op
  case prim p => cases p <;> rfl
  all_goals rfl

theorem Opcode.name_inj {op op' : Opcode} (h : op.name = op'.name) : op = op' :=
  Option.some.inj (op.ofName?_name.symm.trans (h ▸ op'.ofName?_name))

theorem Opcode.not_blank_of_mem_name (op : Opcode) : ∀ c ∈ op.name.toList, Text.isBlank c = false := by
  have name : op.name.toList.all (!Text.isBlank ·) = true := by
    cases op
    case prim p => cases p <;> rfl
    all_goals rfl
  simpa using name

namespace Instruction

def ending (i : Instruction) : List Char :=
  match i.operandText? with
  | some operand => ' ' :: operand.toList
  | none         => []

theorem toList_text (i : Instruction) : i.text.toList = i.opcode.name.toList ++ i.ending := by
  simp only [text, ending]
  cases i.operandText? <;> simp

theorem eq_of_operandText? {i j : Instruction} (op : i.opcode = j.opcode)
    (operand : i.operandText? = j.operandText?) : i = j := by
  cases i <;> cases j <;> cases op <;> simp only [operandText?, Option.some.injEq] at operand
  case prim     => rfl
  case ret      => rfl
  case halt     => rfl
  case push     => rw [Int32.toInt_inj.mp (Text.decimal_inj.mp operand)]
  case jump     => cases Text.decimal_inj.mp operand; rfl
  case ifZero   => cases Text.decimal_inj.mp operand; rfl
  case call     => cases Nat.repr_inj.mp operand; rfl
  case callWord => cases operand; rfl

theorem operandText?_of_ending {i j : Instruction} (h : i.ending = j.ending) :
    i.operandText? = j.operandText? := by
  simp only [ending] at h
  cases hi : i.operandText? <;> cases hj : j.operandText? <;> simp only [hi, hj] at h
  case none.none => rfl
  case none.some => cases h
  case some.none => cases h
  case some.some => rw [String.toList_inj.mp (List.cons.inj h).right]

theorem takeWhile_text (i : Instruction) :
    i.text.toList.takeWhile (!Text.isBlank ·) = i.opcode.name.toList := by
  have stop : i.ending.takeWhile (!Text.isBlank ·) = [] := by
    simp only [ending]
    split <;> rfl
  have name : ∀ c ∈ i.opcode.name.toList, !Text.isBlank c := by
    simpa using i.opcode.not_blank_of_mem_name
  rw [toList_text, List.takeWhile_append_of_pos name, stop, List.append_nil]

theorem text_injective {i j : Instruction} (h : i.text = j.text) : i = j := by
  have name : i.opcode.name.toList = j.opcode.name.toList := by
    rw [← takeWhile_text, h, takeWhile_text]
  have op := Opcode.name_inj (String.toList_inj.mp name)
  have whole := congrArg String.toList h
  rw [toList_text, toList_text, op] at whole
  exact eq_of_operandText? op (operandText?_of_ending (List.append_cancel_left whole))

def Unbroken : Instruction → Prop
  | .callWord w _ => Text.IsLine w
  | _             => True

theorem Unbroken.isLine_text {i : Instruction} (h : i.Unbroken) : Text.IsLine i.text := by
  have name : Text.IsLine i.opcode.name :=
    fun m => nomatch i.opcode.not_blank_of_mem_name _ m
  have space : Text.IsLine " " := by decide
  cases i
  case prim     => exact name
  case ret      => exact name
  case halt     => exact name
  case push     => exact (name.append space).append (Text.isLine_decimal _)
  case jump     => exact (name.append space).append (Text.isLine_decimal _)
  case ifZero   => exact (name.append space).append (Text.isLine_decimal _)
  case call     => exact (name.append space).append (Text.isLine_repr _)
  case callWord => exact (name.append space).append h

end Instruction

namespace Listing

def isLabel (line : String) : Bool :=
  line.toList.head? == some ' '

theorem isLabel_labelLine (name : String) : isLabel (labelLine name) = true := by
  simp [isLabel, labelLine]

theorem isLabel_itemLine (address : Nat) (item : String) :
    isLabel (itemLine address item) = false := by
  have nonempty : (Text.fourDigits address).toList ≠ [] := by
    simp [Text.fourDigits, List.leftpad, Nat.toDigits_ne_nil]
  obtain ⟨c, cs, digits⟩ := List.exists_cons_of_ne_nil nonempty
  have digit : c.isDigit := Text.isDigit_of_mem_fourDigits (by rw [digits]; exact List.mem_cons_self)
  have other : c ≠ ' ' := by
    rintro rfl
    cases digit
  simp [isLabel, itemLine, digits, other]

theorem labelLine_inj {name name' : String} : labelLine name = labelLine name' ↔ name = name' := by
  simp [labelLine]

theorem itemLine_inj {address : Nat} {item item' : String} :
    itemLine address item = itemLine address item' ↔ item = item' := by
  simp [itemLine]

variable {labels labels' : List (String × Int)} {items items' : List String} {address : Nat}

theorem isLabel_of_mem_labelLines {line : String} (h : line ∈ labelLines labels address) :
    isLabel line = true := by
  have ⟨name, _, same⟩ := List.mem_map.mp h
  exact same ▸ isLabel_labelLine name

-- Lines are read one address after the other: labels first, then the item.
theorem lines_inj (h : lines labels address items = lines labels' address items') :
    items = items' ∧
      ∀ k, k < items.length → labelLines labels (address + k) = labelLines labels' (address + k) := by
  induction items generalizing address items'
  case nil =>
    cases items'
    case nil  => exact ⟨rfl, nofun⟩
    case cons => simp [lines] at h
  case cons item items ih =>
    cases items'
    case nil  => simp [lines] at h
    case cons item' items' =>
      -- The first line that is no label is that of the item, whatever labels there are.
      obtain ⟨names, this, rest⟩ := append_cons_inj (p := isLabel) (fun _ => isLabel_of_mem_labelLines)
        (fun _ => isLabel_of_mem_labelLines) (isLabel_itemLine address item)
        (isLabel_itemLine address item') h
      obtain ⟨same, below⟩ := ih rest
      refine ⟨by rw [itemLine_inj.mp this, same], fun k hk => ?_⟩
      cases k
      case zero   => exact names
      case succ k =>
        rw [← Nat.add_assoc, Nat.add_right_comm]
        exact below k (Nat.lt_of_succ_lt_succ hk)

theorem mem_of_labelLines (h : labelLines labels address = labelLines labels' address)
    (name : String) : (name, (address : Int)) ∈ labels ↔ (name, (address : Int)) ∈ labels' := by
  have same := List.map_injective_iff.mpr (fun _ _ => labelLine_inj.mp) h
  have mem (labels : List (String × Int)) :
      (name, (address : Int)) ∈ labels ↔
        name ∈ Text.sorted ((labels.filter fun l => l.2 = (address : Int)).map Prod.fst) := by
    simp [Text.sorted, List.mem_mergeSort]
  rw [mem, mem, same]

theorem countP_range_succ (labels : List (String × Int)) {start stop : Nat} (h : start < stop) :
    labels.countP (fun l => (start : Int) ≤ l.2 ∧ l.2 < (stop : Int)) =
      labels.countP (fun l => l.2 = (start : Int)) +
        labels.countP (fun l => ((start + 1 : Nat) : Int) ≤ l.2 ∧ l.2 < (stop : Int)) := by
  induction labels
  case nil => rfl
  case cons l labels ih =>
    simp only [List.countP_cons, decide_eq_true_eq, ih]
    split_ifs <;> omega

theorem length_labelLines (labels : List (String × Int)) (address : Nat) :
    (labelLines labels address).length = labels.countP fun l => l.2 = (address : Int) := by
  simp [labelLines, Text.sorted, List.countP_eq_length_filter]

theorem length_lines (labels : List (String × Int)) {stop : Nat}
    (h : stop = address + items.length) :
    (lines labels address items).length =
      items.length + labels.countP fun l => (address : Int) ≤ l.2 ∧ l.2 < (stop : Int) := by
  induction items generalizing address
  case nil =>
    have none : labels.countP (fun l => (address : Int) ≤ l.2 ∧ l.2 < (stop : Int)) = 0 :=
      List.countP_eq_zero.mpr fun l _ => by simp [h]
    rw [none]
    rfl
  case cons item items ih =>
    rw [List.length_cons] at h
    rw [countP_range_succ labels (by omega), lines, List.length_append, length_labelLines,
      List.length_cons, ih (by omega), List.length_cons]
    omega

theorem not_mem_lines (labels : List (String × Int)) (address : Nat) (items : List String) :
    "" ∉ lines labels address items := by
  induction items generalizing address
  case nil => nofun
  case cons item items ih =>
    rw [lines, List.mem_append, List.mem_cons]
    rintro (label | this | later)
    · cases isLabel_of_mem_labelLines label
    · have spaces := congrArg String.toList this
      simp [itemLine] at spaces
    · exact ih (address + 1) later

theorem isLine_of_mem_lines {line : String} (names : ∀ l ∈ labels, Text.IsLine l.1)
    (unbroken : ∀ item ∈ items, Text.IsLine item) (h : line ∈ lines labels address items) :
    Text.IsLine line := by
  induction items generalizing address
  case nil => cases h
  case cons item items ih =>
    rw [List.forall_mem_cons] at unbroken
    rw [lines, List.mem_append, List.mem_cons] at h
    obtain label | this | later := h
    case inl =>
      obtain ⟨name, m, same⟩ := List.mem_map.mp label
      obtain ⟨l, known, own⟩ := List.mem_map.mp (List.mem_mergeSort.mp m)
      have name : Text.IsLine name := own ▸ names l (List.mem_filter.mp known).left
      exact same ▸ (Text.IsLine.append (by decide) name).append (by decide)
    case inr.inl =>
      have digits := Text.isLine_fourDigits address
      exact this ▸ (digits.append (by decide)).append unbroken.left
    case inr.inr => exact ih unbroken.right later

end Listing

def Program.lines (p : Program) (d : Table Int) : List String :=
  Listing.lines d.entries 0 (p.toList.map Instruction.text)

def Program.listing (p : Program) (d : Table Int) : String :=
  Listing.ofItems (p.toList.map Instruction.text) d.entries

structure Program.Legible (p : Program) (d : Table Int) : Prop where
  program    : ∀ i ∈ p, i.Unbroken
  dictionary : ∀ name ∈ d.names, Text.IsLine name

theorem Table.find?_eq_some_iff {α : Type} {t : Table α} {name : String} {a : α} :
    t.find? name = some a ↔ (name, a) ∈ t.entries := by
  refine ⟨mem_of_find?, fun m => ?_⟩
  obtain ⟨front, back, split⟩ := List.append_of_mem m
  have nodup := t.nodup
  rw [split, List.map_append, List.map_cons] at nodup
  have fresh : name ∉ front.map Prod.fst :=
    fun m => (List.nodup_append.mp nodup).right.right name m name List.mem_cons_self rfl
  refine List.lookup_eq_some_iff.mpr ⟨front, back, split, fun e m => ?_⟩
  have other : name ≠ e.1 := fun same => fresh (same ▸ List.mem_map_of_mem m)
  simpa using other

theorem Program.length_lines (p : Program) (d : Table Int) :
    (p.lines d).length = p.size + d.entries.countP fun e => 0 ≤ e.2 ∧ e.2 < (p.size : Int) := by
  have stop : p.size = 0 + (p.toList.map Instruction.text).length := by simp
  rw [lines, Listing.length_lines d.entries stop, List.length_map, Array.length_toList]
  rfl

namespace Program.Legible

variable {p q : Program} {d e : Table Int}

theorem isLine (h : p.Legible d) : ∀ line ∈ p.lines d, Text.IsLine line := by
  intro line m
  refine Listing.isLine_of_mem_lines (fun l m => h.dictionary l.1 (List.mem_map_of_mem m)) ?_ m
  intro item m
  have ⟨i, m, text⟩ := List.mem_map.mp m
  exact text ▸ (h.program i (Array.mem_toList_iff.mp m)).isLine_text

theorem length_lines_listing (h : p.Legible d) (nonempty : p ≠ #[]) :
    (Text.lines (p.listing d)).length =
      p.size + d.entries.countP fun e => 0 ≤ e.2 ∧ e.2 < (p.size : Int) := by
  rw [← p.length_lines d]
  refine congrArg List.length (Text.lines_intercalate h.isLine fun none => nonempty ?_)
  have length := p.length_lines d
  rw [lines, none] at length
  exact Array.eq_empty_of_size_eq_zero (Nat.eq_zero_of_add_eq_zero_right length.symm)

theorem lines_of_listing (h : p.Legible d) (h' : q.Legible e) (same : p.listing d = q.listing e) :
    p.lines d = q.lines e := by
  have lines {p : Program} {d : Table Int} (h : p.Legible d) :
      (Text.lines (p.listing d)).filter (· ≠ "") = p.lines d :=
    Text.filter_lines_intercalate h.isLine (Listing.not_mem_lines _ _ _)
  rw [← lines h, ← lines h', same]

theorem of_listing (h : p.Legible d) (h' : q.Legible e) (same : p.listing d = q.listing e) :
    p = q ∧ ∀ a, a < p.size → ∀ name,
      d.find? name = some (a : Int) ↔ e.find? name = some (a : Int) := by
  have ⟨items, labels⟩ := Listing.lines_inj (lines_of_listing h h' same)
  have instructions := List.map_injective_iff.mpr (fun _ _ => Instruction.text_injective) items
  refine ⟨Array.toList_inj.mp instructions, fun a ha name => ?_⟩
  have shown : Listing.labelLines d.entries (0 + a) = Listing.labelLines e.entries (0 + a) :=
    labels a (by simpa using ha)
  rw [Nat.zero_add] at shown
  rw [Table.find?_eq_some_iff, Table.find?_eq_some_iff]
  exact Listing.mem_of_labelLines shown name

end Program.Legible

theorem Text.isLine_of_unbroken {token : String} (h : ∀ c ∈ token.toList, isBlank c = false) :
    IsLine token :=
  fun m => nomatch h _ m

theorem Denotes.unbroken {token : String} {t : Term} (h : Denotes token t) (line : Text.IsLine token) :
    t.instruction.Unbroken := by
  cases h
  case literal   => trivial
  case primitive => trivial
  case word      => exact line

namespace Assembler

structure Legible (a : Assembler) : Prop where
  main   : ∀ i ∈ a.main, i.Unbroken
  bodies : ∀ word ∈ a.bodies.entries, ∀ i ∈ word.2, i.Unbroken
  body   : ∀ name body, a.mode = .defining name body → ∀ i ∈ body, i.Unbroken

namespace Legible

variable {a b : Assembler} {token : String}

theorem fresh : Legible {} where
  main   := nofun
  bodies := nofun
  body   := nofun

theorem push {p : Program} {i : Instruction} (hp : ∀ i ∈ p, i.Unbroken) (hi : i.Unbroken) :
    ∀ j ∈ p.push i, j.Unbroken := by
  intro j m
  cases Array.mem_push.mp m
  case inl m    => exact hp j m
  case inr same => exact same ▸ hi

theorem takes (h : a.Legible) (nonempty : token ≠ "") (line : Text.IsLine token)
    (ht : a.Takes token b) : b.Legible := by
  have item {t : Term} (ht : Term.ofToken? token = some t) : t.instruction.Unbroken :=
    (Denotes.of_ofToken? nonempty ht).unbroken line
  cases ht
  case colon => exact ⟨h.main, h.bodies, nofun⟩
  case name =>
    refine ⟨h.main, h.bodies, fun _ _ he => ?_⟩
    cases he
    nofun
  case outer ht => exact ⟨push h.main (item ht), h.bodies, h.body⟩
  case inner hm _ _ ht =>
    refine ⟨h.main, h.bodies, fun _ _ he => ?_⟩
    cases he
    exact push (h.body _ _ hm) (item ht)
  case semicolon hm =>
    refine ⟨h.main, fun word m => ?_, nofun⟩
    cases List.mem_append.mp m
    case inl m => exact h.bodies word (List.mem_filter.mp m).left
    case inr m => exact List.mem_singleton.mp m ▸ push (h.body _ _ hm) trivial

theorem feed {text : String} (h : a.Legible) (ha : a.feed text = (b, .ok ())) : b.Legible := by
  have ⟨_, ha⟩ := feed_ok_iff.mp ha
  refine feedTokens_invariant (fun _ _ h => ⟨h.main, h.bodies, h.body⟩) ?_ h ha
  intro a token b m h ht
  have ⟨nonempty, unbroken⟩ := Text.mem_tokens m
  exact h.takes nonempty (Text.isLine_of_unbroken unbroken) ht

end Legible

end Assembler

namespace Layout

variable {words : List (String × Program)}

theorem le_of_mem_addresses {start : Nat} {e : String × Nat} (h : e ∈ addresses start words) :
    start ≤ e.2 := by
  induction words generalizing start
  case nil => cases h
  case cons word words ih =>
    cases List.mem_cons.mp h
    case inl first => exact Nat.le_of_eq (first ▸ rfl)
    case inr later => exact Nat.le_trans (Nat.le_add_right _ _) (ih later)

-- No two words begin at the same address, since no body is empty.
theorem pairwise_addresses (h : ∀ word ∈ words, 0 < word.2.size) (start : Nat) :
    (addresses start words).Pairwise (·.2 < ·.2) := by
  induction words generalizing start
  case nil => exact .nil
  case cons word words ih =>
    rw [List.forall_mem_cons] at h
    refine .cons (fun e m => ?_) (ih h.right _)
    exact Nat.lt_of_lt_of_le (Nat.lt_add_of_pos_right h.left) (le_of_mem_addresses m)

end Layout

def Dictionary.signed (d : Dictionary) : Table Int :=
  ⟨d.labels, by simpa [labels, Function.comp_def] using d.nodup⟩

namespace Image

-- Everything about the image shows in its listing, the order of its words included.
structure Listed (image : Image) : Prop where
  legible : image.program.Legible image.dictionary.signed
  inside  : ∀ e ∈ image.dictionary.entries, e.2 < image.program.size
  rising  : image.dictionary.entries.Pairwise (·.2 < ·.2)

namespace Listed

variable {i j : Image}

theorem mem_iff (d : Dictionary) (name : String) (a : Nat) :
    d.signed.find? name = some (a : Int) ↔ (name, a) ∈ d.entries := by
  simp only [Table.find?_eq_some_iff, Dictionary.signed, Dictionary.labels, List.mem_map, Prod.mk.injEq,
    Int.ofNat_inj]
  constructor
  case mpr => exact fun m => ⟨_, m, rfl, rfl⟩
  case mp  =>
    rintro ⟨_, m, rfl, rfl⟩
    exact m

theorem of_listing (h : i.Listed) (h' : j.Listed) (same : i.listing = j.listing) : i = j := by
  have ⟨program, names⟩ := h.legible.of_listing h'.legible same
  have mem (e : String × Nat) : e ∈ i.dictionary.entries ↔ e ∈ j.dictionary.entries := by
    have iff (ha : e.2 < i.program.size) := names e.2 ha e.1
    simp only [mem_iff] at iff
    refine ⟨fun m => (iff (h.inside e m)).mp m, fun m => (iff ?_).mpr m⟩
    exact program ▸ h'.inside e m
  have nodup (d : Dictionary) : d.entries.Nodup :=
    List.Pairwise.of_map Prod.fst (fun _ _ other same => other (congrArg Prod.fst same)) d.nodup
  have perm := (List.perm_ext_iff_of_nodup (nodup _) (nodup _)).mpr mem
  have entries := perm.eq_of_pairwise (fun _ _ _ _ lt gt => absurd lt (Nat.lt_asymm gt)) h.rising
    h'.rising
  cases i
  cases j
  cases program
  cases Table.ext_entries entries
  rfl

theorem of_assemble {text : String} (h : assemble text = .ok i) : i.Listed := by
  have ⟨a, fed, final⟩ := Assembler.assemble_eq_ok_iff.mp h
  have ⟨_, _, image⟩ := Assembler.finalize_ok_iff.mp final
  have legible := Assembler.Legible.fresh.feed fed
  have named : a.Named := by
    refine Assembler.Named.feed (Assembler.Named.ofWords ?_) fed
    nofun
  have wf : a.WellFormed := by
    have wf := (Assembler.WellFormed.ofWords .empty).feed text
    rwa [fed] at wf
  subst image
  refine ⟨⟨fun i m => ?_, fun name m => ?_⟩, fun e m => ?_, ?_⟩
  · rw [← Array.mem_toList_iff, layout_program_toList, List.mem_append, List.mem_cons] at m
    obtain m | halt | m := m
    case inl     => exact legible.main i (Array.mem_toList_iff.mp m)
    case inr.inl => exact halt ▸ trivial
    case inr.inr =>
      have ⟨word, known, m⟩ := List.mem_flatMap.mp m
      exact legible.bodies word known i (Array.mem_toList_iff.mp m)
  · have names : (layout a.main a.bodies).dictionary.signed.names = a.bodies.names := by
      rw [← layout_dictionary_names a.main]
      simp [Dictionary.signed, Dictionary.labels, Table.names, Function.comp_def]
    exact Text.isLine_of_unbroken (named.bodies name (names ▸ m)).unbroken
  · have legal := layout_legal wf.main wf.bodies.closed
    exact (legal.words e.1 e.2 (Table.find?_eq_some_iff.mpr m)).right
  · refine Layout.pairwise_addresses (fun word m => ?_) _
    rw [← Array.length_toList, wf.bodies.closed word m]
    simp

end Listed

end Image

-- The listing of a program is made whatever the addresses are, unless an operand is too long to be
-- written, and the program can be read back from it. So can the words that begin inside the program, and
-- for an assembled image these are all words.
theorem listing_determines_program {p q : Program} {d e : Table Int} (hp : p.Legible d)
    (hq : q.Legible e) :
    Listing.ofUnchecked (p.toList.map .instruction) (d.entries.map fun l => (.text l.1, .int l.2)) =
      (if p.toList.all Instruction.writable then .ok (p.listing d) else .error .unwritable) ∧
    (p.listing d = q.listing e →
      p = q ∧ ∀ a, a < p.size → ∀ name,
        d.find? name = some (a : Int) ↔ e.find? name = some (a : Int)) ∧
    (∀ {s t : String} {i j : Image}, assemble s = .ok i → assemble t = .ok j →
      i.listing = j.listing → i = j) ∧
    (p ≠ #[] →
      (Text.lines (p.listing d)).length =
        p.size + d.entries.countP fun l => 0 ≤ l.2 ∧ l.2 < (p.size : Int)) :=
  ⟨Listing.ofUnchecked_map d.entries _, hp.of_listing hq,
    fun hi hj => (Image.Listed.of_assemble hi).of_listing (.of_assemble hj), hp.length_lines_listing⟩

def posing : Program :=
  #[.push (-7), .callWord "0001  HALT", .halt]

def labelled : Table Int where
  entries := [("HALT", 1), ("a b:", 1), ("far", 12), ("c", 0)]
  nodup   := by decide

def shuffled : Table Int where
  entries := [("c", 0), ("HALT", 1), ("near", -1), ("a b:", 1)]
  nodup   := by decide

theorem posing_unbroken : ∀ i ∈ posing, i.Unbroken := by
  have word : Text.IsLine "0001  HALT" := by decide
  simp [posing, Instruction.Unbroken, word]

theorem listing_determines_program_shuffled :
    posing.listing labelled = posing.listing shuffled ∧
    (∀ a : Nat, a < 3 → ∀ name,
      labelled.find? name = some (a : Int) ↔ shuffled.find? name = some (a : Int)) ∧
    (Text.lines (posing.listing labelled)).length = 6 := by
  have same : posing.listing labelled = posing.listing shuffled := rfl
  obtain ⟨_, read, _, length⟩ := listing_determines_program (p := posing) (q := posing) (d := labelled)
    (e := shuffled) ⟨posing_unbroken, by decide⟩ ⟨posing_unbroken, by decide⟩
  exact ⟨same, (read same).right, length nofun⟩

end StackForth
