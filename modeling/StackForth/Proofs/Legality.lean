import StackForth.Proofs.Oblivious
import StackForth.Proofs.Requests

namespace StackForth

theorem getElem?_append_cons_iff {α : Type} {front back : List α} {x : α} (hf : x ∉ front)
    (hb : x ∉ back) {k : Nat} : (front ++ x :: back)[k]? = some x ↔ k = front.length := by
  constructor
  case mpr => rintro rfl; simp
  case mp =>
    intro h
    rcases Nat.lt_trichotomy k front.length with before | same | behind
    · rw [List.getElem?_append_left before] at h
      exact absurd (List.mem_of_getElem? h) hf
    · exact same
    · obtain ⟨j, rfl⟩ := Nat.exists_eq_add_of_lt behind
      rw [Nat.add_assoc, List.getElem?_append_right (Nat.le_add_right _ _), Nat.add_sub_cancel_left,
        List.getElem?_cons_succ] at h
      exact absurd (List.mem_of_getElem? h) hb

namespace Image

structure Legal (image : Image) (halt : Nat) : Prop where
  only  : ∀ k, image.program[k]? = some .halt ↔ k = halt
  words : ∀ w a, image.dictionary.find? w = some a → halt < a ∧ a < image.program.size

variable {main : Program} {words : Table Program}

theorem layout_legal (hm : main.Plain) (hw : ∀ word ∈ words.entries, word.2.IsBody) :
    (layout main words).Legal main.size where
  only k := by
    have absent : .halt ∉ words.entries.flatMap (·.2.toList) := by
      intro m
      have ⟨word, known, m⟩ := List.mem_flatMap.mp m
      have absent : Instruction.halt ∉ word.2 := (hw word known).not_mem rfl nofun
      exact absent (Array.mem_toList_iff.mp m)
    have main : .halt ∉ main.toList := mt Array.mem_toList_iff.mp (hm.not_mem rfl)
    rw [← Array.getElem?_toList, layout_program_toList, getElem?_append_cons_iff main absent,
      Array.length_toList]
  words w a h := by
    have known : w ∈ words.names := by
      rw [← layout_dictionary_names main, ← Table.isSome_find?_iff, h]
      rfl
    have ⟨body, hb⟩ := Option.isSome_iff_exists.mp (Table.isSome_find?_iff.mpr known)
    have ⟨a', ha, behind, code⟩ := Layout.lookup_addresses hb (main.push .halt)
    rw [Array.size_push] at ha behind
    cases h.symm.trans ha
    rw [hw _ (Table.mem_of_find? hb)] at code
    exact ⟨behind, code.lt_size⟩

end Image

theorem Table.mem_names_define {α : Type} {t : Table α} {name other : String} {a : α} :
    other ∈ (t.define name a).names ↔ other ∈ t.names ∨ other = name := by
  rw [names_define, List.mem_append, List.mem_filter, List.mem_singleton]
  by_cases h : other = name <;> simp [h]

theorem Dictionary.addEntries_nameless (d : Dictionary) {entries : List (String × Nat)}
    (h : "" ∈ entries.map Prod.fst) :
    d.addEntries (entries.map fun e => (.text e.1, .int e.2)) =
      .error (.invalid (.wordName (.text ""))) := by
  induction entries generalizing d
  case nil => cases h
  case cons e entries ih =>
    simp only [List.map_cons, addEntries]
    split
    case isTrue unnamed => rw [unnamed]; rfl
    case isFalse named  =>
      have later : "" ∈ entries.map Prod.fst := by simpa [Ne.symm named] using h
      exact ih (d.insert e.1 e.2) later

theorem Machine.boot_nameless {image : Image} {setup : Setup} {stack : List Int}
    (h : "" ∈ image.dictionary.names) (hs : Load.stack [] setup.cells = .ok stack) :
    boot image setup = .error (.invalid (.wordName (.text ""))) := by
  have refused : Dictionary.ofEntries image.dictionary.toEntries =
      .error (.invalid (.wordName (.text ""))) :=
    Dictionary.addEntries_nameless .empty h
  simp only [boot, load, Load.instructions_map, hs, refused]
  rfl

namespace Assembler

variable {a b : Assembler} {token : String} {r : Request} {requests : List Request}

-- The code that has been put together is as it should be, whatever the names are.
structure Sound (a : Assembler) : Prop where
  main   : a.main.Plain
  bodies : ∀ word ∈ a.bodies.entries, word.2.IsBody
  body   : ∀ name body, a.mode = .defining name body → body.Plain

namespace Sound

theorem ofWords {words : Table Program} (h : ∀ word ∈ words.entries, word.2.IsBody) :
    Sound { bodies := words } where
  main   := Program.plain_empty
  bodies := h
  body   := nofun

theorem takes (h : a.Sound) (ht : a.Takes token b) : b.Sound := by
  cases ht
  case colon => exact ⟨h.main, h.bodies, nofun⟩
  case name =>
    refine ⟨h.main, h.bodies, fun _ _ he => ?_⟩
    cases he
    exact Program.plain_empty
  case outer t _ _ _ _ => exact ⟨h.main.push t, h.bodies, h.body⟩
  case inner t hm _ _ _ =>
    refine ⟨h.main, h.bodies, fun _ _ he => ?_⟩
    cases he
    exact (h.body _ _ hm).push t
  case semicolon hm =>
    refine ⟨h.main, fun word m => ?_, nofun⟩
    cases List.mem_append.mp m
    case inl m => exact h.bodies word (List.mem_filter.mp m).left
    case inr m => exact List.mem_singleton.mp m ▸ (h.body _ _ hm).isBody

theorem kept (tokens : List String) : Keeps Sound tokens where
  count _ _ h       := ⟨h.main, h.bodies, h.body⟩
  takes _ _ _ _ _ h := h.takes
  empty _ h _ _     := ⟨Program.plain_empty, Table.WellFormed.empty.closed, h.body⟩
  unname a h := by
    simp only [unnamed]
    split
    case isFalse => exact h
    case isTrue =>
      refine ⟨h.main, h.bodies, fun _ _ he => ?_⟩
      cases he

theorem serve (h : a.Sound) (requests : List Request) : (a.serve requests).1.Sound := by
  induction requests generalizing a
  case nil => exact h
  case cons r _ ih => exact ih ((kept r.tokens).answer h)

end Sound

-- A word has no name, or the word whose definition is open has none.
def Nameless (a : Assembler) : Prop :=
  "" ∈ a.bodies.names ∨ ∃ body, a.mode = .defining "" body

-- One of the requests is an empty token, and it comes when a name is expected.
def NamesNothing (a : Assembler) : List Request → Prop
  | []            => False
  | r :: requests =>
    (r = .token "" ∧ a.mode = .naming) ∨ (a.answer r).1.NamesNothing requests

instance decidableNamesNothing :
    (a : Assembler) → (requests : List Request) → Decidable (a.NamesNothing requests)
  | _, []            => inferInstanceAs (Decidable False)
  | a, r :: requests =>
    have := decidableNamesNothing (a.answer r).1 requests
    inferInstanceAs (Decidable (_ ∨ _))

theorem not_nameless_fresh : ¬Nameless {} := by
  rintro (m | ⟨body, hm⟩)
  case inl => cases m
  case inr => cases hm

theorem Takes.nameless_iff (h : a.Takes token b) (named : token ≠ "") :
    b.Nameless ↔ a.Nameless := by
  cases h
  case colon hm       => simp [Nameless, hm]
  case name hm _      => simp [Nameless, hm, named]
  case outer          => rfl
  case inner hm _ _ _ => simp [Nameless, hm]
  case semicolon name body hm =>
    simp [Nameless, define, Table.mem_names_define, hm, @eq_comm _ ""]

-- Tokens that are not empty change nothing about it, as long as the image is not laid out.
theorem nameless_kept {tokens : List String} (named : "" ∉ tokens) (Q : Prop) :
    Keeps (fun a => a.finalized = false → (a.Nameless ↔ Q)) tokens where
  count _ _ h                    := h
  empty _ _ _ _                  := nofun
  takes a token b m ho h taken _ := (taken.nameless_iff fun e => named (e ▸ m)).trans (h ho)
  unname a h ho := by
    simp only [unnamed] at ho ⊢
    split at ho
    case isTrue hm  => simpa [Nameless, hm] using h ho
    case isFalse hm => simpa only [if_neg hm] using h ho

theorem feedToken_empty (ho : a.finalized = false) :
    (a.feedToken "").1 = if a.mode = .naming then { a with mode := .defining "" #[] } else a := by
  have name : nameComplaint? "" = none := by decide
  have item : a.item "" = .error (.refused (.invalid (.wordOperand (.text "")))) := rfl
  cases hm : a.mode <;> simp [feedToken, ho, hm, name, item]

theorem answer_nameless_iff (h : (a.answer r).1.finalized = false) :
    (a.answer r).1.Nameless ↔ a.Nameless ∨ (r = .token "" ∧ a.mode = .naming) := by
  have ho : a.finalized = false := by
    cases hf : a.finalized
    case false => rfl
    case true  => rwa [answer_of_finalized hf, hf] at h
  by_cases empty : r = .token ""
  case pos =>
    subst empty
    simp only [answer, feedToken_empty ho, true_and]
    split
    case isTrue hm  => simp [Nameless, hm]
    case isFalse hm => simp [hm]
  case neg =>
    have named : "" ∉ r.tokens := by
      intro m
      cases r
      case feed        => exact (Text.mem_tokens m).left rfl
      case parse       => exact (Text.mem_tokens m).left rfl
      case token       => exact empty (List.mem_singleton.mp m ▸ rfl)
      case definitions => cases m
      case finalize    => cases m
    simpa [empty] using (nameless_kept named a.Nameless).answer (fun _ => Iff.rfl) h

theorem serve_nameless_iff (h : (a.serve requests).1.finalized = false) :
    (a.serve requests).1.Nameless ↔ a.Nameless ∨ a.NamesNothing requests := by
  induction requests generalizing a
  case nil => simp [serve, NamesNothing]
  case cons r requests ih =>
    simp only [serve] at h ⊢
    have ho : (a.answer r).1.finalized = false := by
      cases hf : (a.answer r).1.finalized
      case false => rfl
      case true  => rwa [serve_of_finalized hf, hf] at h
    rw [ih h, answer_nameless_iff ho, NamesNothing, or_assoc]

end Assembler

-- However an image is come by, its words are in place, and a machine takes it unless a definition was
-- given an empty name.
theorem assembled_image_loads_unless_nameless {requests : List Request} {image : Image}
    (h : (Assembler.serve {} requests).1.finalize.2 = .ok image) (limit : Option Int)
    (tracing : Bool) :
    (∃ halt, image.Legal halt) ∧
    (¬Assembler.NamesNothing {} requests →
      ∃ m, Machine.boot image { limit, tracing } = .ok m ∧ m.image = image) ∧
    (Assembler.NamesNothing {} requests →
      Machine.boot image { limit, tracing } = .error (.invalid (.wordName (.text "")))) := by
  have ⟨ho, hm, hi⟩ := Assembler.finalize_ok_iff.mp h
  have sound := Assembler.Sound.ofWords Table.WellFormed.empty.closed |>.serve requests
  have nameless : "" ∈ image.dictionary.names ↔ Assembler.NamesNothing {} requests := by
    have served := Assembler.serve_nameless_iff ho
    rw [or_iff_right Assembler.not_nameless_fresh] at served
    rw [hi, Image.layout_dictionary_names]
    simpa [Assembler.Nameless, hm] using served
  refine ⟨⟨_, hi ▸ Image.layout_legal sound.main sound.bodies⟩, ?_, ?_⟩
  · intro named
    have proper : ∀ name ∈ image.dictionary.names, name ≠ "" :=
      fun name m e => named (nameless.mp (e ▸ m))
    rw [Machine.boot_eq proper]
    exact ⟨_, rfl, rfl⟩
  · exact fun empty => Machine.boot_nameless (nameless.mpr empty) rfl

def recovering : List Request :=
  [.feed ": dup", .feed ": sq dup * ; :", .finalize, .token "two", .feed "2 : ;", .token ";", .token "",
    .feed "7 dup"]

def recovered : Image :=
  .layout #[.push 7, .prim .dup]
    (Table.empty.define "sq" #[.prim .dup, .prim .mul, .ret] |>.define "two" #[.push 2, .ret])

def nameless : List Request :=
  [.token ":", .token "", .token ";"]

theorem recovering_finalize : (Assembler.serve {} recovering).1.finalize.2 = .ok recovered := rfl

theorem nameless_finalize :
    (Assembler.serve {} nameless).1.finalize.2 =
      .ok (.layout #[] (Table.empty.define "" #[.ret])) := rfl

theorem assembled_image_loads_unless_nameless_recovering :
    (∃ m, Machine.boot recovered { limit := some 9 } = .ok m ∧ m.image = recovered) ∧
    (∃ halt, recovered.Legal halt) ∧
    Assembler.NamesNothing {} nameless ∧
    Machine.boot (.layout #[] (Table.empty.define "" #[.ret])) { limit := some 9 } =
      .error (.invalid (.wordName (.text ""))) := by
  have ⟨legal, named, _⟩ := assembled_image_loads_unless_nameless recovering_finalize (some 9) false
  have ⟨_, _, refused⟩ := assembled_image_loads_unless_nameless nameless_finalize (some 9) false
  exact ⟨named (by decide +kernel), legal, by decide, refused (by decide)⟩

end StackForth
