import StackForth.Proofs.Evaluation

namespace StackForth

namespace Program

-- The instructions stand in the program one behind the other, from an address on.
def Holds (p : Program) : Nat → List Instruction → Prop
  | _,  []        => True
  | ip, i :: code => p[ip]? = some i ∧ p.Holds (ip + 1) code

variable {p : Program} {ip : Nat} {code : List Instruction}

theorem Holds.of_getElem? (h : ∀ k, k < code.length → p[ip + k]? = code[k]?) : p.Holds ip code := by
  induction code generalizing ip
  case nil => trivial
  case cons i code ih =>
    refine ⟨h 0 (Nat.zero_lt_succ _), ih fun k hk => ?_⟩
    have := h (k + 1) (Nat.succ_lt_succ hk)
    rwa [Nat.add_comm k 1, ← Nat.add_assoc, Nat.add_comm 1 k, List.getElem?_cons_succ] at this

theorem Holds.lt_size {i : Instruction} (h : p.Holds ip (code ++ [i])) : ip < p.size := by
  cases code <;> exact (Array.getElem?_eq_some_iff.mp h.left).1

end Program

namespace Layout

theorem getElem?_append (p : Program) (words : List (String × Program)) {i : Nat}
    (h : i < p.size) : (append p words)[i]? = p[i]? := by
  induction words generalizing p
  case nil => rfl
  case cons word words ih =>
    have hs : i < (p ++ word.2).size := by simp; omega
    simp only [append, List.foldl_cons] at ih ⊢
    rw [ih (p ++ word.2) hs, Array.getElem?_append_left h]

theorem toList_append (p : Program) (words : List (String × Program)) :
    (append p words).toList = p.toList ++ words.flatMap (·.2.toList) := by
  induction words generalizing p
  case nil => simp [append]
  case cons word words ih =>
    simp only [append, List.foldl_cons] at ih ⊢
    simp [ih]

theorem lookup_addresses_append (start : Nat) {front : List (String × Program)} {name : String}
    (body : Program) (back : List (String × Program)) (h : name ∉ front.map Prod.fst) :
    (addresses start (front ++ (name, body) :: back)).lookup name =
      some (start + (front.flatMap (·.2.toList)).length) := by
  induction front generalizing start
  case nil => simp [addresses]
  case cons word front ih =>
    simp only [List.map_cons, List.mem_cons, not_or] at h
    rw [List.flatMap_cons, List.length_append, Array.length_toList, ← Nat.add_assoc,
      ← ih (start + word.2.size) h.right]
    simp [addresses, Table.lookup_cons, h.left]

theorem lookup_addresses {words : List (String × Program)} {name : String} {body : Program}
    (h : words.lookup name = some body) (p : Program) :
    ∃ a, (addresses p.size words).lookup name = some a ∧ p.size ≤ a ∧
      (append p words).Holds a body.toList := by
  induction words generalizing p
  case nil => simp at h
  case cons word words ih =>
    rw [Table.lookup_cons] at h
    split at h
    case isTrue hn =>
      cases h
      refine ⟨p.size, by simp [addresses, hn], Nat.le_refl _, ?_⟩
      refine Program.Holds.of_getElem? fun k hk => ?_
      have hs : p.size + k < (p ++ word.2).size := by simpa using hk
      have := getElem?_append (p ++ word.2) words hs
      simpa [append, Array.getElem?_append_right] using this
    case isFalse hn =>
      obtain ⟨a, ha, hs, hb⟩ := ih h (p ++ word.2)
      rw [Array.size_append] at ha hs
      exact ⟨a, by simpa [addresses, Table.lookup_cons, hn] using ha, by omega, hb⟩

-- In front of a body stands the return of another one, or what ends the program before the bodies.
theorem getElem?_pred_of_lookup {words : List (String × Program)} {name : String} {a : Nat}
    (hw : ∀ word ∈ words, word.2.IsBody) {p : Program}
    (hp : p.back? = some .ret ∨ p.back? = some .halt)
    (h : (addresses p.size words).lookup name = some a) :
    (append p words)[a - 1]? = some .ret ∨ (append p words)[a - 1]? = some .halt := by
  induction words generalizing p
  case nil => simp [addresses] at h
  case cons word words ih =>
    -- What the next body is placed behind ends with the return of this one.
    have hb : (p ++ word.2).back? = some .ret := by
      have hr : word.2.back? = some .ret := by
        rw [← Array.getLast?_toList, hw word List.mem_cons_self, List.getLast?_concat]
      rw [Array.back?_append, hr, Option.some_or]
    rw [addresses, Table.lookup_cons] at h
    split at h
    case isTrue =>
      cases h
      have hn : p ≠ #[] := fun hn => by simp [hn] at hp
      have hs : p.size - 1 < p.size := Nat.sub_one_lt (by simpa using hn)
      rwa [getElem?_append _ _ hs, ← Array.back?_eq_getElem?]
    case isFalse =>
      rw [← Array.size_append] at h
      exact ih (fun w hm => hw w (List.mem_cons_of_mem _ hm)) (.inl hb) h

end Layout

namespace Image

-- The image has a word at an address behind its main part exactly where the vocabulary defines it, and
-- there stands its definition with a return. The halt behind the main part stands at `halt`.
structure Implements (image : Image) (halt : Nat) (v : Vocabulary) : Prop where
  known   : ∀ w body, v w = some body → ∃ a, image.dictionary.find? w = some a ∧ halt < a ∧
              image.program.Holds a (body.map Term.instruction ++ [.ret])
  unknown : ∀ w, v w = none → image.dictionary.find? w = none

-- A word begins behind a return or behind the halt.
def Fenced (image : Image) : Prop :=
  ∀ w a, image.dictionary.find? w = some a →
    image.program[a - 1]? = some .ret ∨ image.program[a - 1]? = some .halt

variable {main : Program} {words : Table Program}

theorem layout_dictionary_names (main : Program) (words : Table Program) :
    (layout main words).dictionary.names = words.names :=
  Layout.names_addresses _ _

theorem layout_implements (main : Program) (h : words.WellFormed) :
    (layout main words).Implements main.size words.vocabulary where
  known w terms hw := by
    have ⟨body, hb, ht⟩ := Option.map_eq_some_iff.mp hw
    have ⟨a, ha, hs, hp⟩ := Layout.lookup_addresses hb (main.push .halt)
    rw [Array.size_push] at ha hs
    rw [h.isBody hb, ht] at hp
    exact ⟨a, ha, hs, hp⟩
  unknown w hw := by
    have hw := Option.map_eq_none_iff.mp hw
    rw [Table.find?_eq_none_iff] at hw ⊢
    rwa [layout_dictionary_names]

theorem layout_fenced (main : Program) (h : words.WellFormed) : (layout main words).Fenced := by
  intro w a ha
  have hp : (main.push .halt).back? = some .halt := Array.back?_push
  have ha : (Layout.addresses (main.push .halt).size words.entries).lookup w = some a := by
    rw [Array.size_push]
    exact ha
  exact Layout.getElem?_pred_of_lookup h.closed (.inr hp) ha

theorem layout_holds_main (words : Table Program) (h : main.Plain) :
    (layout main words).program.Holds 0 (main.terms.map Term.instruction ++ [.halt]) := by
  have hc : main.terms.map Term.instruction ++ [.halt] = (main.push .halt).toList := by
    rw [← h, Array.toList_push]
  rw [hc]
  refine Program.Holds.of_getElem? fun k hk => ?_
  rw [Nat.zero_add, Array.getElem?_toList]
  exact Layout.getElem?_append _ _ hk

end Image

end StackForth
