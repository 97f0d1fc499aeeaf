namespace StackForth

structure Table (α : Type) where
  entries : List (String × α)
  nodup   : (entries.map Prod.fst).Nodup
deriving DecidableEq

namespace Table

variable {α β : Type}

def empty : Table α :=
  ⟨[], List.nodup_nil⟩

instance : Inhabited (Table α) := ⟨empty⟩

theorem ext_entries {t u : Table α} (h : t.entries = u.entries) : t = u := by
  cases t; cases u; simp_all

def names (t : Table α) : List String :=
  t.entries.map Prod.fst

def size (t : Table α) : Nat :=
  t.entries.length

def find? (t : Table α) (name : String) : Option α :=
  t.entries.lookup name

def replaced (entries : List (String × α)) (name : String) (a : α) : List (String × α) :=
  entries.map fun e => if e.1 = name then (name, a) else e

theorem names_replaced (entries : List (String × α)) (name : String) (a : α) :
    (replaced entries name a).map Prod.fst = entries.map Prod.fst := by
  simp only [replaced, List.map_map]
  refine List.map_congr_left fun e _ => ?_
  by_cases h : e.1 = name <;> simp [h]

theorem nodup_concat (t : Table α) {name : String} (a : α) (h : name ∉ t.names) :
    ((t.entries ++ [(name, a)]).map Prod.fst).Nodup :=
  ((List.perm_append_singleton _ _).map _).nodup_iff.mpr (List.nodup_cons.mpr ⟨h, t.nodup⟩)

-- Gives a name a value. A name that is in the table keeps its place, any other comes last.
def insert (t : Table α) (name : String) (a : α) : Table α :=
  if h : name ∈ t.names then
    ⟨replaced t.entries name a, by rw [names_replaced]; exact t.nodup⟩
  else
    ⟨t.entries ++ [(name, a)], t.nodup_concat a h⟩

def erase (t : Table α) (name : String) : Table α where
  entries := t.entries.filter fun e => e.1 ≠ name
  nodup   := (List.filter_sublist.map Prod.fst).nodup t.nodup

theorem not_mem_names_erase (t : Table α) (name : String) : name ∉ (t.erase name).names := by
  simp [names, erase]

-- Gives a name a value and puts it last.
def define (t : Table α) (name : String) (a : α) : Table α where
  entries := (t.erase name).entries ++ [(name, a)]
  nodup   := (t.erase name).nodup_concat a (t.not_mem_names_erase name)

def merge (t u : Table α) : Table α :=
  u.entries.foldl (fun t e => t.insert e.1 e.2) t

def ofList (entries : List (String × α)) : Table α :=
  entries.foldl (fun t e => t.insert e.1 e.2) empty

theorem lookup_cons (e : String × α) (es : List (String × α)) (name : String) :
    (e :: es).lookup name = if name = e.1 then some e.2 else es.lookup name := by
  rw [List.lookup_cons]
  by_cases h : name = e.1
  case pos => simp [h]
  case neg => simp [h, beq_false_of_ne h]

theorem isSome_find?_iff {t : Table α} {name : String} :
    (t.find? name).isSome ↔ name ∈ t.names := by
  simp [find?, names, List.lookup_isSome_iff]

theorem find?_eq_none_iff {t : Table α} {name : String} :
    t.find? name = none ↔ name ∉ t.names := by
  rw [← isSome_find?_iff]
  simp

theorem lookup_filter_ne (entries : List (String × α)) {name other : String} (h : other ≠ name) :
    (entries.filter fun e => e.1 ≠ name).lookup other = entries.lookup other := by
  induction entries with
  | nil => rfl
  | cons e es ih =>
    by_cases he : e.1 = name
    case pos => simp_all [lookup_cons]
    case neg => simp_all [lookup_cons]

theorem lookup_replaced_ne (entries : List (String × α)) {name other : String} (a : α)
    (h : other ≠ name) : (replaced entries name a).lookup other = entries.lookup other := by
  induction entries with
  | nil => rfl
  | cons e es ih =>
    simp only [replaced, List.map_cons, lookup_cons] at ih ⊢
    by_cases he : e.1 = name <;> simp_all

theorem lookup_replaced_self (entries : List (String × α)) {name : String} (a : α)
    (h : name ∈ entries.map Prod.fst) : (replaced entries name a).lookup name = some a := by
  induction entries with
  | nil => simp at h
  | cons e es ih =>
    simp only [replaced, List.map_cons, lookup_cons] at ih ⊢
    by_cases he : e.1 = name
    case pos => simp [he]
    case neg =>
      rw [if_neg he, if_neg (Ne.symm he)]
      exact ih (by simpa [Ne.symm he] using h)

theorem lookup_concat (entries : List (String × α)) (name other : String) (a : α)
    (h : entries.lookup name = none) :
    (entries ++ [(name, a)]).lookup other =
      if other = name then some a else entries.lookup other := by
  rw [List.lookup_append, lookup_cons]
  by_cases ho : other = name
  case pos => rw [ho, h]; simp
  case neg => simp [ho]

theorem find?_define (t : Table α) (name other : String) (a : α) :
    (t.define name a).find? other = if other = name then some a else t.find? other := by
  have hn : (t.erase name).entries.lookup name = none :=
    find?_eq_none_iff.mpr (t.not_mem_names_erase name)
  rw [find?, define, lookup_concat _ _ _ _ hn]
  split
  case isTrue => rfl
  case isFalse h => exact lookup_filter_ne _ h

theorem find?_insert (t : Table α) (name other : String) (a : α) :
    (t.insert name a).find? other = if other = name then some a else t.find? other := by
  simp only [insert]
  split
  case isTrue h =>
    by_cases ho : other = name
    case pos => simpa [find?, ho] using lookup_replaced_self _ a h
    case neg => simpa [find?, ho] using lookup_replaced_ne _ a ho
  case isFalse h => exact lookup_concat _ _ _ _ (find?_eq_none_iff.mpr h)

theorem names_define (t : Table α) (name : String) (a : α) :
    (t.define name a).names = (t.names.filter (· ≠ name)) ++ [name] := by
  simp [names, define, erase, List.filter_map, Function.comp_def]

end Table

end StackForth
