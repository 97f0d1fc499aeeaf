import StackForth.Assembler

namespace StackForth

inductive Term
  | literal (value : Int32)
  | primitive (operation : Primitive)
  | word (name : String) (nonempty : name ≠ "")

namespace Term

def instruction : Term → Instruction
  | literal v   => .push v
  | primitive p => .prim p
  | word w h    => .callWord w h

def ofInstruction? : Instruction → Option Term
  | .push v       => some (literal v)
  | .prim p       => some (primitive p)
  | .callWord w h => some (word w h)
  | _             => none

@[simp]
theorem ofInstruction?_instruction (t : Term) : ofInstruction? t.instruction = some t := by
  cases t <;> rfl

def ofToken? (token : String) : Option Term :=
  match Literal.read token with
  | .cell v     => some (literal v)
  | .notNumeral =>
    match Primitive.ofWord? token with
    | some p => some (primitive p)
    | none   => if h : token = "" then none else some (word token h)
  | _           => none

end Term

namespace Program

-- The terms of a program, in order. The return at the end of a body is not one of them.
def terms (p : Program) : List Term :=
  p.toList.filterMap Term.ofInstruction?

def Plain (p : Program) : Prop :=
  p.toList = p.terms.map Term.instruction

def IsBody (p : Program) : Prop :=
  p.toList = p.terms.map Term.instruction ++ [.ret]

variable {p : Program}

theorem plain_empty : Plain #[] :=
  rfl

@[simp]
theorem terms_push_term (p : Program) (t : Term) :
    terms (p.push t.instruction) = p.terms ++ [t] := by
  simp [terms]

@[simp]
theorem terms_push_ret (p : Program) : terms (p.push .ret) = p.terms := by
  simp [terms, Term.ofInstruction?]

@[simp]
theorem terms_append (p q : Program) : terms (p ++ q) = p.terms ++ q.terms := by
  simp [terms]

theorem Plain.push (h : p.Plain) (t : Term) : Plain (p.push t.instruction) := by
  simp only [Plain, Array.toList_push, terms_push_term, List.map_append] at *
  exact congrArg (· ++ [t.instruction]) h

theorem Plain.isBody (h : p.Plain) : IsBody (p.push .ret) := by
  simp only [Plain, IsBody, Array.toList_push, terms_push_ret] at *
  exact congrArg (· ++ [.ret]) h

theorem Plain.size_eq (h : p.Plain) : p.size = p.terms.length := by
  simpa using congrArg List.length (show p.toList = _ from h)

end Program

theorem Table.mem_of_find? {α : Type} {t : Table α} {name : String} {a : α}
    (h : t.find? name = some a) : (name, a) ∈ t.entries := by
  have ⟨_, _, he, _⟩ := List.lookup_eq_some_iff.mp h
  simp [he]

-- Words that a machine can run: no name is empty, and every body ends in its only return.
structure Table.WellFormed (words : Table Program) : Prop where
  named  : ∀ name ∈ words.names, name ≠ ""
  closed : ∀ word ∈ words.entries, word.2.IsBody

namespace Table.WellFormed

variable {words : Table Program} {name : String} {body : Program}

theorem empty : WellFormed .empty where
  named  := nofun
  closed := nofun

theorem isBody (h : words.WellFormed) (hb : words.find? name = some body) : body.IsBody :=
  h.closed _ (mem_of_find? hb)

theorem define (h : words.WellFormed) (hn : name ≠ "") (hb : body.IsBody) :
    (words.define name body).WellFormed where
  named other ho := by
    rw [names_define, List.mem_append] at ho
    cases ho
    case inl ho => exact h.named other (List.mem_filter.mp ho).left
    case inr ho => exact List.mem_singleton.mp ho ▸ hn
  closed word ho := by
    cases List.mem_append.mp ho
    case inl ho => exact h.closed word (List.mem_filter.mp ho).left
    case inr ho => exact List.mem_singleton.mp ho ▸ hb

end Table.WellFormed

end StackForth
