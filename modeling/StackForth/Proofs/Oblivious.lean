import StackForth.Proofs.Alongside
import StackForth.Proofs.Coherence

namespace StackForth

def SameDepth (s t : List Int) : Prop :=
  t.length = s.length

namespace SameDepth

variable {s t : List Int}

theorem push (c : Int) (h : SameDepth s t) : SameDepth (c :: s) (c :: t) :=
  congrArg (· + 1) h

theorem effect (p : Primitive) (h : SameDepth s t) (enough : p.needs ≤ s.length) :
    SameDepth (p.effect s) (p.effect t) := by
  have first := Primitive.length_effect enough
  have second := Primitive.length_effect (h.symm ▸ enough : p.needs ≤ t.length)
  rw [h] at second
  exact Nat.add_right_cancel (second.trans first.symm)

theorem level : Level SameDepth :=
  fun _ _ h => h

end SameDepth

theorem Program.Unbranched.keeps_depth {p : Program} (h : p.Unbranched) :
    p.Keeps SameDepth Primitive.effect :=
  h.keeps SameDepth.level (fun o _ _ => SameDepth.effect o) fun c _ _ => SameDepth.push c

theorem Program.IsBody.not_mem {p : Program} {i : Instruction} (h : p.IsBody)
    (hi : Term.ofInstruction? i = none) (hr : i ≠ .ret) : i ∉ p := by
  intro m
  have m : i ∈ p.terms.map Term.instruction ++ [.ret] := h ▸ Array.mem_toList_iff.mpr m
  rcases List.mem_append.mp m with m | m
  · have ⟨t, _, ht⟩ := List.mem_map.mp m
    simp [← ht] at hi
  · exact hr (List.mem_singleton.mp m)

theorem Image.layout_unbranched {main : Program} {words : Table Program} (hm : main.Plain)
    (hw : words.WellFormed) : (layout main words).program.Unbranched := by
  intro k m
  rw [← Array.mem_toList_iff, layout_program_toList, List.mem_append, List.mem_cons] at m
  rcases m with m | m | m
  · exact hm.not_mem rfl (Array.mem_toList_iff.mp m)
  · cases m
  · have ⟨word, known, m⟩ := List.mem_flatMap.mp m
    have absent : .ifZero k ∉ word.2 := (hw.closed word known).not_mem rfl nofun
    exact absent (Array.mem_toList_iff.mp m)

theorem Assembles.unbranched {words : Table Program} {text : String} {a : Assembler} {image : Image}
    (h : Assembles words text a image) (hw : words.WellFormed) : image.program.Unbranched := by
  have wf := h.wellFormed hw
  rw [h.image_eq]
  exact Image.layout_unbranched wf.main wf.bodies

-- Machines that differ in the cells of their stacks go the same way, unless a branch looks at a cell.
-- Assembled programs have no such branch.
theorem control_ignores_cells (setup : Setup) :
    (∀ items entries (s t : List Int) m n,
      Machine.load items entries { setup with cells := s.map .int } = .ok m →
      Machine.load items entries { setup with cells := t.map .int } = .ok n →
      s.length = t.length → m.image.program.Unbranched →
      ∀ fuel, Machine.Together SameDepth (m.run fuel) (n.run fuel)) ∧
    ∀ words text a image, words.WellFormed → Assembles words text a image →
      image.program.Unbranched := by
  refine ⟨?_, fun _ _ _ _ hw h => h.unbranched hw⟩
  intro items entries s t m n hm hn same unbranched fuel
  have first : m.state.stack = s.reverse := by simpa using Load.stack_of_ok (Machine.load_stack hm)
  have second : n.state.stack = t.reverse := by simpa using Load.stack_of_ok (Machine.load_stack hn)
  have start : m.Alongside SameDepth n :=
    Machine.load_alongside hm hn (by simp [SameDepth, first, second, same])
  rw [← n.runBy_effect fuel]
  exact start.run_level unbranched.keeps_depth SameDepth.level fuel

def summing (stack : List Int) : Machine where
  image := .layout soleAssembler.main soleAssembler.bodies
  state := { stack }

theorem summing_assembles :
    Assembles .empty ": sum + sum ; sum" soleAssembler (summing []).image :=
  ⟨rfl, rfl⟩

theorem control_ignores_cells_sum :
    Machine.Together SameDepth ((summing [3, 2, 1]).run 9) ((summing [-7, 2147483647, 0]).run 9) ∧
    ∃ f, ((summing [3, 2, 1]).run 9).2 = .failed f ∧ f.fault.kind = .stackUnderflow := by
  have ⟨alike, assembled⟩ := control_ignores_cells {}
  have unbranched := assembled _ _ _ _ .empty summing_assembles
  have load : Machine.boot (summing []).image { cells := [1, 2, 3].map .int } =
      .ok (summing [3, 2, 1]) := rfl
  have other : Machine.boot (summing []).image { cells := [0, 2147483647, -7].map .int } =
      .ok (summing [-7, 2147483647, 0]) := rfl
  exact ⟨alike _ _ _ _ _ _ load other rfl unbranched 9, _, rfl, rfl⟩

end StackForth
