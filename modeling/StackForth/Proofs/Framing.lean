import StackForth.Proofs.Alongside
import StackForth.Proofs.Reporting

namespace StackForth

def Framed (frame : List Int) (s t : List Int) : Prop :=
  t = s ++ frame.reverse

theorem Primitive.effect_append {p : Primitive} {s : List Int} (other : p ≠ .depth)
    (enough : p.needs ≤ s.length) (below : List Int) :
    p.effect (s ++ below) = p.effect s ++ below := by
  match s with
  | []                    => cases p <;> simp_all [needs]
  | [_]                   => cases p <;> simp_all [needs, effect]
  | [_, _]                => cases p <;> simp_all [needs, effect]
  | [_, _, _]             => cases p <;> simp_all [needs, effect]
  | _ :: _ :: _ :: _ :: _ => cases p <;> simp_all [effect]

namespace Framed

variable {frame s t : List Int}

theorem length_le (h : Framed frame s t) : s.length ≤ t.length := by
  rw [h, List.length_append]
  exact Nat.le_add_right ..

theorem effect {p : Primitive} (h : Framed frame s t) (other : p ≠ .depth)
    (enough : p.needs ≤ s.length) : Framed frame (p.effect s) (p.effect t) := by
  rw [h]
  exact Primitive.effect_append other enough _

theorem push (h : Framed frame s t) (c : Int) : Framed frame (c :: s) (c :: t) :=
  congrArg (c :: ·) h

theorem pop (h : Framed frame s t) (enough : 1 ≤ s.length) :
    t.head? = s.head? ∧ Framed frame s.tail t.tail := by
  cases h
  cases s
  case nil  => cases enough
  case cons => exact ⟨rfl, rfl⟩

theorem keeps {p : Program} (free : .prim .depth ∉ p) (frame : List Int) :
    p.Keeps (Framed frame) Primitive.effect where
  deeper _ _ h     := h.length_le
  instructions i m := by
    cases i
    case prim o =>
      have other : o ≠ .depth := by
        rintro rfl
        exact free m
      exact fun _ _ h => h.effect other
    case push   => exact fun _ _ h => h.push _
    case ifZero => exact fun _ _ h => h.pop
    all_goals trivial

end Framed

theorem Machine.load_framed {items : List Item} {entries : Entries} {setup : Setup}
    {s frame : List Int} {m : Machine}
    (h : load items entries { setup with cells := s.map .int } = .ok m)
    (fits : ∀ c ∈ frame, Cell.Fits c) :
    ∃ n, load items entries { setup with cells := (frame ++ s).map .int } = .ok n ∧
      m.Alongside (Framed frame) n := by
  have loaded := load_stack h
  have all : ∀ c ∈ frame ++ s, Cell.Fits c :=
    List.forall_mem_append.mpr ⟨fits, Load.fits_of_stack loaded⟩
  have stack : m.state.stack = s.reverse := by simpa using Load.stack_of_ok loaded
  have framed : m.state.stack ++ frame.reverse = (frame ++ s).reverse := by
    rw [stack, List.reverse_append]
  have n := load_cells h ((frame ++ s).map .int)
  rw [Load.stack_ok [] all, List.append_nil, ← framed, Except.map] at n
  exact ⟨_, n, load_alongside h n rfl⟩

-- If a program that does not ask for the depth has the cells that it needs, then it does the same on any
-- frame of more cells, in as many steps and to the same end. The frame is left below the other cells.
theorem frame_is_left_alone {items : List Item} {entries : Entries} {s frame : List Int} {m : Machine}
    (setup : Setup)
    (h : Machine.load items entries { setup with cells := s.map .int } = .ok m)
    (free : .prim .depth ∉ m.image.program) (fits : ∀ c ∈ frame, Cell.Fits c) :
    ∃ n, Machine.load items entries { setup with cells := (frame ++ s).map .int } = .ok n ∧
      ∀ fuel, (∀ f, (m.run fuel).2 = .failed f → f.fault.kind ≠ .stackUnderflow) →
        Machine.Together (Framed frame) (m.run fuel) (n.run fuel) := by
  have ⟨n, load, start⟩ := Machine.load_framed h fits
  refine ⟨n, load, fun fuel enough => ?_⟩
  rw [← n.runBy_effect fuel]
  apply (start.run (Framed.keeps free frame) fuel).resolve_right
  intro ⟨_, f, failed, kind⟩
  exact enough f failed kind

def doubling : Machine where
  image :=
    { program :=
        #[.prim .swap, .prim .dup, .prim .add, .prim .swap, .push (-1), .prim .add, .prim .dup,
          .ifZero 2, .jump (-8)] }
  state := { stack := [2, 3] }

theorem doubling_load :
    Machine.load (doubling.image.program.toList.map .instruction) [] { cells := [3, 2].map .int } =
      .ok doubling :=
  rfl

theorem frame_is_left_alone_doubling :
    (doubling.run 17).1.state.stack = [0, 12] ∧
    ∃ n, Machine.load (doubling.image.program.toList.map .instruction) []
        { cells := ([7, 0] ++ [3, 2]).map .int } = .ok n ∧
      (n.run 17).1.state.stack = [0, 12, 0, 7] ∧ (n.run 17).2 = .finished := by
  have free : .prim .depth ∉ doubling.image.program := by simp [doubling]
  have fits : ∀ c ∈ [7, 0], Cell.Fits c := by decide
  have stack : (doubling.run 17).1.state.stack = [0, 12] := rfl
  have finished : (doubling.run 17).2 = .finished := rfl
  have enough : ∀ f, (doubling.run 17).2 = .failed f → f.fault.kind ≠ .stackUnderflow := by
    intro f failed
    cases finished.symm.trans failed
  obtain ⟨n, load, together⟩ := frame_is_left_alone {} doubling_load free fits
  obtain ⟨state, ending⟩ := together 17 enough
  have framed := state.stack
  rw [stack] at framed
  rw [finished] at ending
  refine ⟨stack, n, load, framed, ?_⟩
  generalize (n.run 17).2 = e at ending
  cases ending
  rfl

end StackForth
