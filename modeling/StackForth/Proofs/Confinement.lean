import StackForth.Proofs.Legality
import StackForth.Proofs.Reporting

namespace StackForth

-- Words that a text can be assembled on: none, those of a session, or those that have been defined, on
-- top of such words, up to some request.
inductive Seeds : Table Program → Prop
  | none : Seeds .empty
  | session (reached : Session.Reached s) : Seeds s.words
  | definitions (seeds : Seeds words) (requests : List Request)
      (given : (Assembler.serve { bodies := words } requests).1.definitions = .ok defined) :
      Seeds defined

variable {words : Table Program} {text : String} {a : Assembler} {image : Image}

theorem Assembler.definitions_ok_iff {defined : Table Program} :
    a.definitions = .ok defined ↔ a.finalized = false ∧ a.bodies = defined := by
  simp only [definitions]
  cases a.finalized <;> simp

theorem Seeds.bodies (h : Seeds words) : ∀ word ∈ words.entries, word.2.IsBody := by
  induction h
  case none            => exact Table.WellFormed.empty.closed
  case session reached => exact reached.wellFormed.closed
  case definitions requests given ih =>
    obtain ⟨_, rfl⟩ := Assembler.definitions_ok_iff.mp given
    exact Assembler.Sound.ofWords ih |>.serve requests |>.bodies

theorem Assembles.nameless_iff (h : Assembles words text a image) :
    "" ∈ image.dictionary.names ↔ "" ∈ words.names := by
  have ⟨running, main, _⟩ := Assembler.finalize_ok_iff.mp h.finalize
  have served : (Assembler.serve { bodies := words } [.feed text]).1 = a := by
    simp [Assembler.serve, Assembler.answer, h.feed]
  have iff := Assembler.serve_nameless_iff (served ▸ running)
  rw [served] at iff
  rw [h.image_eq, Image.layout_dictionary_names]
  simpa [Assembler.Nameless, Assembler.NamesNothing, main] using iff

theorem Seeds.wellFormed (h : Seeds words) (named : "" ∉ words.names) : words.WellFormed where
  named _ m e := named (e ▸ m)
  closed      := h.bodies

-- Whatever the stack and the limit, the machine for an assembled text only ever fails for want of cells,
-- of words or of steps. It fails without telling why where its limit is exceeded and too long to be
-- written. There is no such machine if one of the words has no name.
theorem assembled_control_is_confined {cells : List Int} (seeds : Seeds words)
    (ha : Assembles words text a image) (hc : ∀ n ∈ cells, Cell.Fits n) (limit : Option Int)
    (tracing : Bool) :
    ("" ∈ words.names →
      Machine.boot image { limit, tracing, cells := cells.map .int } =
        .error (.invalid (.wordName (.text "")))) ∧
    ("" ∉ words.names →
      ∃ m, Machine.boot image { limit, tracing, cells := cells.map .int } = .ok m ∧
        (∀ fuel, Machine.Safe image limit a.main.size (m.run fuel)) ∧
        ((∃ fuel, (m.run fuel).2 = .unwritable) ↔
          m.Exceeds ∧ ∃ n, limit = some n ∧ isWritable n = false)) := by
  constructor
  · exact fun nameless => Machine.boot_nameless (ha.nameless_iff.mpr nameless) (Load.stack_ok [] hc)
  · intro named
    have hw := seeds.wellFormed named
    have wf := ha.wellFormed hw
    have hi := Image.layout_implements a.main wf.bodies
    rw [ha.boot hw, Load.stack_ok [] hc, ha.image_eq]
    refine ⟨_, rfl, ha.safe hw { limit, tracing, cells := cells.map .int } _, ?_⟩
    exact Follows.unwritable_iff (m := .start ..) (Follows.start a.bodies wf.main _) hi

def loopSession : Session :=
  (Session.evaluate 1 {} ": loop 1 + loop ;").1

theorem loopSession_reached : loopSession.Reached :=
  .evaluate 1 ": loop 1 + loop ;" (.fresh none false)

def loopMain : Program :=
  #[.callWord "loop", .prim .drop]

def loopAssembler (words : Table Program) : Assembler where
  main     := loopMain
  bodies   := words
  position := 2

theorem loopAssembler_assembles (words : Table Program) :
    Assembles words "loop drop" (loopAssembler words) (.layout loopMain words) :=
  ⟨rfl, rfl⟩

theorem nameless_seeds : Seeds (Table.empty.define "" #[.ret]) :=
  .definitions .none nameless rfl

theorem assembled_control_is_confined_loop :
    (∃ m, Machine.boot (.layout loopMain loopSession.words)
        { limit := some 50, cells := [.int (-5)] } = .ok m ∧
      Machine.Safe (.layout loopMain loopSession.words) (some 50) 2 (m.run 60)) ∧
    (∃ m, Machine.boot (.layout loopMain .empty) { limit := some (-tooLong) } = .ok m ∧
      ∃ fuel, (m.run fuel).2 = .unwritable) ∧
    Machine.boot (.layout loopMain (Table.empty.define "" #[.ret])) { limit := some 50 } =
      .error (.invalid (.wordName (.text ""))) := by
  have fits : ∀ n ∈ [-5], Cell.Fits n := by decide
  have none_fits : ∀ n ∈ ([] : List Int), Cell.Fits n := nofun
  have seeds : Seeds loopSession.words := .session loopSession_reached
  have ha := loopAssembler_assembles
  have ⟨_, loops⟩ := assembled_control_is_confined seeds (ha _) fits (some 50) false
  have ⟨_, stops⟩ := assembled_control_is_confined .none (ha _) none_fits (some (-tooLong)) false
  have ⟨refused, _⟩ :=
    assembled_control_is_confined nameless_seeds (ha _) none_fits (some 50) false
  have ⟨m, boot, safe, _⟩ := loops (by decide +kernel)
  have ⟨n, boot', _, unwritable⟩ := stops (by decide)
  refine ⟨⟨m, boot, safe 60⟩, ⟨n, boot', unwritable.mpr ⟨?_, _, rfl, ?_⟩⟩, refused (by decide)⟩
  · cases boot'
    exact ⟨0, _, rfl, nofun, _, rfl, by simp⟩
  · exact not_isWritable_of_natAbs (by simp)

end StackForth
