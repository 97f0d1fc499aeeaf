import StackForth.Machine.Basic

namespace StackForth

-- A place in a program from outside: an instruction, or a value that is none.
inductive Item
  | instruction (i : Instruction)
  | foreign (d : Datum)

def Item.text? : Item → Option String
  | .instruction i => i.text?
  | .foreign d     => d.shown?

structure Setup where
  limit   : Option Int := none
  tracing : Bool := false
  cells   : List Datum := []

namespace Load

def instructions (index : Nat) : List Item → Except Refusal (List Instruction)
  | []                     => .ok []
  | .foreign d :: _        => .error (Rejection.notInstruction index d).refusal
  | .instruction i :: rest => (instructions (index + 1) rest).map (i :: ·)

def stack (below : List Int) : List Datum → Except Refusal (List Int)
  | []             => .ok below
  | .int n :: rest =>
    if Cell.Fits n then stack (n :: below) rest else .error (Rejection.cell (.int n)).refusal
  | d :: _         => .error (Rejection.cell d).refusal

end Load

namespace Machine

def load (items : List Item) (entries : Entries) (setup : Setup) : Except Refusal Machine := do
  let program ← Load.instructions 0 items
  let stack ← Load.stack [] setup.cells
  let dictionary ← Dictionary.ofEntries entries
  return {
    image   := ⟨program.toArray, dictionary⟩
    state   := { stack := stack }
    limit   := setup.limit
    tracing := setup.tracing }

def boot (image : Image) (setup : Setup) : Except Refusal Machine :=
  load (image.program.toList.map .instruction) image.dictionary.toEntries setup

end Machine

end StackForth
