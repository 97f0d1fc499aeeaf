import StackForth.Machine.Basic

namespace StackForth

inductive Note
  | redefining (name : String)
  | assembled (instructions words : Nat)
  | runStarted (ip size : Nat)
  | halted (ip : Nat)
  | runFinished (ip steps : Nat) (cells : List Int)
  | runFailed (f : Failure)
deriving DecidableEq

abbrev Journal := List Note

namespace Note

def origin : Note → String
  | .redefining _ | .assembled .. => "miniforth_assembler"
  | .runFailed _                  => "miniforth_runtime"
  | _                             => "miniforth_vm_core"

def message : Note → String
  | .redefining name              => "redefining word " ++ Text.quote name
  | .assembled instructions words =>
    "assembled " ++ Nat.repr instructions ++ " instructions, " ++ Nat.repr words ++ " words"
  | .runStarted ip size           => "run: ip=" ++ Nat.repr ip ++ " len=" ++ Nat.repr size
  | .halted ip                    => "HALT at ip=" ++ Nat.repr ip
  | .runFinished ip steps cells   =>
    "run finished: ip=" ++ Nat.repr ip ++ " steps=" ++ Nat.repr steps ++ " stack=" ++
      Text.bracketed cells
  | .runFailed f                  => "run failed: " ++ f.text

def line (n : Note) : String :=
  "DEBUG " ++ n.origin ++ ": " ++ n.message ++ "\n"

end Note

def Journal.text (j : Journal) : String :=
  String.join (j.map Note.line)

def Image.journal (image : Image) : Journal :=
  [.assembled image.program.size image.dictionary.size]

namespace Machine

-- The notes of a run that began with `m` and came to `n`. A run that halts notes it once.
def journal (m n : Machine) (ending : Ending) : Journal :=
  let halt := if n.state.halted && !m.state.halted then [.halted n.state.ip] else []
  let last :=
    match ending with
    | .finished   => [.runFinished n.state.ip n.state.steps n.state.cells]
    | .failed f   => [.runFailed f]
    | .unwritable => []
    | .unfinished => []
  .runStarted m.state.ip m.image.program.size :: (halt ++ last)

end Machine

end StackForth
