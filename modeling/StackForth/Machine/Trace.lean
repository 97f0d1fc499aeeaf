import StackForth.Machine.Step

namespace StackForth

def stackText (cells : List Int) : String :=
  "<" ++ Nat.repr cells.length ++ "> " ++ Text.spaced cells

namespace State

def cells (s : State) : List Int :=
  s.stack.reverse

-- The instruction in a column of twenty characters. A longer one takes more.
def column (i : Instruction) : String :=
  String.ofList (i.text.toList.rightpad 20 ' ')

def record (s : State) (i : Instruction) : String :=
  "[" ++ Text.fourDigits s.ip ++ "] " ++ column i ++ " " ++ stackText s.cells ++ "\n"

def record? (s : State) (i : Instruction) : Option String :=
  if i.writable then some (s.record i) else none

end State

def Step.trace? (s : State) : Step → Option String
  | .rest        => some ""
  | .refused ..  => some ""
  | .failed i _  => s.record? i
  | .next i _    => s.record? i

end StackForth
