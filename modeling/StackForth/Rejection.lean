import StackForth.Datum

namespace StackForth

inductive Rejection
  | unknownOpcode (name : String)
  | notOpcode (got : Datum)
  | unwantedOperand (opcode : String) (got : Datum)
  | pushOperand (got : Datum)
  | offsetOperand (opcode : String) (got : Datum)
  | jumpOntoItself
  | callOperand (got : Datum)
  | wordOperand (got : Datum)
  | notInstruction (index : Nat) (got : Datum)
  | cell (got : Datum)
  | wordName (got : Datum)
  | wordAddress (name : String) (got : Datum)

def Rejection.message : Rejection → String
  | .unknownOpcode name         => "unknown opcode: " ++ name
  | .notOpcode got              => "not an opcode: " ++ got.quoted
  | .unwantedOperand opcode got => opcode ++ " takes no operand, got " ++ got.quoted
  | .pushOperand got            => "PUSH expects a signed 32-bit int, got " ++ got.quoted
  | .offsetOperand opcode got   => opcode ++ " expects an int offset, got " ++ got.quoted
  | .jumpOntoItself             => "JUMP 0 would branch onto itself"
  | .callOperand got            => "CALL expects a non-negative address, got " ++ got.quoted
  | .wordOperand got            => "CALL_WORD expects a word name, got " ++ got.quoted
  | .notInstruction index got   =>
    "program[" ++ Nat.repr index ++ "] is not an Instruction: " ++ got.quoted
  | .cell got                   => "stack cells are signed 32-bit ints, got " ++ got.quoted
  | .wordName got               => "word names are non-empty str, got " ++ got.quoted
  | .wordAddress name got       =>
    "word " ++ Text.quote name ++ " needs a non-negative address, got " ++ got.quoted

def Rejection.writable : Rejection → Bool
  | .notOpcode got | .unwantedOperand _ got | .pushOperand got | .offsetOperand _ got
  | .callOperand got | .wordOperand got | .notInstruction _ got | .cell got | .wordName got
  | .wordAddress _ got => got.writable
  | .unknownOpcode _ | .jumpOntoItself => true

end StackForth
