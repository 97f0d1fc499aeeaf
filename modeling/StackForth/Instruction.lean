import StackForth.Primitive
import StackForth.Refusal

namespace StackForth

inductive Opcode
  | prim (operation : Primitive)
  | push
  | jump
  | ifZero
  | call
  | callWord
  | ret
  | halt
deriving DecidableEq

namespace Opcode

def all : List Opcode :=
  Primitive.all.map .prim ++ [.push, .jump, .ifZero, .call, .callWord, .ret, .halt]

def name : Opcode → String
  | .prim p   => p.name
  | .push     => "PUSH"
  | .jump     => "JUMP"
  | .ifZero   => "IF_ZERO"
  | .call     => "CALL"
  | .callWord => "CALL_WORD"
  | .ret      => "RETURN"
  | .halt     => "HALT"

-- The capital letter A to Z that a character is a small form of; any other character stays. The
-- dotless i and the long s are small forms too.
def capital (c : Char) : Char :=
  if c == '\u0131' then 'I'
  else if c == '\u017F' then 'S'
  else c.toUpper

def ofName? (name : String) : Option Opcode :=
  all.find? (·.name.toList == name.toList.map capital)

end Opcode

-- An instruction. A jump onto itself and a call of the empty name do not exist.
inductive Instruction
  | prim (operation : Primitive)
  | push (value : Int32)
  | jump (offset : Int) (nonzero : offset ≠ 0 := by exact ne_of_beq_false rfl)
  | ifZero (offset : Int)
  | call (address : Nat)
  | callWord (name : String) (nonempty : name ≠ "" := by exact ne_of_beq_false rfl)
  | ret
  | halt
deriving DecidableEq

namespace Instruction

def opcode : Instruction → Opcode
  | .prim p       => .prim p
  | .push _       => .push
  | .jump _ _     => .jump
  | .ifZero _     => .ifZero
  | .call _       => .call
  | .callWord _ _ => .callWord
  | .ret          => .ret
  | .halt         => .halt

def operandText? : Instruction → Option String
  | .push v       => some (Text.decimal v.toInt)
  | .jump k _     => some (Text.decimal k)
  | .ifZero k     => some (Text.decimal k)
  | .call a       => some (Nat.repr a)
  | .callWord w _ => some w
  | _             => none

-- The instruction in text, whatever the length of its operand.
def text (i : Instruction) : String :=
  match i.operandText? with
  | some operand => i.opcode.name ++ " " ++ operand
  | none         => i.opcode.name

def writable : Instruction → Bool
  | .jump k _ => isWritable k
  | .ifZero k => isWritable k
  | .call a   => isWritable a
  | _         => true

def text? (i : Instruction) : Option String :=
  if i.writable then some i.text else none

def needs : Instruction → Nat
  | .prim p   => p.needs
  | .ifZero _ => 1
  | _         => 0

end Instruction

namespace Opcode

def plain (op : Opcode) (i : Instruction) : Datum → Except Refusal Instruction
  | .none => .ok i
  | got   => .error (Rejection.unwantedOperand op.name got).refusal

def build : Opcode → Datum → Except Refusal Instruction
  | .prim p, got => plain (.prim p) (.prim p) got
  | .ret,    got => plain .ret .ret got
  | .halt,   got => plain .halt .halt got
  | .push,   got =>
    match got with
    | .int n =>
      if Cell.Fits n then .ok (.push (Int32.ofInt n))
      else .error (Rejection.pushOperand got).refusal
    | _      => .error (Rejection.pushOperand got).refusal
  | .jump,   got =>
    match got with
    | .int k =>
      if h : k = 0 then .error Rejection.jumpOntoItself.refusal else .ok (.jump k h)
    | _      => .error (Rejection.offsetOperand (name .jump) got).refusal
  | .ifZero, got =>
    match got with
    | .int k => .ok (.ifZero k)
    | _      => .error (Rejection.offsetOperand (name .ifZero) got).refusal
  | .call,   got =>
    match got with
    | .int (.ofNat a) => .ok (.call a)
    | _               => .error (Rejection.callOperand got).refusal
  | .callWord, got =>
    match got with
    | .text w =>
      if h : w = "" then .error (Rejection.wordOperand got).refusal else .ok (.callWord w h)
    | _       => .error (Rejection.wordOperand got).refusal

end Opcode

def Instruction.ofName (name : String) (operand : Datum) : Except Refusal Instruction :=
  match Opcode.ofName? name with
  | some op => op.build operand
  | none    => .error (Rejection.unknownOpcode name).refusal

end StackForth
