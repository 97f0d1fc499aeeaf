import StackForth.Image
import StackForth.Kind

namespace StackForth

inductive Fault
  | stackUnderflow (opcode : Opcode) (needs depth : Nat)
  | emptyReturnStack
  | unknownWord (name : String)
  | branchOutside (target : Int) (size : Nat)
  | callOutside (target size : Nat)
  | stepLimit (limit : Int)
  | dictionaryLocked
deriving DecidableEq

namespace Fault

def kind : Fault → Kind
  | .stackUnderflow .. => .stackUnderflow
  | .emptyReturnStack  => .returnStackUnderflow
  | .unknownWord _     => .unknownWord
  | .branchOutside ..  => .invalidAddress
  | .callOutside ..    => .invalidAddress
  | .stepLimit _       => .stepLimit
  | .dictionaryLocked  => .dictionaryLocked

def message : Fault → String
  | .stackUnderflow op needs depth =>
    "stack underflow: " ++ op.name ++ " needs " ++ Nat.repr needs ++ ", have " ++ Nat.repr depth
  | .emptyReturnStack              => "RETURN with an empty return stack"
  | .unknownWord name              => "unknown word: " ++ name
  | .branchOutside target size     =>
    "branch target " ++ Text.decimal target ++ " outside 0.." ++ Nat.repr size
  | .callOutside target size       =>
    "call target " ++ Nat.repr target ++ " outside 0.." ++ Nat.repr size
  | .stepLimit limit               => "step limit of " ++ Text.decimal limit ++ " exceeded"
  | .dictionaryLocked              => "dictionary cannot change once execution has started"

def writable : Fault → Bool
  | .branchOutside target _ => isWritable target
  | .callOutside target _   => isWritable target
  | .stepLimit limit        => isWritable limit
  | _                       => true

end Fault

-- A fault with its place: the address, the instruction there and the stack in front of it, top cell
-- first. A fault of the dictionary has no instruction.
structure Failure where
  fault       : Fault
  ip          : Nat
  instruction : Option Instruction
  stack       : List Int
deriving DecidableEq

namespace Failure

def text (f : Failure) : String :=
  match f.instruction with
  | some i => f.fault.message ++ " (ip=" ++ Nat.repr f.ip ++ ", " ++ i.text ++ ")"
  | none   => f.fault.message

def message? (f : Failure) : Option String :=
  if f.instruction.all Instruction.writable then some f.text else none

end Failure

-- Why a machine goes no further: a failure, or a number in a text that it has to write is too long.
-- The fault is told first, so that one with such a number does not come to be a failure.
inductive Stop
  | failure (f : Failure)
  | unwritable
deriving DecidableEq

end StackForth
