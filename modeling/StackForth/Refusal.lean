import StackForth.Numeral
import StackForth.Rejection

namespace StackForth

inductive Refusal
  | invalid (r : Rejection)
  | unreadable (digits : Nat)
  | unwritable

def Rejection.refusal (r : Rejection) : Refusal :=
  if r.writable then .invalid r else .unwritable

def Refusal.message : Refusal → String
  | .invalid r         => r.message
  | .unreadable digits =>
    "Exceeds the limit (" ++ Nat.repr digitLimit ++
      " digits) for integer string conversion: value has " ++ Nat.repr digits ++
      " digits; use sys.set_int_max_str_digits() to increase the limit"
  | .unwritable        =>
    "Exceeds the limit (" ++ Nat.repr digitLimit ++
      " digits) for integer string conversion" ++
      "; use sys.set_int_max_str_digits() to increase the limit"

end StackForth
