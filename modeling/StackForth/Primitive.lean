import StackForth.Cell

namespace StackForth

inductive Primitive
  | add
  | mul
  | dup
  | drop
  | swap
  | over
  | rot
  | nip
  | tuck
  | twoDup
  | twoDrop
  | twoSwap
  | depth
deriving DecidableEq

namespace Primitive

def all : List Primitive :=
  [.add, .mul, .dup, .drop, .swap, .over, .rot, .nip, .tuck, .twoDup, .twoDrop, .twoSwap, .depth]

theorem mem_all (p : Primitive) : p ∈ all := by
  cases p <;> simp [all]

def name : Primitive → String
  | .add     => "ADD"
  | .mul     => "MUL"
  | .dup     => "DUP"
  | .drop    => "DROP"
  | .swap    => "SWAP"
  | .over    => "OVER"
  | .rot     => "ROT"
  | .nip     => "NIP"
  | .tuck    => "TUCK"
  | .twoDup  => "TWO_DUP"
  | .twoDrop => "TWO_DROP"
  | .twoSwap => "TWO_SWAP"
  | .depth   => "DEPTH"

def word : Primitive → String
  | .add     => "+"
  | .mul     => "*"
  | .dup     => "dup"
  | .drop    => "drop"
  | .swap    => "swap"
  | .over    => "over"
  | .rot     => "rot"
  | .nip     => "nip"
  | .tuck    => "tuck"
  | .twoDup  => "2dup"
  | .twoDrop => "2drop"
  | .twoSwap => "2swap"
  | .depth   => "depth"

def ofWord? (token : String) : Option Primitive :=
  all.find? (·.word == token)

def needs : Primitive → Nat
  | .depth       => 0
  | .dup | .drop => 1
  | .rot         => 3
  | .twoSwap     => 4
  | _            => 2

-- The stack after the operation. A stack with fewer cells than the operation needs stays.
def effect : Primitive → List Int → List Int
  | .add,     b :: a :: s           => Cell.wrap (a + b) :: s
  | .mul,     b :: a :: s           => Cell.wrap (a * b) :: s
  | .dup,     a :: s                => a :: a :: s
  | .drop,    _ :: s                => s
  | .swap,    b :: a :: s           => a :: b :: s
  | .over,    b :: a :: s           => a :: b :: a :: s
  | .rot,     c :: b :: a :: s      => a :: c :: b :: s
  | .nip,     b :: _ :: s           => b :: s
  | .tuck,    b :: a :: s           => b :: a :: b :: s
  | .twoDup,  b :: a :: s           => b :: a :: b :: a :: s
  | .twoDrop, _ :: _ :: s           => s
  | .twoSwap, d :: c :: b :: a :: s => b :: a :: d :: c :: s
  | .depth,   s                     => s.length :: s
  | _,        s                     => s

def gives : Primitive → Nat
  | .drop | .twoDrop            => 0
  | .add | .mul | .nip | .depth => 1
  | .dup | .swap                => 2
  | .over | .rot | .tuck        => 3
  | .twoDup | .twoSwap          => 4

theorem length_effect {p : Primitive} {s : List Int} (h : p.needs ≤ s.length) :
    (p.effect s).length + p.needs = s.length + p.gives := by
  match s with
  | []                    => cases p <;> simp_all [needs, gives, effect]
  | [_]                   => cases p <;> simp_all [needs, gives, effect]
  | [_, _]                => cases p <;> simp_all [needs, gives, effect]
  | [_, _, _]             => cases p <;> simp_all [needs, gives, effect]
  | _ :: _ :: _ :: _ :: _ => cases p <;> simp [needs, gives, effect]

end Primitive

end StackForth
