import StackForth.Decimal
import StackForth.Text.Number
import StackForth.Text.Quoted

namespace StackForth

inductive Datum
  | none
  | bool (value : Bool)
  | int (value : Int)
  | text (value : String)
  | decimal (value : Decimal)
  | list (values : List Datum)
deriving Inhabited

namespace Datum

mutual

def quoted : Datum → String
  | .none      => "None"
  | .bool b    => if b then "True" else "False"
  | .int n     => Text.decimal n
  | .text s    => Text.quote s
  | .decimal d => d.text
  | .list ds   => "[" ++ ", ".intercalate (quotedAll ds) ++ "]"

def quotedAll : List Datum → List String
  | []      => []
  | d :: ds => quoted d :: quotedAll ds

end

-- A value by itself: as in messages, but a text is not quoted.
def shown : Datum → String
  | .text s => s
  | d       => d.quoted

mutual

-- No number in the value has more digits than an integer may have in text.
def writable : Datum → Bool
  | .int n   => isWritable n
  | .list ds => allWritable ds
  | _        => true

def allWritable : List Datum → Bool
  | []      => true
  | d :: ds => writable d && allWritable ds

end

def shown? (d : Datum) : Option String :=
  if d.writable then some d.shown else Option.none

def isList : Datum → Bool
  | .list _ => true
  | _       => false

-- The integer that a value is equal to. A truth value counts as 0 or 1.
def number? : Datum → Option Int
  | .bool b    => some (if b then 1 else 0)
  | .int n     => some n
  | .decimal d => d.toInt?
  | _          => Option.none

def sameName (a b : Datum) : Bool :=
  match a, b with
  | .text s, .text t => s == t
  | .none,   .none   => true
  | a,       b       => a.number?.isSome && a.number? == b.number?

end Datum

end StackForth
