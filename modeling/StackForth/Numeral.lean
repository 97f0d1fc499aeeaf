import StackForth.Cell
import StackForth.Text.Blank
import StackForth.Text.DecimalDigit

namespace StackForth

def digitLimit : Nat := 4300

def isWritable (n : Int) : Bool :=
  (Nat.toDigits 10 n.natAbs).length ≤ digitLimit

def ofDigits (digits : List Nat) : Nat :=
  digits.foldl (fun n d => 10 * n + d) 0

def digitValues (cs : List Char) : List Nat :=
  cs.map fun c => c.toNat - 0x30

def signed (negative : Bool) (n : Nat) : Int :=
  if negative then -(n : Int) else n

def splitSign : List Char → Bool × List Char
  | '+' :: cs => (false, cs)
  | '-' :: cs => (true, cs)
  | cs        => (false, cs)

def isNumeral (token : String) : Bool :=
  let digits := (splitSign token.toList).2
  !digits.isEmpty && digits.all Char.isDigit

def numeralValue (token : String) : Int :=
  let (negative, digits) := splitSign token.toList
  signed negative (ofDigits (digitValues digits))

def numeralDigits (token : String) : Nat :=
  (splitSign token.toList).2.length

inductive Literal
  | notNumeral
  | tooLong (digits : Nat)
  | outOfRange
  | cell (value : Int32)

-- Reads a token as a literal. The number of digits is checked before the value.
def Literal.read (token : String) : Literal :=
  if !isNumeral token then .notNumeral
  else if digitLimit < numeralDigits token then .tooLong (numeralDigits token)
  else
    let value := numeralValue token
    if Cell.Fits value then .cell (Int32.ofInt value) else .outOfRange

-- A blank that may stand around a count: any but the four information separators.
def isCountBlank (c : Char) : Bool :=
  Text.isBlank c && !(0x1C ≤ c.toNat && c.toNat ≤ 0x1F)

def spacedDigits? : List Char → Option (List Nat)
  | []            => none
  | [c]           => (Text.decimalDigit? c).map ([·])
  | c :: '_' :: cs => do
    let d ← Text.decimalDigit? c
    return d :: (← spacedDigits? cs)
  | c :: cs       => do
    let d ← Text.decimalDigit? c
    return d :: (← spacedDigits? cs)

def readCount? (text : String) : Option Int := do
  let cs := ((text.toList.dropWhile isCountBlank).reverse.dropWhile isCountBlank).reverse
  let (negative, cs) := splitSign cs
  let digits ← spacedDigits? cs
  if digits.length ≤ digitLimit then some (signed negative (ofDigits digits)) else none

end StackForth
