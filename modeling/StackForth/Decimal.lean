import StackForth.Numeral

namespace StackForth

-- A decimal fraction: `digits · 10 ^ exponent` with a sign, or one of the values that are no
-- number.
inductive Decimal
  | finite (negative : Bool) (digits : Nat) (exponent : Int)
  | infinite (negative : Bool)
  | undefined
deriving DecidableEq

namespace Decimal

-- Takes the zeros off the end of `digits`; the fuel is the number of digits.
def shorten : Nat → Nat → Int → Nat × Int
  | 0,        digits, exponent => (digits, exponent)
  | fuel + 1, digits, exponent =>
    if digits ≠ 0 ∧ digits % 10 = 0
    then shorten fuel (digits / 10) (exponent + 1)
    else (digits, exponent)

def ofDigits (negative : Bool) (digits : Nat) (exponent : Int) : Decimal :=
  if digits = 0 then .finite negative 0 0
  else
    let (digits, exponent) := shorten (Nat.toDigits 10 digits).length digits exponent
    .finite negative digits exponent

def exponent? : List Char → Option Int
  | []        => some 0
  | 'e' :: cs =>
    let (negative, digits) := splitSign cs
    if !digits.isEmpty && digits.all Char.isDigit
    then some (signed negative (StackForth.ofDigits (digitValues digits)))
    else none
  | _         => none

def read? (text : String) : Option Decimal :=
  let (negative, cs) := splitSign text.toList
  if cs = ['i', 'n', 'f'] then some (.infinite negative)
  else if cs = ['n', 'a', 'n'] then some .undefined
  else
    let whole := cs.takeWhile Char.isDigit
    let rest := cs.dropWhile Char.isDigit
    let (places, rest) :=
      match rest with
      | '.' :: more => (more.takeWhile Char.isDigit, more.dropWhile Char.isDigit)
      | _           => ([], rest)
    let digits := digitValues (whole ++ places)
    if digits.isEmpty then none
    else (exponent? rest).map fun e =>
      ofDigits negative (StackForth.ofDigits digits) (e - places.length)

def toInt? : Decimal → Option Int
  | .finite negative digits exponent =>
    if digits = 0 then some 0
    else if 0 ≤ exponent then
      some (signed negative (digits * Nat.pow 10 exponent.toNat))
    else none
  | _ => none

-- A fraction in text: the digits around a point where the point stands from 3 places before the
-- first digit to 16 places behind it, and with an exponent of at least two digits elsewhere.
def text : Decimal → String
  | .undefined         => "nan"
  | .infinite negative => if negative then "-inf" else "inf"
  | .finite negative digits exponent =>
    let ds := Nat.toDigits 10 digits
    let point : Int := if digits = 0 then 1 else exponent + ds.length
    let body :=
      if -4 < point ∧ point ≤ 16 then
        if point ≤ 0 then
          '0' :: '.' :: (List.replicate (-point).toNat '0' ++ ds)
        else
          let whole := (ds.take point.toNat).rightpad point.toNat '0'
          let rest := ds.drop point.toNat
          whole ++ '.' :: (if rest.isEmpty then ['0'] else rest)
      else
        let mantissa :=
          match ds with
          | d :: e :: rest => d :: '.' :: e :: rest
          | _              => ds
        let power := point - 1
        mantissa ++ 'e' :: (if power < 0 then '-' else '+') ::
          (Nat.toDigits 10 power.natAbs).leftpad 2 '0'
    String.ofList (if negative then '-' :: body else body)

end Decimal

end StackForth
