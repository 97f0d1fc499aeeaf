import StackForth.Text.Quoted

namespace StackForth.Text.Utf8

inductive Reason
  | startByte
  | continuationByte
  | endOfData

def Reason.text : Reason → String
  | .startByte        => "invalid start byte"
  | .continuationByte => "invalid continuation byte"
  | .endOfData        => "unexpected end of data"

structure Malformed where
  octet    : UInt8
  position : Nat
  count    : Nat
  reason   : Reason

def Malformed.message (m : Malformed) : String :=
  let place :=
    if m.count = 1
    then "byte 0x" ++ String.ofList (hexadecimal 2 m.octet.toNat) ++ " in position " ++
      Nat.repr m.position
    else "bytes in position " ++ Nat.repr m.position ++ "-" ++ Nat.repr (m.position + m.count - 1)
  "'utf-8' codec can't decode " ++ place ++ ": " ++ m.reason.text

-- A character of several octets that is not complete: where it began, how many octets it has so far
-- and still needs, between which bounds the next one has to lie, and the bits collected.
structure Open where
  lead     : UInt8
  position : Nat
  seen     : Nat
  missing  : Nat
  least    : Nat
  most     : Nat
  bits     : Nat

-- A character that begins with an octet from 0x80 on. The bounds on its second octet rule out long
-- forms, surrogates and numbers past the last code point.
def begin? (octet : UInt8) (position : Nat) : Option Open :=
  let n := octet.toNat
  if 0xC2 ≤ n ∧ n ≤ 0xDF then
    some ⟨octet, position, 1, 1, 0x80, 0xBF, n % 0x20⟩
  else if 0xE0 ≤ n ∧ n ≤ 0xEF then
    let least := if n = 0xE0 then 0xA0 else 0x80
    let most := if n = 0xED then 0x9F else 0xBF
    some ⟨octet, position, 1, 2, least, most, n % 0x10⟩
  else if 0xF0 ≤ n ∧ n ≤ 0xF4 then
    let least := if n = 0xF0 then 0x90 else 0x80
    let most := if n = 0xF4 then 0x8F else 0xBF
    some ⟨octet, position, 1, 3, least, most, n % 0x08⟩
  else
    none

-- Decodes the octets that are left. `text` holds the characters so far, last character first, and
-- `current` the character that is not complete.
def decodeFrom (position : Nat) (current : Option Open) (text : List Char) :
    List UInt8 → Except Malformed String
  | [] =>
    match current with
    | none   => .ok (String.ofList text.reverse)
    | some o => .error ⟨o.lead, o.position, o.seen, .endOfData⟩
  | octet :: rest =>
    match current with
    | none =>
      if octet.toNat < 0x80 then
        decodeFrom (position + 1) none (Char.ofNat octet.toNat :: text) rest
      else
        match begin? octet position with
        | some o => decodeFrom (position + 1) (some o) text rest
        | none   => .error ⟨octet, position, 1, .startByte⟩
    | some o =>
      if o.least ≤ octet.toNat ∧ octet.toNat ≤ o.most then
        let bits := o.bits * 0x40 + octet.toNat % 0x40
        if o.missing = 1 then
          decodeFrom (position + 1) none (Char.ofNat bits :: text) rest
        else
          let o := { o with
            seen := o.seen + 1, missing := o.missing - 1, least := 0x80, most := 0xBF, bits := bits }
          decodeFrom (position + 1) (some o) text rest
      else
        .error ⟨o.lead, o.position, o.seen, .continuationByte⟩

def decode (octets : List UInt8) : Except Malformed String :=
  decodeFrom 0 none [] octets

end StackForth.Text.Utf8
