import StackForth.Instruction
import StackForth.Table

namespace StackForth

abbrev Dictionary := Table Nat

abbrev Program := Array Instruction

structure Image where
  program    : Program := #[]
  dictionary : Dictionary := .empty
deriving DecidableEq

abbrev Entries := List (Datum × Datum)

namespace Entries

def put (entries : Entries) (name address : Datum) : Entries :=
  if entries.any fun e => e.1.sameName name
  then entries.map fun e => if e.1.sameName name then (e.1, address) else e
  else entries ++ [(name, address)]

def ofList (pairs : List (Datum × Datum)) : Entries :=
  pairs.foldl (fun entries e => entries.put e.1 e.2) []

end Entries

-- Adds entries whose names are texts that are not empty and whose addresses are natural numbers.
-- The first entry that is not so is refused.
def Dictionary.addEntries (d : Dictionary) : Entries → Except Refusal Dictionary
  | [] => .ok d
  | (.text name, address) :: rest =>
    if name = "" then .error (Rejection.wordName (.text name)).refusal
    else
      match address with
      | .int (.ofNat a) => Dictionary.addEntries (d.insert name a) rest
      | _               => .error (Rejection.wordAddress name address).refusal
  | (name, _) :: _ => .error (Rejection.wordName name).refusal

def Dictionary.ofEntries (entries : Entries) : Except Refusal Dictionary :=
  Dictionary.addEntries .empty entries

def Dictionary.toEntries (d : Dictionary) : Entries :=
  d.entries.map fun e => (.text e.1, .int e.2)

end StackForth
