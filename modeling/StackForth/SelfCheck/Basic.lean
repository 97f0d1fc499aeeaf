import StackForth.Journal

namespace StackForth.SelfCheck

structure Check where
  group   : String
  name    : String
  journal : Journal := []
  holds   : Bool

structure Suite where
  part   : String
  checks : List Check

def group (name : String) (checks : List (String × Bool)) : List Check :=
  checks.map fun c => { group := name, name := c.1, holds := c.2 }

namespace Suite

def ordered (s : Suite) : List Check :=
  s.checks.mergeSort fun a b =>
    decide (a.group < b.group) || (a.group == b.group && !decide (b.name < a.name))

def line (s : Suite) (notes : Bool) (c : Check) : String :=
  c.name ++ " (" ++ s.part ++ "." ++ c.group ++ "." ++ c.name ++ ") ... " ++
    (if notes then c.journal.text else "") ++ (if c.holds then "ok" else "FAIL") ++ "\n"

def text (s : Suite) (notes : Bool) : String :=
  let failures := (s.checks.filter (!·.holds)).length
  String.join (s.ordered.map (s.line notes)) ++ "\n" ++
    String.ofList (List.replicate 70 '-') ++ "\nRan " ++ Nat.repr s.checks.length ++
    " tests in *s\n\n" ++
    (if failures = 0 then "OK" else "FAILED (failures=" ++ Nat.repr failures ++ ")") ++ "\n"

end Suite

end StackForth.SelfCheck
