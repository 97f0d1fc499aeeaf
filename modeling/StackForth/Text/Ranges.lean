namespace StackForth.Text

abbrev Ranges := List (Nat × Nat)

def Ranges.contain (ranges : Ranges) (c : Char) : Bool :=
  ranges.any fun (first, last) => first ≤ c.toNat && c.toNat ≤ last

end StackForth.Text
