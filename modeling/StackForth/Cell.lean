namespace StackForth.Cell

def least : Int := -2147483648

def greatest : Int := 2147483647

def Fits (n : Int) : Prop := least ≤ n ∧ n ≤ greatest

instance : DecidablePred Fits := fun _ => inferInstanceAs (Decidable (_ ∧ _))

-- The number in range that is congruent modulo `2 ^ 32`.
def wrap (n : Int) : Int := n.bmod 4294967296

theorem fits_wrap (n : Int) : Fits (wrap n) :=
  ⟨Int.le_bmod (by decide), Int.le_of_lt_add_one (Int.bmod_lt (by decide))⟩

theorem fits_toInt (v : Int32) : Fits v.toInt :=
  ⟨v.le_toInt, Int.le_of_lt_add_one v.toInt_lt⟩

theorem toInt_ofInt {n : Int} (h : Fits n) : (Int32.ofInt n).toInt = n :=
  Int32.toInt_ofInt_of_le h.1 (Int.lt_add_one_of_le h.2)

end StackForth.Cell
