namespace StackForth.Text

def decimal (n : Int) : String :=
  match n with
  | .ofNat k   => Nat.repr k
  | .negSucc k => "-" ++ Nat.repr (k + 1)

def fourDigits (n : Nat) : String :=
  String.ofList ((Nat.toDigits 10 n).leftpad 4 '0')

def spaced (ns : List Int) : String :=
  " ".intercalate (ns.map decimal)

def bracketed (ns : List Int) : String :=
  "[" ++ ", ".intercalate (ns.map decimal) ++ "]"

end StackForth.Text
