import StackForth.Image

namespace StackForth

namespace Layout

def addresses (start : Nat) : List (String × Program) → List (String × Nat)
  | []                   => []
  | (name, body) :: rest => (name, start) :: addresses (start + body.size) rest

theorem names_addresses (start : Nat) (words : List (String × Program)) :
    (addresses start words).map Prod.fst = words.map Prod.fst := by
  induction words generalizing start with
  | nil => rfl
  | cons w ws ih => simp [addresses, ih]

def append (program : Program) (words : List (String × Program)) : Program :=
  words.foldl (fun p w => p ++ w.2) program

end Layout

def Image.layout (main : Program) (words : Table Program) : Image where
  program    := Layout.append (main.push .halt) words.entries
  dictionary := ⟨Layout.addresses (main.size + 1) words.entries,
    by rw [Layout.names_addresses]; exact words.nodup⟩

end StackForth
