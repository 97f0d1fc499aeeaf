import StackForth.Text.Utf8

namespace StackForth

inductive Content
  | file (octets : List UInt8)
  | directory

abbrev Volume := List (String × Content)

inductive OpenError
  | missing
  | notDirectory
  | isDirectory

namespace OpenError

def number : OpenError → Nat
  | .missing      => 2
  | .notDirectory => 20
  | .isDirectory  => 21

def reason : OpenError → String
  | .missing      => "No such file or directory"
  | .notDirectory => "Not a directory"
  | .isDirectory  => "Is a directory"

def message (e : OpenError) (path : String) : String :=
  "[Errno " ++ Nat.repr e.number ++ "] " ++ e.reason ++ ": " ++ Text.quote path

end OpenError

namespace Volume

-- The parts of a path between slashes, as lists of characters. `part` holds the characters of the
-- part that is open, last character first.
def partsAfter (part : List Char) : List Char → List String
  | []      => [String.ofList part.reverse]
  | c :: cs =>
    if c == '/'
    then String.ofList part.reverse :: partsAfter [] cs
    else partsAfter (c :: part) cs

def parts (path : String) : List String :=
  partsAfter [] path.toList

def names (path : String) : List String :=
  (parts path).filter fun part => part ≠ "" ∧ part ≠ "."

inductive Place
  | above
  | inside (names : List String)

-- The file at the end of names, or that there is a directory. A directory is there also when the
-- volume has something below it.
def content? (v : Volume) (path : List String) : Option Content :=
  match v.find? fun e => names e.1 = path with
  | some e => some e.2
  | none   =>
    if path.isEmpty || v.any fun e => path.isPrefixOf (names e.1) then some .directory else none

-- Goes on from a place along the parts of a path. A file is no place to go on from, not even by an
-- empty part.
def follow (v : Volume) : Place → List String → Except OpenError Place
  | place,        []           => .ok place
  | .above,       part :: rest =>
    if part = "" ∨ part = "." ∨ part = ".."
    then follow v .above rest
    else .error .missing
  | .inside here, part :: rest =>
    match content? v here with
    | none           => .error .missing
    | some (.file _) => .error .notDirectory
    | some .directory =>
      if part = "" ∨ part = "." then follow v (.inside here) rest
      else if part = ".." then
        follow v (if here.isEmpty then .above else .inside here.dropLast) rest
      else follow v (.inside (here ++ [part])) rest

def read (v : Volume) (path : String) : Except OpenError (List UInt8) := do
  let start : Place := if path.toList.head? = some '/' then .above else .inside []
  match ← follow v start (parts path) with
  | .above       => throw .isDirectory
  | .inside here =>
    match content? v here with
    | none                => throw .missing
    | some .directory     => throw .isDirectory
    | some (.file octets) => return octets

end Volume

end StackForth
