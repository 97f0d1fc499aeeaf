import StackForth.Datum
import StackForth.Text.Order

namespace StackForth

structure Disorder where
  value : Datum
  other : Datum

namespace Datum

def kindName : Datum → String
  | .none      => "NoneType"
  | .bool _    => "bool"
  | .int _     => "int"
  | .text _    => "str"
  | .decimal _ => "float"
  | .list _    => "list"

def comparable : Datum → Datum → Bool
  | .text _, .text _ => true
  | a,       b       => a.number?.isSome && b.number?.isSome

def before : Datum → Datum → Bool
  | .text s, .text t => decide (s < t)
  | a,       b       => decide (a.number?.getD 0 < b.number?.getD 0)

def inOrder (ds : List Datum) : List Datum :=
  ds.mergeSort fun a b => !b.before a

def isRun (related : Datum → Datum → Bool) : List Datum → Bool
  | a :: b :: ds => related a b && isRun related (b :: ds)
  | _            => true

-- The value that a further one is compared with first: the last value as long as they go up or go
-- down, and the middle one of the values in order from then on.
def rival (ds : List Datum) : Option Datum :=
  if isRun (fun a b => !b.before a) ds || isRun (fun a b => b.before a) ds
  then ds.getLast?
  else (inOrder ds)[ds.length / 2]?

-- The values in order. The first value that has no order with those before it is told with the one
-- that it is compared with.
def sorted : List Datum → Except Disorder (List Datum)
  | []      => .ok []
  | d :: ds =>
    let front := d :: ds.takeWhile d.comparable
    match ds.dropWhile d.comparable with
    | []     => .ok (inOrder front)
    | e :: _ => .error ⟨e, (rival front).getD d⟩

theorem inOrder_map_text (ts : List String) :
    inOrder (ts.map .text) = (Text.sorted ts).map .text := by
  rw [inOrder, Text.sorted]
  refine (List.map_mergeSort ?_).symm
  intros
  rfl

theorem takeWhile_map_text (s : String) (ts : List String) :
    (ts.map Datum.text).takeWhile (Datum.text s).comparable = ts.map .text := by
  induction ts with
  | nil => rfl
  | cons t ts ih => rw [List.map_cons, List.takeWhile_cons_of_pos rfl, ih]

theorem dropWhile_map_text (s : String) (ts : List String) :
    (ts.map Datum.text).dropWhile (Datum.text s).comparable = [] := by
  induction ts with
  | nil => rfl
  | cons t ts ih => rw [List.map_cons, List.dropWhile_cons_of_pos rfl, ih]

theorem sorted_map_text (ts : List String) :
    sorted (ts.map .text) = .ok ((Text.sorted ts).map .text) := by
  cases ts with
  | nil => simp [sorted, Text.sorted]
  | cons t ts =>
    rw [List.map_cons, sorted, dropWhile_map_text, takeWhile_map_text, ← List.map_cons,
      inOrder_map_text]

end Datum

def Disorder.message (d : Disorder) : String :=
  "'<' not supported between instances of '" ++ d.value.kindName ++ "' and '" ++
    d.other.kindName ++ "'"

end StackForth
