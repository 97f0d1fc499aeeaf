import StackForth.Datum.Order
import StackForth.Machine.Load

namespace StackForth.Listing

def labelLine (name : String) : String :=
  "      " ++ name ++ ":"

def itemLine (address : Nat) (item : String) : String :=
  Text.fourDigits address ++ "  " ++ item

def labelLines (labels : List (String × Int)) (address : Nat) : List String :=
  let names := (labels.filter fun l => l.2 = (address : Int)).map Prod.fst
  (Text.sorted names).map labelLine

def lines (labels : List (String × Int)) (address : Nat) : List String → List String
  | []           => []
  | item :: rest =>
    labelLines labels address ++ itemLine address item :: lines labels (address + 1) rest

-- The listing of items in text. Labels outside the program do not show.
def ofItems (items : List String) (labels : List (String × Int)) : String :=
  "\n".intercalate (lines labels 0 items)

inductive Problem
  | listAsAddress
  | disorder (d : Disorder)
  | unwritable

def Problem.message : Problem → String
  | .listAsAddress => "unhashable type: 'list'"
  | .disorder d    => d.message
  | .unwritable    => Refusal.unwritable.message

def written : Option String → Except Problem String
  | some text => .ok text
  | none      => .error .unwritable

def namesAt (entries : Entries) (address : Nat) : List Datum :=
  (entries.filter fun e => e.2.number? = some (address : Int)).map Prod.fst

def uncheckedLines (entries : Entries) (address : Nat) : List Item → Except Problem (List String)
  | []           => .ok []
  | item :: rest => do
    let names ← (Datum.sorted (namesAt entries address)).mapError .disorder
    let labels ← names.mapM fun name => written name.shown?
    let text ← written item.text?
    let below ← uncheckedLines entries (address + 1) rest
    return labels.map labelLine ++ itemLine address text :: below

def ofUnchecked (items : List Item) (entries : Entries) : Except Problem String :=
  if entries.any fun e => e.2.isList then .error .listAsAddress
  else (uncheckedLines entries 0 items).map ("\n".intercalate ·)

end StackForth.Listing

namespace StackForth

def Dictionary.labels (d : Dictionary) : List (String × Int) :=
  d.entries.map fun e => (e.1, (e.2 : Int))

def Image.listing (image : Image) : String :=
  Listing.ofItems (image.program.toList.map Instruction.text) image.dictionary.labels

namespace Listing

variable (labels : List (String × Int))

theorem namesAt_map (address : Nat) :
    namesAt (labels.map fun l => (.text l.1, .int l.2)) address =
      ((labels.filter fun l => l.2 = (address : Int)).map Prod.fst).map .text := by
  simp [namesAt, List.filter_map, Function.comp_def, Datum.number?]

theorem mapM_written (names : List String) :
    (names.map Datum.text).mapM (fun name => written name.shown?) = .ok names := by
  induction names with
  | nil => rfl
  | cons name names ih => rw [List.map_cons, List.mapM_cons, ih]; rfl

theorem uncheckedLines_map (address : Nat) (code : List Instruction) :
    uncheckedLines (labels.map fun l => (.text l.1, .int l.2)) address (code.map .instruction) =
      if code.all Instruction.writable then .ok (lines labels address (code.map Instruction.text))
      else .error .unwritable := by
  induction code generalizing address with
  | nil => rfl
  | cons i code ih =>
    have names (names : List String) : (Except.ok (names.map Datum.text)).mapError Problem.disorder =
        .ok (names.map Datum.text) :=
      rfl
    rw [List.map_cons, uncheckedLines, namesAt_map, Datum.sorted_map_text, ih, names]
    simp only [bind, Except.bind, mapM_written, Item.text?, Instruction.text?, List.all_cons]
    by_cases hi : i.writable
    case neg => simp [hi, written]
    case pos =>
      by_cases rest : code.all Instruction.writable <;>
        simp [hi, rest, written, lines, labelLines, pure, Except.pure]

-- The listing of a program under names with numbers as their addresses only fails for an operand that
-- cannot be written.
theorem ofUnchecked_map (code : List Instruction) :
    ofUnchecked (code.map .instruction) (labels.map fun l => (.text l.1, .int l.2)) =
      if code.all Instruction.writable then .ok (ofItems (code.map Instruction.text) labels)
      else .error .unwritable := by
  have h : (labels.map fun l => (Datum.text l.1, Datum.int l.2)).any (fun e => e.2.isList) = false := by
    simp [Datum.isList]
  rw [ofUnchecked, h, uncheckedLines_map]
  cases code.all Instruction.writable <;> rfl

end Listing

theorem Image.ofUnchecked_listing (image : Image) :
    Listing.ofUnchecked (image.program.toList.map .instruction) image.dictionary.toEntries =
      if image.program.toList.all Instruction.writable then .ok image.listing
      else .error .unwritable := by
  simpa [Dictionary.toEntries, Dictionary.labels, Function.comp_def, Image.listing] using
    Listing.ofUnchecked_map image.dictionary.labels image.program.toList

end StackForth
