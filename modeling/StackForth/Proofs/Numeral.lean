import Mathlib.Data.Nat.Digits.Defs
import StackForth.Proofs.Correctness
import StackForth.Proofs.Reporting

namespace StackForth

namespace Literal

variable {token : String} {c : Int32}

theorem read_eq_notNumeral_iff : read token = .notNumeral ↔ isNumeral token = false where
  mp h := by
    cases numeral : isNumeral token
    case false => rfl
    case true =>
      simp only [read, numeral, Bool.not_true, Bool.false_eq_true, if_false] at h
      repeat' split at h
      all_goals cases h
  mpr h := by simp [read, h]

theorem isNumeral_of_read (h : read token = .cell c) : isNumeral token :=
  Bool.of_not_eq_false fun numeral => by
    rw [read_eq_notNumeral_iff.mpr numeral] at h
    cases h

theorem read_eq (numeral : isNumeral token) (short : ¬Overlong token) :
    read token = if Cell.Fits (numeralValue token)
      then .cell (Int32.ofInt (numeralValue token)) else .outOfRange := by
  have digits : ¬digitLimit < numeralDigits token := fun long => short ⟨numeral, long⟩
  simp only [read, numeral, digits, Bool.not_true, Bool.false_eq_true, if_false]

end Literal

inductive Sign
  | none
  | plus
  | minus
deriving DecidableEq

def Sign.chars : Sign → List Char
  | none  => []
  | plus  => ['+']
  | minus => ['-']

theorem Sign.not_blank (sign : Sign) : ∀ c ∈ sign.chars, Text.isBlank c = false := by
  cases sign
  case none  => nofun
  case plus  => exact List.forall_mem_singleton.mpr rfl
  case minus => exact List.forall_mem_singleton.mpr rfl

theorem exists_sign (cs : List Char) :
    ∃ sign : Sign, sign.chars ++ (splitSign cs).2 = cs ∧ (splitSign cs).1 = (sign == .minus) := by
  fun_cases splitSign cs
  case case1 => exact ⟨.plus, rfl, rfl⟩
  case case2 => exact ⟨.minus, rfl, rfl⟩
  case case3 => exact ⟨.none, rfl, rfl⟩

theorem splitSign_of_isDigit {cs : List Char} (h : ∀ c ∈ cs, c.isDigit) :
    splitSign cs = (false, cs) := by
  fun_cases splitSign cs
  case case1 => cases h '+' List.mem_cons_self
  case case2 => cases h '-' List.mem_cons_self
  case case3 => rfl

def figure (d : Fin 10) : Char :=
  d.val.digitChar

theorem exists_figure {c : Char} (h : c.isDigit) : ∃ d, figure d = c := by
  have range : 0x30 ≤ c.toNat ∧ c.toNat ≤ 0x39 := by
    simpa [Char.isDigit, UInt32.le_iff_toNat_le] using h
  have small : c.toNat - 0x30 < 10 := by omega
  refine ⟨⟨c.toNat - 0x30, small⟩, Char.toNat_inj.mp ?_⟩
  rw [figure, Nat.toNat_digitChar_of_lt_ten small]
  omega

theorem exists_figures {cs : List Char} (h : ∀ c ∈ cs, c.isDigit) :
    ∃ digits : List (Fin 10), digits.map figure = cs := by
  induction cs
  case nil => exact ⟨[], rfl⟩
  case cons c cs ih =>
    rw [List.forall_mem_cons] at h
    have ⟨d, hd⟩ := exists_figure h.left
    have ⟨digits, hds⟩ := ih h.right
    exact ⟨d :: digits, by rw [List.map_cons, hd, hds]⟩

theorem isDigit_of_mem_figures (digits : List (Fin 10)) : ∀ c ∈ digits.map figure, c.isDigit := by
  simp [figure, Nat.isDigit_digitChar]

theorem digitValues_figures (digits : List (Fin 10)) :
    digitValues (digits.map figure) = digits.map Fin.val := by
  simp [digitValues, figure, Nat.toNat_digitChar_of_lt_ten]

-- Digits are read from the left, and their places are counted from the right.
theorem ofDigits_eq (digits : List Nat) : ofDigits digits = Nat.ofDigits 10 digits.reverse := by
  simp [ofDigits, Nat.ofDigits_eq_foldr, Nat.add_comm]

-- A sign, which may be left out, and one or more digits, most significant digit first.
structure Numeral where
  sign     : Sign
  digits   : List (Fin 10)
  nonempty : digits ≠ []

namespace Numeral

def text (n : Numeral) : String :=
  String.ofList (n.sign.chars ++ n.digits.map figure)

def magnitude (n : Numeral) : Nat :=
  Nat.ofDigits 10 (n.digits.map Fin.val).reverse

def value (n : Numeral) : Int :=
  match n.sign with
  | .minus => -n.magnitude
  | _      => n.magnitude

def padded (n : Numeral) (zeros : Nat) : Numeral where
  sign     := if n.sign = .none then .plus else n.sign
  digits   := List.replicate zeros 0 ++ n.digits
  nonempty := List.append_ne_nil_of_right_ne_nil _ n.nonempty

variable (n : Numeral)

theorem magnitude_padded (zeros : Nat) : (n.padded zeros).magnitude = n.magnitude := by
  simp [magnitude, padded, Nat.ofDigits_append]

theorem value_padded (zeros : Nat) : (n.padded zeros).value = n.value := by
  simp only [value, magnitude_padded]
  cases h : n.sign <;> simp [padded, h]

theorem splitSign_text : splitSign n.text.toList = (n.sign == .minus, n.digits.map figure) := by
  rw [text, String.toList_ofList]
  cases n.sign
  case none  => exact splitSign_of_isDigit (isDigit_of_mem_figures n.digits)
  case plus  => rfl
  case minus => rfl

theorem isNumeral_text : isNumeral n.text := by
  have digits : (n.digits.map figure).all Char.isDigit :=
    List.all_eq_true.mpr (isDigit_of_mem_figures n.digits)
  have full : n.digits.map figure ≠ [] := mt List.map_eq_nil_iff.mp n.nonempty
  simp only [isNumeral, splitSign_text, digits, List.isEmpty_eq_false_iff.mpr full, Bool.not_false,
    Bool.and_self]

theorem numeralValue_text : numeralValue n.text = n.value := by
  rw [numeralValue, splitSign_text]
  simp only [digitValues_figures, ofDigits_eq]
  cases h : n.sign <;> simp [signed, value, magnitude, h]

theorem overlong_text_iff : Overlong n.text ↔ digitLimit < n.digits.length := by
  simp [Overlong, isNumeral_text, numeralDigits, splitSign_text]

variable {n} (short : n.digits.length ≤ digitLimit)

include short

theorem read_text : Literal.read n.text =
    if Cell.Fits n.value then .cell (Int32.ofInt n.value) else .outOfRange := by
  have short : ¬Overlong n.text := mt n.overlong_text_iff.mp (Nat.not_lt_of_le short)
  rw [Literal.read_eq n.isNumeral_text short, numeralValue_text]

theorem read_eq_cell_iff {v : Int} :
    (∃ c, Literal.read n.text = .cell c ∧ c.toInt = v) ↔ v = n.value ∧ Cell.Fits v := by
  rw [read_text short]
  constructor
  · intro ⟨c, read, value⟩
    split at read
    case isFalse => cases read
    case isTrue fits =>
      cases read
      rw [Cell.toInt_ofInt fits] at value
      exact ⟨value.symm, value ▸ fits⟩
  · intro ⟨value, fits⟩
    subst value
    exact ⟨_, if_pos fits, Cell.toInt_ofInt fits⟩

theorem read_eq_outOfRange_iff : Literal.read n.text = .outOfRange ↔ ¬Cell.Fits n.value := by
  rw [read_text short]
  split
  case isTrue fits => exact iff_of_false nofun fun far => far fits
  case isFalse far => exact iff_of_true rfl far

theorem read_padded {zeros : Nat} (more : n.digits.length + zeros ≤ digitLimit) :
    Literal.read (n.padded zeros).text = Literal.read n.text := by
  have longer : (n.padded zeros).digits.length ≤ digitLimit := by
    simpa [padded, Nat.add_comm] using more
  rw [read_text longer, read_text short, value_padded]

end Numeral

theorem isNumeral_iff {token : String} : isNumeral token ↔ ∃ n : Numeral, n.text = token where
  mp h := by
    simp only [isNumeral, Bool.and_eq_true, List.all_eq_true] at h
    obtain ⟨sign, hs, _⟩ := exists_sign token.toList
    obtain ⟨digits, hd⟩ := exists_figures h.right
    have full : digits ≠ [] := by
      rintro rfl
      simp [← hd] at h
    exact ⟨⟨sign, digits, full⟩, by rw [Numeral.text, hd, hs, String.ofList_toList]⟩
  mpr := by
    rintro ⟨n, rfl⟩
    exact n.isNumeral_text

theorem isNumeral_ne {token other : String} (h : isNumeral token) (ho : isNumeral other = false) :
    token ≠ other := by
  rintro rfl
  simp [h] at ho

theorem splitSign_decimal (n : Int) :
    splitSign (Text.decimal n).toList = (decide (n < 0), Nat.toDigits 10 n.natAbs) := by
  cases n
  case ofNat k =>
    have nonneg : ¬(Int.ofNat k < 0) := Int.not_lt.mpr (Int.natCast_nonneg k)
    rw [Text.decimal, Nat.repr_eq_ofList_toDigits, String.toList_ofList, decide_eq_false nonneg]
    exact splitSign_of_isDigit fun _ => Nat.isDigit_of_mem_toDigits (by decide) (by decide)
  case negSucc k =>
    simp [Text.decimal, Nat.repr_eq_ofList_toDigits, splitSign, Int.negSucc_lt_zero]

theorem isNumeral_decimal (n : Int) : isNumeral (Text.decimal n) := by
  simp only [isNumeral, splitSign_decimal, Bool.and_eq_true, List.all_eq_true]
  refine ⟨by simp [Nat.toDigits_ne_nil], fun c hc => ?_⟩
  exact Nat.isDigit_of_mem_toDigits (by decide) (by decide) hc

theorem numeralValue_decimal (n : Int) : numeralValue (Text.decimal n) = n := by
  have magnitude : ofDigits (digitValues (Nat.toDigits 10 n.natAbs)) = n.natAbs := by
    rw [ofDigits, digitValues, List.foldl_map]
    exact Nat.ofDigitChars_ten_toDigits
  simp only [numeralValue, splitSign_decimal, magnitude, signed, decide_eq_true_eq]
  split <;> omega

-- What is too long to be read is too long to be written in the first place.
theorem overlong_decimal_iff (n : Int) : Overlong (Text.decimal n) ↔ ¬isWritable n := by
  simp [Overlong, isNumeral_decimal, numeralDigits, splitSign_decimal, isWritable]

theorem isWritable_of_fits {n : Int} (h : Cell.Fits n) : isWritable n := by
  have small : n.natAbs < 10 ^ 10 := by
    have : -2147483648 ≤ n ∧ n ≤ 2147483647 := h
    omega
  have ten := (Nat.length_toDigits_le_iff (by decide) (by decide)).mpr small
  exact decide_eq_true (Nat.le_trans ten (by decide))

theorem read_decimal (c : Int32) : Literal.read (Text.decimal c.toInt) = .cell c := by
  have fits := Cell.fits_toInt c
  have short : ¬Overlong (Text.decimal c.toInt) :=
    fun long => (overlong_decimal_iff _).mp long (isWritable_of_fits fits)
  rw [Literal.read_eq (isNumeral_decimal _) short, numeralValue_decimal, if_pos fits,
    Int32.ofInt_toInt]

theorem tokens_numeral {token : String} (h : isNumeral token) : Text.tokens token = [token] := by
  refine Text.tokens_of_not_blank (isNumeral_ne h (by decide)) ?_
  obtain ⟨n, rfl⟩ := isNumeral_iff.mp h
  intro c hc
  rw [Numeral.text, String.toList_ofList, List.mem_append] at hc
  cases hc
  case inl hc => exact n.sign.not_blank c hc
  case inr hc =>
    have black : ∀ d, Text.isBlank (figure d) = false := by decide
    obtain ⟨d, _, rfl⟩ := List.mem_map.mp hc
    exact black d

namespace Assembles

variable {token : String} {c : Int32}

theorem ofLiteral (h : Literal.read token = .cell c) :
    Assembles .empty token { main := #[.push c], position := 1 } ⟨#[.push c, .halt], .empty⟩ where
  feed := by
    have numeral := Literal.isNumeral_of_read h
    have term : Term.ofToken? token = some (.literal c) := by simp [Term.ofToken?, h]
    have takes : Assembler.Takes {} token { main := #[.push c] } :=
      .outer rfl (isNumeral_ne numeral (by decide)) (isNumeral_ne numeral (by decide)) term
    rw [Assembler.feed_ok_iff, tokens_numeral numeral, Assembler.feedTokens_cons_ok_iff]
    exact ⟨rfl, _, takes.feedToken rfl, rfl⟩
  finalize := rfl

theorem runSource_literal (h : Literal.read token = .cell c) {cells : List Int}
    (fits : ∀ v ∈ cells, Cell.Fits v) (tracing : Bool) :
    ∃ r, r.isOk ∧ r.cells = cells ++ [c.toInt] ∧ ∀ bound, 2 ≤ bound →
      (runSource bound token { tracing, cells := cells.map .int }).2 = .ok r := by
  have stack := Load.stack_ok [] fits
  have ⟨r, ok, value, steps, run⟩ := (ofLiteral h).runSource_of_evaluates
    { tracing, cells := cells.map .int } rfl stack (.literal .nil)
  exact ⟨r, ok, by simp [Report.cells, value], fun bound hb => run bound (steps ▸ hb)⟩

end Assembles

-- A token is no literal just when it is not spelled as a sign and digits. What is spelled so is
-- read as its value unless the value is out of range, and a plus sign and zeros in front do not
-- matter. The decimal form of a cell is a text that pushes the cell.
theorem literals_are_decoded_exactly :
    (∀ token, Literal.read token = .notNumeral ↔ ¬∃ n : Numeral, n.text = token) ∧
    (∀ n : Numeral, n.digits.length ≤ 4300 →
      (∀ v : Int, (∃ c, Literal.read n.text = .cell c ∧ c.toInt = v) ↔
        v = n.value ∧ -2 ^ 31 ≤ v ∧ v ≤ 2 ^ 31 - 1) ∧
      (Literal.read n.text = .outOfRange ↔ ¬(-2 ^ 31 ≤ n.value ∧ n.value ≤ 2 ^ 31 - 1)) ∧
      ∀ zeros, n.digits.length + zeros ≤ 4300 →
        Literal.read (n.padded zeros).text = Literal.read n.text) ∧
    ∀ c : Int32,
      assemble (Text.decimal c.toInt) = .ok ⟨#[.push c, .halt], .empty⟩ ∧
      ∀ cells : List Int, (∀ v ∈ cells, Cell.Fits v) → ∀ tracing, ∃ r, r.isOk ∧
        r.cells = cells ++ [c.toInt] ∧ ∀ bound, 2 ≤ bound →
        (runSource bound (Text.decimal c.toInt) { tracing, cells := cells.map .int }).2 = .ok r := by
  refine ⟨fun token => ?spelled, fun n short => ⟨fun v => ?value, ?far, ?padded⟩, fun c => ?pushed⟩
  case spelled => rw [Literal.read_eq_notNumeral_iff, ← isNumeral_iff, Bool.not_eq_true]
  case value   => exact Numeral.read_eq_cell_iff short
  case far     => exact Numeral.read_eq_outOfRange_iff short
  case padded  => exact fun _ => Numeral.read_padded short
  case pushed  =>
    have assembled := Assembles.ofLiteral (read_decimal c)
    have image := Assembler.assemble_eq_ok_iff.mpr ⟨_, assembled.feed, assembled.finalize⟩
    exact ⟨image, fun _ fits tracing => Assembles.runSource_literal (read_decimal c) fits tracing⟩

def leastNumeral : Numeral :=
  ⟨.minus, [2, 1, 4, 7, 4, 8, 3, 6, 4, 8], by decide⟩

def farNumeral : Numeral :=
  ⟨.none, [2, 1, 4, 7, 4, 8, 3, 6, 4, 8], by decide⟩

theorem literals_are_decoded_exactly_least :
    Literal.read "2dup" = .notNumeral ∧
    (∃ c, Literal.read "-2147483648" = .cell c ∧ c.toInt = -2147483648) ∧
    Literal.read "-0002147483648" = Literal.read "-2147483648" ∧
    Literal.read "2147483648" = .outOfRange ∧
    ∃ r, r.isOk ∧ r.cells = [7, -2147483648] ∧
      (runSource 2 "-2147483648" { cells := [.int 7] }).2 = .ok r := by
  have ⟨spelled, decoded, pushed⟩ := literals_are_decoded_exactly
  have ⟨least, _, padded⟩ := decoded leastNumeral (by decide)
  have ⟨_, far, _⟩ := decoded farNumeral (by decide)
  have ⟨r, ok, cells, run⟩ := (pushed Int32.minValue).right [7] (by decide) false
  have nearly : ¬∃ n : Numeral, n.text = "2dup" := fun n => by cases isNumeral_iff.mpr n
  exact ⟨(spelled "2dup").mpr nearly, (least _).mpr (by decide), padded 3 (by decide),
    far.mpr (by decide), r, ok, cells, run 2 (Nat.le_refl 2)⟩

end StackForth
