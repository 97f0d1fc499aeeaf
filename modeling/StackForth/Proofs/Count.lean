import Mathlib.Data.List.DropRight
import StackForth.Proofs.Numeral

namespace StackForth

-- Digits of any script and their values. An underscore may stand between two of them.
inductive Spaced : List Char → List Nat → Prop
  | last (digit : Text.decimalDigit? c = some d) : Spaced [c] [d]
  | next (digit : Text.decimalDigit? c = some d) (later : Spaced cs ds) : Spaced (c :: cs) (d :: ds)
  | apart (digit : Text.decimalDigit? c = some d) (later : Spaced cs ds) :
    Spaced (c :: '_' :: cs) (d :: ds)

-- A sign, which may be left out, and no more digits than an integer has in text, between blanks.
inductive IsCount : String → Int → Prop
  | intro (sign : Sign) (spaced : Spaced cs digits) (short : digits.length ≤ digitLimit)
      (before : ∀ c ∈ front, isCountBlank c) (behind : ∀ c ∈ back, isCountBlank c) :
    IsCount (String.ofList (front ++ (sign.chars ++ cs) ++ back))
      (signed (sign == .minus) (Nat.ofDigits 10 digits.reverse))

namespace Text

variable {c : Char} {d : Nat}

theorem exists_zeroDigit (h : decimalDigit? c = some d) :
    ∃ first ∈ zeroDigits, c.toNat = first + d ∧ d < 10 := by
  have ⟨first, known, digit⟩ := List.exists_of_findSome?_eq_some h
  split at digit
  case isFalse => cases digit
  case isTrue range =>
    simp only [Bool.and_eq_true, decide_eq_true_eq] at range
    cases digit
    exact ⟨first, known, by omega, by omega⟩

theorem decimalDigit?_lt (h : decimalDigit? c = some d) : d < 10 :=
  have ⟨_, _, _, small⟩ := exists_zeroDigit h
  small

theorem zeroDigits_not_blank : ∀ first ∈ zeroDigits, 0x20 < first ∧
    (first + 10 ≤ 0x85 ∨ 0xA0 < first) ∧ (first + 10 ≤ 0x1680 ∨ 0x1680 < first) ∧
    (first + 10 ≤ 0x2000 ∨ 0x205F < first) ∧ (first + 10 ≤ 0x3000 ∨ 0x3000 < first) := by
  decide

theorem not_isBlank_of_digit (h : decimalDigit? c = some d) : isBlank c = false := by
  have ⟨first, known, code, small⟩ := exists_zeroDigit h
  have apart := zeroDigits_not_blank first known
  simp [isBlank, code]
  omega

end Text

namespace Spaced

variable {cs : List Char} {digits : List Nat}

theorem lt_ten (h : Spaced cs digits) : ∀ d ∈ digits, d < 10 := by
  induction h
  case last digit       => exact List.forall_mem_singleton.mpr (Text.decimalDigit?_lt digit)
  case next digit _ ih  => exact List.forall_mem_cons.mpr ⟨Text.decimalDigit?_lt digit, ih⟩
  case apart digit _ ih => exact List.forall_mem_cons.mpr ⟨Text.decimalDigit?_lt digit, ih⟩

theorem not_blank (h : Spaced cs digits) : ∀ c ∈ cs, isCountBlank c = false := by
  have digitBlank {c : Char} {d : Nat} (digit : Text.decimalDigit? c = some d) :
      isCountBlank c = false := by
    simp [isCountBlank, Text.not_isBlank_of_digit digit]
  induction h
  case last digit       => exact List.forall_mem_singleton.mpr (digitBlank digit)
  case next digit _ ih  => exact List.forall_mem_cons.mpr ⟨digitBlank digit, ih⟩
  case apart digit _ ih =>
    exact List.forall_mem_cons.mpr ⟨digitBlank digit, List.forall_mem_cons.mpr ⟨by decide, ih⟩⟩

theorem head (h : Spaced cs digits) : ∃ c rest d, cs = c :: rest ∧ Text.decimalDigit? c = some d := by
  cases h <;> exact ⟨_, _, _, rfl, ‹_›⟩

theorem splitSign (h : Spaced cs digits) (sign : Sign) :
    splitSign (sign.chars ++ cs) = (sign == .minus, cs) := by
  cases sign
  case plus  => rfl
  case minus => rfl
  case none =>
    obtain ⟨c, rest, d, rfl, digit⟩ := h.head
    -- The first character is a digit, and so it is no sign.
    rw [Sign.chars, List.nil_append, StackForth.splitSign]
    · rfl
    · rintro _ ⟨⟩
      cases digit
    · rintro _ ⟨⟩
      cases digit

end Spaced

theorem exists_trimmed (p : Char → Bool) (cs : List Char) :
    ∃ front back, (∀ c ∈ front, p c) ∧ (∀ c ∈ back, p c) ∧
      front ++ (cs.dropWhile p).rdropWhile p ++ back = cs :=
  ⟨cs.takeWhile p, (cs.dropWhile p).rtakeWhile p, fun _ => List.mem_takeWhile_imp,
    fun _ => List.mem_rtakeWhile_imp, by
      rw [List.append_assoc, List.rdropWhile_append_rtakeWhile, List.takeWhile_append_dropWhile]⟩

variable {text : String} {n : Int}

theorem length_toDigits_ofDigits {digits : List Nat} {k : Nat} (h : ∀ d ∈ digits, d < 10) (hk : 0 < k)
    (short : digits.length ≤ k) :
    (Nat.toDigits 10 (Nat.ofDigits 10 digits.reverse)).length ≤ k := by
  have places : ∀ d ∈ digits.reverse, d < 10 := fun d hd => h d (List.mem_reverse.mp hd)
  have lt := Nat.ofDigits_lt_base_pow_length (by decide) places
  rw [List.length_reverse] at lt
  rw [Nat.length_toDigits_le_iff (by decide) hk]
  exact Nat.lt_of_lt_of_le lt (Nat.pow_le_pow_right (by decide) short)

-- What can be read can be written.
theorem IsCount.isWritable (h : IsCount text n) : isWritable n := by
  obtain ⟨sign, spaced, short, _, _⟩ := h
  have size (negative : Bool) (n : Nat) : (signed negative n).natAbs = n := by
    cases negative <;> simp [signed]
  rw [StackForth.isWritable, decide_eq_true_eq, size]
  exact length_toDigits_ofDigits spaced.lt_ten (by decide) short

end StackForth
