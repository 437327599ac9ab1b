import Mathlib.Data.List.TakeWhile
import Mathlib.Data.Nat.Digits.Defs

/-!
# ASCII text

Byte strings, decimal numerals and their reading. A numeral is read up to its
first byte that is no digit, and printing before reading loses nothing.
-/

namespace ModernCommon
namespace Library

/-- A string of arbitrary bytes. -/
abbrev Bytes := List UInt8

/-- The bytes of an ASCII text. -/
def bytes (text : String) : Bytes :=
  text.toList.map fun c => UInt8.ofNat c.toNat

/-- The bytes `0` to `9`. -/
def isDigit (byte : UInt8) : Bool :=
  48 ≤ byte && byte ≤ 57

/-- The numeral of a digit. -/
def digit (value : Nat) : UInt8 :=
  UInt8.ofNat (48 + value)

/-- Decimal numeral of a natural number. -/
def decimal (n : Nat) : Bytes :=
  if n = 0 then [digit 0] else (Nat.digits 10 n).reverse.map digit

/-- Decimal numeral of an integer, with a minus sign when negative. -/
def signedDecimal (n : Int) : Bytes :=
  if n < 0 then 45 :: decimal n.natAbs else decimal n.natAbs

/-- Value of a numeral that consists of digits. -/
def numeralValue (numeral : Bytes) : Nat :=
  numeral.foldl (fun value byte => 10 * value + (byte.toNat - 48)) 0

/-- Read an optionally signed numeral and ignore what follows its last digit. -/
def readSigned : Bytes → Int
  | [] => 0
  | byte :: rest =>
      if byte = 45 then -numeralValue (rest.takeWhile isDigit)
      else if byte = 43 then numeralValue (rest.takeWhile isDigit)
      else numeralValue ((byte :: rest).takeWhile isDigit)

theorem digit_toNat
    {value : Nat}
    (small : value < 10) :
    (digit value).toNat = 48 + value := by
  rw [digit, UInt8.toNat_ofNat']
  omega

theorem isDigit_iff (byte : UInt8) :
    isDigit byte ↔ 48 ≤ byte.toNat ∧ byte.toNat ≤ 57 := by
  simp [isDigit, UInt8.le_iff_toNat_le]

theorem isDigit_digit
    {value : Nat}
    (small : value < 10) :
    isDigit (digit value) := by
  rw [isDigit_iff, digit_toNat small]
  omega

theorem decimal_ne_nil (n : Nat) : decimal n ≠ [] := by
  by_cases zero : n = 0
  · simp [decimal, zero]
  · simp [decimal, zero, Nat.digits_ne_nil_iff_ne_zero]

theorem isDigit_of_mem_decimal
    {n : Nat}
    {byte : UInt8}
    (present : byte ∈ decimal n) :
    isDigit byte := by
  unfold decimal at present
  split at present
  · obtain rfl := List.mem_singleton.mp present
    exact isDigit_digit (by decide)
  · obtain ⟨value, isValue, rfl⟩ := List.mem_map.mp present
    exact isDigit_digit
      (Nat.digits_lt_base (by decide) (List.mem_reverse.mp isValue))

theorem numeralValue_append_singleton
    (numeral : Bytes)
    (byte : UInt8) :
    numeralValue (numeral ++ [byte]) =
      10 * numeralValue numeral + (byte.toNat - 48) := by
  simp [numeralValue]

theorem numeralValue_digits
    (values : List Nat)
    (small : ∀ value ∈ values, value < 10) :
    numeralValue (values.reverse.map digit) = Nat.ofDigits 10 values := by
  induction values with
  | nil => rfl
  | cons value values inductionHypothesis =>
      have smallHead : value < 10 := small value (by simp)
      have tail := inductionHypothesis fun other present =>
        small other (by simp [present])
      rw [List.reverse_cons, List.map_append, List.map_singleton,
        numeralValue_append_singleton, tail, digit_toNat smallHead,
        Nat.ofDigits_cons]
      omega

/-- A printed number reads as itself. -/
theorem numeralValue_decimal (n : Nat) : numeralValue (decimal n) = n := by
  by_cases zero : n = 0
  · subst zero
    rfl
  · rw [decimal, if_neg zero, numeralValue_digits _ fun _ present =>
      Nat.digits_lt_base (by decide) present, Nat.ofDigits_digits]

theorem readSigned_signedDecimal (n : Int) :
    readSigned (signedDecimal n) = n := by
  have allDigits : (decimal n.natAbs).takeWhile isDigit = decimal n.natAbs :=
    List.takeWhile_eq_self_iff.mpr fun _ present =>
      isDigit_of_mem_decimal present
  unfold signedDecimal
  split
  · rw [readSigned, if_pos rfl, allDigits, numeralValue_decimal]
    omega
  · obtain ⟨byte, rest, split⟩ :=
      List.exists_cons_of_ne_nil (decimal_ne_nil n.natAbs)
    have firstDigit : isDigit byte :=
      isDigit_of_mem_decimal (split ▸ List.mem_cons_self)
    have notSign : byte ≠ 45 ∧ byte ≠ 43 := by
      rw [isDigit_iff] at firstDigit
      constructor <;> rintro rfl <;> simp at firstDigit
    rw [split, readSigned, if_neg notSign.1, if_neg notSign.2, ← split,
      allDigits, numeralValue_decimal]
    omega

end Library
end ModernCommon
