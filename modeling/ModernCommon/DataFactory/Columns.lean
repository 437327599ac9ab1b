import ModernCommon.MySql.Lexer

/-!
# Column values

How `DataFactory` writes a column value into a statement, and how it reads a
fetched cell. A cell is a C string: a null pointer, or bytes up to a NUL byte.
-/

namespace ModernCommon
namespace DataFactory

open Library MySql

/-! ## Writing -/

/-- `getNullableStringColumnValue`: `null` for the empty string, otherwise a
quoted literal with quotes and backslashes escaped. -/
def getNullableStringColumnValue (stringValue : Bytes) : Bytes :=
  if stringValue.isEmpty then bytes "null"
  else Id.run do
    let mut escaped : Bytes := [quote]
    for c in stringValue do
      if c = quote ∨ c = backslash then
        escaped := escaped ++ [backslash]
      escaped := escaped ++ [c]
    return escaped ++ [quote]

/-- What the loop appends for one byte. -/
def escapeByte (byte : UInt8) : Bytes :=
  if byte = quote ∨ byte = backslash then [backslash, byte] else [byte]

theorem getNullableStringColumnValue_eq
    {stringValue : Bytes}
    (nonempty : stringValue ≠ []) :
    getNullableStringColumnValue stringValue =
      quote :: (stringValue.flatMap escapeByte ++ [quote]) := by
  have oneByte : ∀ (c : UInt8) (escaped : Bytes),
      (if c = quote ∨ c = backslash then
        (pure (.yield (escaped ++ [backslash, c])) : Id (ForInStep Bytes))
      else pure (.yield (escaped ++ [c]))) =
        pure (.yield (escaped ++ escapeByte c)) := by
    intro c escaped
    unfold escapeByte
    split <;> rfl
  have notEmpty : stringValue.isEmpty = false := by simpa using nonempty
  simp [getNullableStringColumnValue, notEmpty, oneByte, List.flatMap_def]

/-- The column value a string stands for: the empty string is SQL NULL. -/
def nullable (value : Bytes) : Option Bytes :=
  if value = [] then none else some value

/-- The token of a string column: a literal, or the keyword `null`. -/
def columnToken : Option Bytes → Token
  | none => .word (bytes "null")
  | some value => .literal value

/-- An escaped byte is read as the byte itself. -/
theorem run_escapeByte (value : Bytes) (byte : UInt8) :
    scanner.run (.inLiteral value) (escapeByte byte) =
      (.inLiteral (value ++ [byte]), []) := by
  by_cases escapes : byte = quote ∨ byte = backslash
  · rw [escapeByte, if_pos escapes]
    rcases escapes with rfl | rfl <;>
      simp [scanByte, unescape, quote, backslash]
  · rw [escapeByte, if_neg escapes]
    obtain ⟨notQuote, notBackslash⟩ := not_or.mp escapes
    simp [scanByte, notQuote, notBackslash]

/-- Inside a literal the scanner reads an escaped string as that string,
whatever its bytes. -/
theorem run_escaped (value text : Bytes) :
    scanner.run (.inLiteral value) (text.flatMap escapeByte) =
      (.inLiteral (value ++ text), []) := by
  induction text generalizing value with
  | nil => simp
  | cons byte text inductionHypothesis =>
      rw [List.flatMap_cons, Mealy.run_append, run_escapeByte,
        inductionHypothesis]
      simp

/-- A string column is one token, which decodes to the string. -/
theorem scan_getNullableStringColumnValue (value : Bytes) :
    scan (getNullableStringColumnValue value) =
      some [columnToken (nullable value)] := by
  by_cases empty : value = []
  · subst empty
    rfl
  · rw [getNullableStringColumnValue_eq empty, nullable, if_neg empty,
      columnToken]
    simp [scan, Mealy.run_append, scanByte, scanBetween, run_escaped, pending,
      quote, isSpace, backslash]

/-! ## Reading -/

/-- The C string a non-null cell points to. -/
def cString (cell : Bytes) : Bytes :=
  cell.takeWhile fun byte => byte != 0

/-- `std::atoi`: leading white space is skipped. -/
def atoi (text : Bytes) : Int :=
  readSigned (text.dropWhile isSpace)

/-- `fetchNullableStringColumnValue`: nothing for SQL NULL. -/
def fetchNullableStringColumnValue (cell : Option Bytes) : Option Bytes :=
  cell.map cString

/-- `fetchNullableIntegerColumnValue`: nothing for SQL NULL. -/
def fetchNullableIntegerColumnValue (cell : Option Bytes) : Option Int32 :=
  cell.map fun text => Int32.ofInt (atoi text)

/-- A C string is read back whole unless it contains a NUL byte. -/
theorem cString_eq_self_iff (cell : Bytes) :
    cString cell = cell ↔ 0 ∉ cell := by
  rw [cString, List.takeWhile_eq_self_iff]
  constructor
  · intro noNul present
    simpa using noNul 0 present
  · intro absent byte present
    have notNul : byte ≠ 0 := by
      rintro rfl
      exact absent present
    simpa using notNul

/-- A printed integer is read back. -/
theorem atoi_signedDecimal (n : Int) : atoi (signedDecimal n) = n := by
  have noSpace : (signedDecimal n).dropWhile isSpace = signedDecimal n := by
    unfold signedDecimal
    split
    · exact List.dropWhile_cons_of_neg (by decide)
    · obtain ⟨byte, rest, split⟩ :=
        List.exists_cons_of_ne_nil (decimal_ne_nil n.natAbs)
      have digit : isDigit byte :=
        isDigit_of_mem_decimal (split ▸ List.mem_cons_self)
      rw [split]
      exact List.dropWhile_cons_of_neg (by simp [isSpace_of_isDigit digit])
  rw [atoi, noSpace, readSigned_signedDecimal]

end DataFactory
end ModernCommon
