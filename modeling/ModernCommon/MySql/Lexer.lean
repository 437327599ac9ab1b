import ModernCommon.Library.Ascii
import ModernCommon.Library.Mealy

/-!
# Lexical structure of SQL text

MySQL's default rules for the tokens a statement is made of: words, unsigned
numerals, single-quoted literals and symbols. Inside a literal a backslash
escapes the next byte, a doubled quote stands for a quote, and the first other
quote closes. Texts are scanned byte by byte; two texts can be scanned apart
whenever the second one begins with a byte that no token continues over.
-/

namespace ModernCommon
namespace MySql

open Library

/-- The single quote, which begins and ends a literal. -/
def quote : UInt8 := 39

/-- The byte that escapes the next one. -/
def backslash : UInt8 := 92

/-- The bytes that only separate tokens. -/
def isSpace (byte : UInt8) : Bool :=
  byte = 32 || (9 ≤ byte && byte ≤ 13)

/-- Bytes of identifiers, keywords and numerals. -/
def isWordByte (byte : UInt8) : Bool :=
  isDigit byte || (65 ≤ byte && byte ≤ 90) || (97 ≤ byte && byte ≤ 122) ||
    byte = 95 || byte = 36 || 128 ≤ byte

/-- What the server makes of a part of a text. -/
inductive Token
  | word (text : Bytes)
  | number (numeral : Bytes)
  | literal (value : Bytes)
  | symbol (byte : UInt8)
  deriving DecidableEq

/-- A maximal run of word bytes. -/
def wordToken (text : Bytes) : Token :=
  if text.all isDigit then .number text else .word text

/-- What an escaped byte stands for. -/
def unescape (byte : UInt8) : Bytes :=
  if byte = 48 then [0]
  else if byte = 98 then [8]
  else if byte = 110 then [10]
  else if byte = 114 then [13]
  else if byte = 116 then [9]
  else if byte = 90 then [26]
  else if byte = 37 || byte = 95 then [backslash, byte]
  else [byte]

/-- What the scanner has read of the token it is in. -/
inductive Scan
  | between
  | inWord (text : Bytes)
  | inLiteral (value : Bytes)
  /-- After a backslash in a literal. -/
  | escaped (value : Bytes)
  /-- After a quote in a literal: closed, unless another quote follows. -/
  | quoted (value : Bytes)
  deriving DecidableEq

/-- Read a byte outside any token. -/
def scanBetween (byte : UInt8) : Scan × List Token :=
  if isSpace byte then (.between, [])
  else if byte = quote then (.inLiteral [], [])
  else if isWordByte byte then (.inWord [byte], [])
  else (.between, [.symbol byte])

/-- One byte further: the state it leads to and the tokens it completes. -/
def scanByte : Scan → UInt8 → Scan × List Token
  | .between, byte => scanBetween byte
  | .inWord text, byte =>
      if isWordByte byte then (.inWord (text ++ [byte]), [])
      else ((scanBetween byte).1, wordToken text :: (scanBetween byte).2)
  | .inLiteral value, byte =>
      if byte = backslash then (.escaped value, [])
      else if byte = quote then (.quoted value, [])
      else (.inLiteral (value ++ [byte]), [])
  | .escaped value, byte => (.inLiteral (value ++ unescape byte), [])
  | .quoted value, byte =>
      if byte = quote then (.inLiteral (value ++ [quote]), [])
      else ((scanBetween byte).1, .literal value :: (scanBetween byte).2)

/-- The lexer, from between two tokens. -/
def scanner : Mealy Scan UInt8 Token where
  initial := .between
  step := scanByte

/-- The token pending at the end of the text; an open literal is an error. -/
def pending : Scan → Option (List Token)
  | .between => some []
  | .inWord text => some [wordToken text]
  | .quoted value => some [.literal value]
  | _ => none

/-- The tokens of a text, unless a literal is left open. -/
def scan (text : Bytes) : Option (List Token) :=
  (pending (scanner.run .between text).1).map fun last =>
    (scanner.run .between text).2 ++ last

@[simp] theorem scanner_step (state : Scan) (byte : UInt8) :
    scanner.step state byte = scanByte state byte := rfl

/-! ## Composition -/

/-- No token continues over a delimiter. -/
def isDelimiter (byte : UInt8) : Bool :=
  !isWordByte byte && byte != quote

/-- A delimiter ends the pending token and is then read as if outside. -/
theorem scanByte_delimiter
    {state : Scan}
    {last : List Token}
    {byte : UInt8}
    (ended : pending state = some last)
    (delimiter : isDelimiter byte) :
    scanByte state byte =
      ((scanBetween byte).1, last ++ (scanBetween byte).2) := by
  obtain ⟨notWord, notQuote⟩ : isWordByte byte = false ∧ byte ≠ quote := by
    simpa [isDelimiter] using delimiter
  cases state with
  | between =>
      obtain rfl : [] = last := by simpa [pending] using ended
      rfl
  | inWord text =>
      obtain rfl : [wordToken text] = last := by simpa [pending] using ended
      simp [scanByte, notWord]
  | quoted value =>
      obtain rfl : [Token.literal value] = last := by
        simpa [pending] using ended
      simp [scanByte, notQuote]
  | inLiteral value => cases ended
  | escaped value => cases ended

/-- A text that leaves no token open can be cut off in front. -/
theorem scan_append_of_between
    {text rest : Bytes}
    {tokens more : List Token}
    (first : scanner.run .between text = (.between, tokens))
    (second : scan rest = some more) :
    scan (text ++ rest) = some (tokens ++ more) := by
  obtain ⟨last, ended, rfl⟩ := Option.map_eq_some_iff.mp second
  rw [scan, Mealy.run_append, first, ended]
  simp

/-- A text in front of a delimiter is scanned on its own. -/
theorem scan_append
    {text rest : Bytes}
    {tokens more : List Token}
    (first : scan text = some tokens)
    (second : scan rest = some more)
    (delimited : rest.head?.all isDelimiter) :
    scan (text ++ rest) = some (tokens ++ more) := by
  cases rest with
  | nil =>
      obtain rfl : [] = more := by simpa [scan, pending] using second
      simpa using first
  | cons byte rest =>
      obtain ⟨last, ended, rfl⟩ := Option.map_eq_some_iff.mp first
      obtain ⟨lastOfRest, endedRest, rfl⟩ := Option.map_eq_some_iff.mp second
      have continued :
          scanner.run (scanner.run .between text).1 (byte :: rest) =
            ((scanner.run .between (byte :: rest)).1,
              last ++ (scanner.run .between (byte :: rest)).2) := by
        rw [Mealy.run_cons, Mealy.run_cons, scanner_step, scanner_step,
          scanByte_delimiter ended delimited, List.append_assoc]
        rfl
      rw [scan, Mealy.run_append, continued, endedRest]
      simp

/-! ## Numerals -/

theorem isWordByte_of_isDigit
    {byte : UInt8}
    (isDigit : isDigit byte) :
    isWordByte byte := by
  simp [isWordByte, isDigit]

theorem isSpace_of_isDigit
    {byte : UInt8}
    (isDigit : isDigit byte) :
    isSpace byte = false := by
  have bounds := (isDigit_iff byte).mp isDigit
  simp only [isSpace, Bool.or_eq_false_iff, Bool.and_eq_false_iff,
    decide_eq_false_iff_not, UInt8.le_iff_toNat_le]
  constructor
  · rintro rfl
    simp at bounds
  · right
    simp
    omega

/-- Word bytes extend the word being read. -/
theorem run_inWord
    (text more : Bytes)
    (allWord : ∀ byte ∈ more, isWordByte byte) :
    scanner.run (.inWord text) more = (.inWord (text ++ more), []) := by
  induction more generalizing text with
  | nil => simp
  | cons byte more inductionHypothesis =>
      have isWord : isWordByte byte := allWord byte (by simp)
      have rest := inductionHypothesis (text ++ [byte]) fun other present =>
        allWord other (by simp [present])
      simp [scanByte, isWord, rest]

theorem run_decimal (n : Nat) :
    scanner.run .between (decimal n) = (.inWord (decimal n), []) := by
  obtain ⟨byte, rest, split⟩ := List.exists_cons_of_ne_nil (decimal_ne_nil n)
  have allWord : ∀ other ∈ byte :: rest, isWordByte other := fun other present =>
    isWordByte_of_isDigit (isDigit_of_mem_decimal (split ▸ present))
  have bounds := (isDigit_iff byte).mp
    (isDigit_of_mem_decimal (split ▸ List.mem_cons_self))
  have notSpace := isSpace_of_isDigit
    (isDigit_of_mem_decimal (split ▸ List.mem_cons_self : byte ∈ decimal n))
  have notQuote : byte ≠ quote := by
    rintro rfl
    simp [quote] at bounds
  have isWord := allWord byte (by simp)
  have tail := run_inWord [byte] rest fun other present =>
    allWord other (by simp [present])
  rw [split]
  simp [scanByte, scanBetween, notSpace, notQuote, isWord, tail]

/-- The tokens of a signed decimal number: its sign, if negative, and its
digits. -/
def signedNumber (n : Int) : List Token :=
  if n < 0 then [.symbol 45, .number (decimal n.natAbs)]
  else [.number (decimal n.natAbs)]

theorem wordToken_decimal (n : Nat) :
    wordToken (decimal n) = .number (decimal n) := by
  have allDigits : (decimal n).all isDigit :=
    List.all_eq_true.mpr fun _ present => isDigit_of_mem_decimal present
  rw [wordToken, if_pos allDigits]

theorem scan_signedDecimal (n : Int) :
    scan (signedDecimal n) = some (signedNumber n) := by
  have digits : scan (decimal n.natAbs) = some [.number (decimal n.natAbs)] := by
    rw [scan, run_decimal]
    simp [pending, wordToken_decimal]
  unfold signedDecimal signedNumber
  split
  · have sign : scanner.run .between [45] = (.between, [.symbol 45]) := rfl
    exact scan_append_of_between sign digits
  · exact digits

end MySql
end ModernCommon
