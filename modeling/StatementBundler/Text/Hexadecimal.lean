/-!
# Hexadecimal notation

Escapes in strings and names are read from hexadecimal digits of either case, and digests are
written with digits in lower case.  What is written for a byte reads back as that byte
(`hexValue_hexByte`).
-/

namespace StatementBundler.Text

/-- The value of a hexadecimal digit. -/
def hexDigit? (c : Char) : Option Nat :=
  if c.isDigit then some (c.toNat - '0'.toNat)
  else if 'a' ≤ c ∧ c ≤ 'f' then some (c.toNat - 'a'.toNat + 10)
  else if 'A' ≤ c ∧ c ≤ 'F' then some (c.toNat - 'A'.toNat + 10)
  else none

/-- Whether a character is a hexadecimal digit. -/
def isHexDigit (c : Char) : Bool :=
  (hexDigit? c).isSome

/-- The value of a row of hexadecimal digits. -/
def hexValue (row : List Char) : Nat :=
  row.foldl (fun value c => 16 * value + (hexDigit? c).getD 0) 0

/-- The two hexadecimal digits of a byte. -/
def hexByte (b : UInt8) : List Char :=
  [Nat.digitChar (b.toNat / 16), Nat.digitChar (b.toNat % 16)]

/-- A digit that is written reads back as its value. -/
theorem hexDigit?_digitChar : ∀ {n : Nat}, n < 16 → hexDigit? (Nat.digitChar n) = some n := by
  decide

/-- A byte that is written reads back. -/
theorem hexValue_hexByte (b : UInt8) : hexValue (hexByte b) = b.toNat := by
  have bound : b.toNat < 256 := b.toNat_lt
  have high : hexDigit? (Nat.digitChar (b.toNat / 16)) = some (b.toNat / 16) :=
    hexDigit?_digitChar (by omega)
  have low : hexDigit? (Nat.digitChar (b.toNat % 16)) = some (b.toNat % 16) :=
    hexDigit?_digitChar (by omega)
  simp only [hexValue, hexByte, List.foldl_cons, List.foldl_nil, high, low, Option.getD_some]
  omega

end StatementBundler.Text
