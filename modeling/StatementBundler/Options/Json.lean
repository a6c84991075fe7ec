import StatementBundler.Decimal.Shortest
import StatementBundler.Text.Hexadecimal

/-!
# The text form of options

Options are written in JSON.  A `Json` value keeps what the text says and nothing is looked up in
it yet: the members of an object stay in order and may repeat, and a number stays the decimal
that was written.  `Json.parse?` accepts exactly the texts of the format, with blanks around and
nothing else after the value.

The recursion of the reader is bounded by the length of the text, since every nested value is
read from a shorter one.
-/

namespace StatementBundler

/-- A value as it is written. -/
inductive Json where
  | null
  | bool (value : Bool)
  /-- A whole number that fits a machine word. -/
  | integer (value : Int)
  /-- Any other number. -/
  | float (value : Decimal.Numeral)
  | string (value : String)
  | array (elements : List Json)
  | object (members : List (String × Json))
deriving Inhabited

namespace Json

/-- A piece of the reader: what it read and what is left of the text. -/
abbrev Reader (α : Type) := List Char → Option (α × List Char)

namespace Reader

/-- Whether a character may stand between two tokens. -/
def isBlank (c : Char) : Bool :=
  c = ' ' || c = '\n' || c = '\t' || c = '\r'

/-- The text after its leading blanks. -/
def skipBlanks (text : List Char) : List Char :=
  text.dropWhile isBlank

/-! ## Numbers -/

/-- The value of a row of decimal digits. -/
def digitsValue (digits : List Char) : Nat :=
  digits.foldl (fun value c => 10 * value + (c.toNat - '0'.toNat)) 0

/-- Reads one digit or more. -/
def digits : Reader (List Char) := fun text =>
  match text.takeWhile Char.isDigit with
  | [] => none
  | row => some (row, text.dropWhile Char.isDigit)

/-- Reads the whole part of a number: a zero alone, or digits that do not start with one. -/
def wholePart : Reader (List Char)
  | '0' :: rest => if (rest.head?.map Char.isDigit).getD false then none else some (['0'], rest)
  | text => digits text

/-- Reads the digits after a point, if there is one. -/
def fraction : Reader (Option (List Char))
  | '.' :: rest => (digits rest).map fun (row, rest) => (some row, rest)
  | text => some (none, text)

/-- Reads the exponent of a number, if there is one. -/
def exponent : Reader (Option Int)
  | 'e' :: rest | 'E' :: rest =>
    match rest with
    | '-' :: rest => (digits rest).map fun (row, rest) => (some (-(digitsValue row : Int)), rest)
    | '+' :: rest => (digits rest).map fun (row, rest) => (some (digitsValue row : Int), rest)
    | rest => (digits rest).map fun (row, rest) => (some (digitsValue row : Int), rest)
  | text => some (none, text)

/-- The number written by a sign, a whole part, a fraction and an exponent.  Whole numbers keep
their value while they fit 64 bits; a number that is too large for a binary fraction is refused. -/
def ofNumberParts (negative : Bool) (whole : List Char) (fraction : Option (List Char))
    (exponent : Option Int) : Option Json :=
  let value := digitsValue whole
  let fits := if negative then 0 < value ∧ value ≤ Nat.pow 2 63 else value < Nat.pow 2 64
  if fraction.isNone ∧ exponent.isNone ∧ fits then
    some (.integer (if negative then -(value : Int) else value))
  else
    let numeral := Decimal.Numeral.ofParts negative whole (fraction.getD []) (exponent.getD 0)
    numeral.shortestText?.map fun _ => .float numeral

/-- Reads a number. -/
def number : Reader Json := fun text => do
  let (negative, rest) := match text with
    | '-' :: rest => (true, rest)
    | _ => (false, text)
  let (whole, rest) ← wholePart rest
  let (places, rest) ← fraction rest
  let (power, rest) ← exponent rest
  return (← ofNumberParts negative whole places power, rest)

/-! ## Strings -/

/-- Reads four hexadecimal digits. -/
def hexUnit : Reader Nat
  | a :: b :: c :: d :: rest =>
    let row := [a, b, c, d]
    if row.all Text.isHexDigit then some (Text.hexValue row, rest) else none
  | _ => none

/-- The character that an escape of one letter stands for. -/
def simpleEscape? : Char → Option Char
  | '"' => some '"'
  | '\\' => some '\\'
  | '/' => some '/'
  | 'b' => some '\x08'
  | 'f' => some '\x0c'
  | 'n' => some '\n'
  | 'r' => some '\r'
  | 't' => some '\t'
  | _ => none

/-- Reads an escape behind its backslash; the two halves of a pair of surrogates belong together
and neither may stand alone. -/
def escape : Reader Char
  | 'u' :: rest => do
    let (unit, rest) ← hexUnit rest
    if 0xD800 ≤ unit ∧ unit < 0xDC00 then
      match rest with
      | '\\' :: 'u' :: rest =>
        let (low, rest) ← hexUnit rest
        if 0xDC00 ≤ low ∧ low < 0xE000 then
          return (Char.ofNat (0x10000 + (unit - 0xD800) * 0x400 + (low - 0xDC00)), rest)
        else none
      | _ => none
    else if 0xDC00 ≤ unit ∧ unit < 0xE000 then none
    else return (Char.ofNat unit, rest)
  | c :: rest => (simpleEscape? c).map (·, rest)
  | [] => none

/-- Reads the rest of a string up to its closing quote; `bound` is at least the length of the
text. -/
def stringTail : (bound : Nat) → Reader (List Char)
  | 0, _ => none
  | bound + 1, text =>
    match text with
    | [] => none
    | '"' :: rest => some ([], rest)
    | '\\' :: rest => do
      let (c, rest) ← escape rest
      let (cs, rest) ← stringTail bound rest
      return (c :: cs, rest)
    | c :: rest =>
      if c.toNat < 0x20 then none
      else do
        let (cs, rest) ← stringTail bound rest
        return (c :: cs, rest)

/-- Reads a string with its quotes. -/
def string : Reader String
  | '"' :: rest => (stringTail rest.length.succ rest).map fun (cs, rest) => (String.ofList cs, rest)
  | _ => none

/-! ## Values -/

/-- Reads a word of the format. -/
def word (expected : String) (value : Json) : Reader Json := fun text =>
  if expected.toList.isPrefixOf text then some (value, text.drop expected.length) else none

mutual

/-- Reads a value; `bound` is at least the length of the text. -/
def value : (bound : Nat) → Reader Json
  | 0, _ => none
  | bound + 1, text =>
    match skipBlanks text with
    | 'n' :: rest => word "null" .null ('n' :: rest)
    | 't' :: rest => word "true" (.bool true) ('t' :: rest)
    | 'f' :: rest => word "false" (.bool false) ('f' :: rest)
    | '"' :: rest => (string ('"' :: rest)).map fun (s, rest) => (.string s, rest)
    | '[' :: rest =>
      match skipBlanks rest with
      | ']' :: rest => some (.array [], rest)
      | rest => (elements bound rest).map fun (es, rest) => (.array es, rest)
    | '{' :: rest =>
      match skipBlanks rest with
      | '}' :: rest => some (.object [], rest)
      | rest => (members bound rest).map fun (ms, rest) => (.object ms, rest)
    | rest => number rest

/-- Reads the elements of an array that has some, up to its end. -/
def elements : (bound : Nat) → Reader (List Json)
  | 0, _ => none
  | bound + 1, text => do
    let (first, rest) ← value bound text
    match skipBlanks rest with
    | ']' :: rest => return ([first], rest)
    | ',' :: rest =>
      let (others, rest) ← elements bound rest
      return (first :: others, rest)
    | _ => none

/-- Reads the members of an object that has some, up to its end. -/
def members : (bound : Nat) → Reader (List (String × Json))
  | 0, _ => none
  | bound + 1, text => do
    let (key, rest) ← string (skipBlanks text)
    match skipBlanks rest with
    | ':' :: rest =>
      let (first, rest) ← value bound rest
      match skipBlanks rest with
      | '}' :: rest => return ([(key, first)], rest)
      | ',' :: rest =>
        let (others, rest) ← members bound rest
        return ((key, first) :: others, rest)
      | _ => none
    | _ => none

end

end Reader

/-- The value that a whole text stands for. -/
def parse? (text : String) : Option Json :=
  let characters := text.toList
  match Reader.value (2 * characters.length + 2) characters with
  | some (result, rest) => if (Reader.skipBlanks rest).isEmpty then some result else none
  | none => none

end Json

end StatementBundler
