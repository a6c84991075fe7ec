import StatementBundler.Options.Basic
import StatementBundler.Options.Json

/-!
# Reading options

`Options.ofText` reads options from their text form.  Members of an object are taken in the order
in which they stand and the first one that does not fit is reported; members of other names are
passed over.  An array is read as the fields in the order of their declaration.

Each field is read by a `Decoder`, and a structure is described by a `Layout`: its name and the
decoders that fill a partly filled value, by field name.
-/

namespace StatementBundler

/-! ## Faults -/

/-- Why a value does not describe what it should. -/
inductive DecodeFault where
  | wrongType (found expected : String)
  | unknownVariant (found : String)
  | missingField (name : String)
  | duplicateField (name : String)
  /-- An array ends before a required field. -/
  | tooShort (length : Nat) (expected : String)
  /-- An array goes on behind the last field. -/
  | trailing
  /-- Neither a string nor an object of one member. -/
  | noVariant
deriving Repr, DecidableEq

/-- The fault in words. -/
def DecodeFault.message : DecodeFault → String
  | .wrongType found expected => s!"invalid type: {found}, expected {expected}"
  | .unknownVariant found => s!"unknown variant `{found}`, expected `reject` or `ignore`"
  | .missingField name => s!"missing field `{name}`"
  | .duplicateField name => s!"duplicate field `{name}`"
  | .tooShort length expected => s!"invalid length {length}, expected {expected}"
  | .trailing => "trailing characters"
  | .noVariant => "expected value"

/-! ## Describing values -/

/-- Characters that leave no mark of their own, as ranges of code points. -/
def unprintableRanges : List (Nat × Nat) :=
  [(0x00, 0x1F), (0x7F, 0x9F), (0xAD, 0xAD), (0x300, 0x36F), (0x483, 0x489), (0x591, 0x5BD),
   (0x600, 0x605), (0x610, 0x61C), (0x64B, 0x65F), (0x180E, 0x180E), (0x1AB0, 0x1ACE),
   (0x1DC0, 0x1DFF), (0x200B, 0x200F), (0x2028, 0x202E), (0x2060, 0x206F), (0x20D0, 0x20F0),
   (0x302A, 0x302F), (0x3099, 0x309A), (0xE000, 0xF8FF), (0xFE00, 0xFE0F), (0xFE20, 0xFE2F),
   (0xFEFF, 0xFEFF), (0xFFF0, 0xFFFB), (0xFFFE, 0xFFFF), (0xE0000, 0x10FFFF)]

/-- The hexadecimal digits of a code point, in lower case. -/
def hexDigits (n : Nat) : List Char :=
  Nat.toDigits 16 n

/-- A character inside a quoted text. -/
def quoteChar (c : Char) : List Char :=
  match c with
  | '"' => ['\\', '"']
  | '\\' => ['\\', '\\']
  | '\n' => ['\\', 'n']
  | '\r' => ['\\', 'r']
  | '\t' => ['\\', 't']
  | '\x00' => ['\\', '0']
  | c =>
    if unprintableRanges.any fun (low, high) => low ≤ c.toNat && c.toNat ≤ high then
      ['\\', 'u', '{'] ++ hexDigits c.toNat ++ ['}']
    else [c]

/-- A text in quotes, with escapes for what would not be seen. -/
def quoted (text : String) : String :=
  String.ofList ('"' :: text.toList.flatMap quoteChar ++ ['"'])

/-- What a value is called in a fault. -/
def Json.describe : Json → String
  | .null => "null"
  | .bool true => "boolean `true`"
  | .bool false => "boolean `false`"
  | .integer n => s!"integer `{n}`"
  | .float n => "floating point `" ++ n.shortestText?.getD "" ++ "`"
  | .string s => "string " ++ quoted s
  | .array _ => "sequence"
  | .object _ => "map"

/-! ## Decoders -/

/-- Reads a value of a type, or says why there is none. -/
abbrev Decoder (α : Type) := Json → Except DecodeFault α

namespace Decoder

/-- Reads a string. -/
def string : Decoder String
  | .string s => pure s
  | json => throw (.wrongType json.describe "a string")

/-- Reads an array whose elements are all read alike. -/
def listOf {α : Type} (element : Decoder α) : Decoder (List α)
  | .array elements => elements.mapM element
  | json => throw (.wrongType json.describe "a sequence")

/-- Reads the name of a policy. -/
def policyName (name : String) : Except DecodeFault UnsupportedPolicy :=
  match UnsupportedPolicy.ofName? name with
  | some policy => pure policy
  | none => throw (.unknownVariant name)

/-- Reads a policy: its name, or an object of one member under its name that holds nothing. -/
def policy : Decoder UnsupportedPolicy
  | .string name => policyName name
  | .object ((name, json) :: others) => do
    let policy ← policyName name
    match json with
    | .null => if others.isEmpty then pure policy else throw .noVariant
    | json => throw (.wrongType json.describe "unit")
  | _ => throw .noVariant

end Decoder

/-! ## Structures -/

/-- How one field of a partly filled structure is read and filled. -/
structure FieldLayout (α : Type) where
  name : String
  fill : α → Json → Except DecodeFault α

/-- How a structure is read: the name it has in faults, its fields in order, how many of the first
ones are required, and the value before any field is filled. -/
structure Layout (α : Type) where
  description : String
  fields : List (FieldLayout α)
  required : Nat
  blank : α

namespace Layout

variable {α : Type}

/-- Fills fields from the members of an object, in their order; `seen` are the fields that were
filled before. -/
def fillMembers (layout : Layout α) (seen : List String) (partly : α) :
    List (String × Json) → Except DecodeFault (List String × α)
  | [] => pure (seen, partly)
  | (key, json) :: rest =>
    match layout.fields.find? (·.name == key) with
    | none => layout.fillMembers seen partly rest
    | some field =>
      if key ∈ seen then throw (.duplicateField key)
      else do layout.fillMembers (key :: seen) (← field.fill partly json) rest

/-- Fills fields from the elements of an array, in the order of the fields. -/
def fillElements (layout : Layout α) (partly : α) (filled : Nat) :
    List (FieldLayout α) → List Json → Except DecodeFault α
  | [], [] => pure partly
  | [], _ :: _ => throw .trailing
  | _ :: _, [] =>
    if filled < layout.required then
      throw (.tooShort filled s!"{layout.description} with {layout.fields.length} elements")
    else pure partly
  | field :: fields, json :: rest => do
    layout.fillElements (← field.fill partly json) (filled + 1) fields rest

/-- Reads a structure from an object or an array. -/
def decode (layout : Layout α) : Decoder α
  | .object members => do
    let (seen, result) ← layout.fillMembers [] layout.blank members
    match (layout.fields.take layout.required).find? (·.name ∉ seen) with
    | some field => throw (.missingField field.name)
    | none => pure result
  | .array elements => layout.fillElements layout.blank 0 layout.fields elements
  | json => throw (.wrongType json.describe layout.description)

end Layout

/-- A virtual module is an identifier and a text, both required. -/
def VirtualModule.layout : Layout VirtualModule where
  description := "struct VirtualModule"
  fields :=
    [⟨"id", fun partly json => return { partly with id := ← Decoder.string json }⟩,
     ⟨"code", fun partly json => return { partly with code := ← Decoder.string json }⟩]
  required := 2
  blank := ⟨"", ""⟩

namespace Options

/-- Of the options only the entry is required. -/
def layout : Layout Options where
  description := "struct BundleOptions"
  fields :=
    [⟨"entry", fun partly json => return { partly with entry := ← Decoder.string json }⟩,
     ⟨"extension", fun partly json => return { partly with extension := ← Decoder.string json }⟩,
     ⟨"separator", fun partly json => return { partly with separator := ← Decoder.string json }⟩,
     ⟨"globals", fun partly json =>
       return { partly with globals := ← Decoder.listOf .string json }⟩,
     ⟨"unsupportedSyntax", fun partly json =>
       return { partly with unsupportedSyntax := ← Decoder.policy json }⟩,
     ⟨"virtualModules", fun partly json =>
       return { partly with
         virtualModules := ← Decoder.listOf VirtualModule.layout.decode json }⟩]
  required := 1
  blank := { entry := "" }

/-- Reads options from a value. -/
def ofJson : Decoder Options :=
  layout.decode

end Options

end StatementBundler
