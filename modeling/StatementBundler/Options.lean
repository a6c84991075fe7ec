import StatementBundler.Failure
import StatementBundler.Options.Decode

/-!
# Options from text

Joins the reader of the text form and the decoder of options; either fault makes the options
invalid, but only the decoder has something to say about it.
-/

namespace StatementBundler.Options

/-- Reads options from a value, as a build does. -/
def ofValue (json : Json) : Except Failure Options :=
  match ofJson json with
  | .ok options => .ok options
  | .error fault => .error (.invalidOptions (some fault.message))

/-- Reads options from their text form. -/
def ofText (text : String) : Except Failure Options :=
  match Json.parse? text with
  | some json => ofValue json
  | none => .error (.invalidOptions none)

end StatementBundler.Options
