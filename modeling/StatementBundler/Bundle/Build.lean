import StatementBundler.Bundle.Closure
import StatementBundler.Bundle.Emission

/-!
# Builds

A build loads the entry, includes what its statements demand, tells names apart and writes the
text.  A bundle that has been built remembers its outcome, since a statement is included at most
once in its life.  The text goes to a sink only after all of the build has succeeded.
-/

namespace StatementBundler

/-! ## Sinks -/

/-- Where the text of a bundle goes. -/
structure Sink where
  /-- How many bytes the sink takes before it fails; there may be no limit. -/
  capacity : Option Nat := none
  /-- What the sink says when it fails. -/
  complaint : String := ""
deriving Repr, DecidableEq

namespace Text

/-- The first `limit` bytes of a text as they are shown; a cut character is shown as the
replacement character. -/
def shownWithin (limit : Nat) : List Char → List Char
  | [] => []
  | c :: cs =>
    if limit = 0 then []
    else if c.utf8Size ≤ limit then c :: shownWithin (limit - c.utf8Size) cs
    else ['\uFFFD']

end Text

namespace Sink

/-- Whether a sink takes a whole text. -/
def takes (sink : Sink) (text : List Char) : Bool :=
  sink.capacity.all (Text.byteLength text ≤ ·)

/-- What a sink shows after a text was written to it. -/
def shown (sink : Sink) (text : List Char) : List Char :=
  match sink.capacity with
  | none => text
  | some limit => Text.shownWithin limit text

end Sink

/-! ## Runs -/

namespace Bundle

/-- Builds the bundle, or gives the outcome of the build that succeeded before. -/
def run : BundleM Output := do
  if let some output := (← get).output then return output
  let entry ← fetch (← get).entryPath.text none
  let statements ← expandAll entry
  modify fun bundle => ({ bundle with statements } : Bundle).deconflict
  let bundle ← get
  let output : Output := ⟨bundle.generate, bundle.summaries, bundle.renameSummaries⟩
  set { bundle with output := some output }
  return output

/-- What a build leaves behind. -/
structure Delivery where
  /-- What the sink shows. -/
  written : String
  outcome : Except Stop Output

/-- Builds the bundle and writes its text to a sink, which stays untouched if the build fails. -/
def build (sink : Sink) (bundle : Bundle) : Delivery × Bundle :=
  match run bundle with
  | .error stop bundle => (⟨"", .error stop⟩, bundle)
  | .ok output bundle =>
    let text := output.code.toList
    let outcome :=
      if sink.takes text then .ok output
      else .error (.failure (.notWritten bundle.entryPath.text sink.complaint))
    (⟨String.ofList (sink.shown text), outcome⟩, bundle)

end Bundle

end StatementBundler
