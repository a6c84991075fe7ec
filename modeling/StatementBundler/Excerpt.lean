import StatementBundler.Text.Bytes

/-!
# Editable excerpts of a text

An `Excerpt` is a byte range of a text with a list of pending edits, all in the coordinates of the
whole text.  Nothing is changed until the excerpt is rendered, so an excerpt can be copied and
edited for one output without disturbing the text it was cut from.

An edit that overlaps earlier edits supersedes them, so at any time no two edits of an excerpt
overlap; rendering copies what lies between the edits and puts their contents in order of place.

Bounds and edits may be put inside a character.  Such an excerpt exists but cannot be shown;
`Excerpt.isIntact` tells the two cases apart and `render?` answers only for the first.
-/

namespace StatementBundler

/-- Puts a number into the range from `low` to `high`. -/
def clamp (low high n : Nat) : Nat :=
  max low (min high n)

/-- The bytes from `start` to `stop` are to be replaced by `content`. -/
structure Edit where
  start : Nat
  stop : Nat
  content : String
deriving Repr, DecidableEq

namespace Edit

/-- Neither of two ranges reaches into the other. -/
def apartFrom (edit : Edit) (start stop : Nat) : Bool :=
  edit.stop ≤ start || stop ≤ edit.start

/-- The order in which edits are applied: by start, then by stop. -/
def notAfter (first second : Edit) : Bool :=
  first.start < second.start || (first.start = second.start && first.stop ≤ second.stop)

end Edit

/-- A byte range of a text with pending edits, the oldest edit first. -/
structure Excerpt where
  text : List Char
  start : Nat
  stop : Nat
  edits : List Edit
deriving Repr, DecidableEq

namespace Excerpt

/-! ## Cutting -/

/-- The whole of a text, unedited. -/
def whole (text : List Char) : Excerpt :=
  ⟨text, 0, Text.byteLength text, []⟩

/-- The part of an excerpt between two offsets, which are clipped to its bounds.  It keeps the
edits that lie inside it. -/
def snip (excerpt : Excerpt) (start stop : Nat) : Excerpt :=
  let start := clamp excerpt.start excerpt.stop start
  let stop := clamp start excerpt.stop stop
  { excerpt with
    start, stop
    edits := excerpt.edits.filter fun edit => start ≤ edit.start && edit.stop ≤ stop }

/-! ## Editing -/

/-- Replaces a range, clipped to the bounds, by `content`.  The edits that it overlaps give way. -/
def overwrite (excerpt : Excerpt) (start stop : Nat) (content : String) : Excerpt :=
  let start := clamp excerpt.start excerpt.stop start
  let stop := clamp start excerpt.stop stop
  { excerpt with
    edits := excerpt.edits.filter (·.apartFrom start stop) ++ [⟨start, stop, content⟩] }

/-- Takes a range out of the text. -/
def remove (excerpt : Excerpt) (start stop : Nat) : Excerpt :=
  excerpt.overwrite start stop ""

/-- Whether any edit is pending. -/
def isEdited (excerpt : Excerpt) : Bool :=
  !excerpt.edits.isEmpty

/-! ## Showing -/

/-- The text from `cursor` to the end of the excerpt under edits that stand in order of place. -/
def renderFrom (excerpt : Excerpt) (cursor : Nat) : List Edit → List Char
  | [] => Text.slice cursor excerpt.stop excerpt.text
  | edit :: rest =>
    Text.slice cursor edit.start excerpt.text ++ edit.content.toList ++
      renderFrom excerpt edit.stop rest

/-- The text of the excerpt under its edits. -/
def render (excerpt : Excerpt) : List Char :=
  excerpt.renderFrom excerpt.start (excerpt.edits.mergeSort Edit.notAfter)

/-- Whether both bounds lie between characters. -/
def hasIntactBounds (excerpt : Excerpt) : Bool :=
  Text.isBoundary excerpt.start excerpt.text && Text.isBoundary excerpt.stop excerpt.text

/-- Whether the bounds and all edits lie between characters. -/
def isIntact (excerpt : Excerpt) : Bool :=
  excerpt.hasIntactBounds && excerpt.edits.all fun edit =>
    Text.isBoundary edit.start excerpt.text && Text.isBoundary edit.stop excerpt.text

/-- The text under the edits, unless a bound or an edit splits a character. -/
def render? (excerpt : Excerpt) : Option (List Char) :=
  if excerpt.isIntact then some excerpt.render else none

/-- The unedited text, unless a bound splits a character. -/
def unedited? (excerpt : Excerpt) : Option (List Char) :=
  if excerpt.hasIntactBounds then
    some (Text.slice excerpt.start excerpt.stop excerpt.text)
  else none

end Excerpt

/-! ## Sequences of excerpts -/

/-- Excerpts in output order, each with the separator that is written before it. -/
abbrev Compilation := List (Excerpt × String)

namespace Compilation

/-- The text of all excerpts in order; the first one's separator is not written. -/
def render : Compilation → List Char
  | [] => []
  | (first, _) :: rest =>
    first.render ++ rest.flatMap fun (excerpt, separator) => separator.toList ++ excerpt.render

/-- The text, unless some excerpt splits a character. -/
def render? (compilation : Compilation) : Option (List Char) :=
  if compilation.all (·.1.isIntact) then some compilation.render else none

end Compilation

end StatementBundler
