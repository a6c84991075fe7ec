import StatementBundler.Program.Lexer

/-!
# Parsers

A parser reads tokens from a state.  It stops at the first thing that no rule of the grammar can
go on from; other faults are only noted, so that reading continues behind them.  A fault is known
by its offset alone.  Which fault of a text counts as its first is decided by `State.firstFault?`:
malformed tokens come before faults of the grammar, and those before the one that stopped the
reader.

Rules that need to look further ahead run a parser and go back (`lookahead`, `attempt?`).

Loops are bounded by the length of the text that is left, since every round reads a token.
-/

namespace StatementBundler

namespace Parser

/-- What the surroundings of a piece of program allow. -/
structure Context where
  /-- Whether `in` is an operator. -/
  allowIn : Bool
  /-- Whether `yield` is an operator. -/
  inGenerator : Bool
  /-- Whether `await` is an operator. -/
  inAsync : Bool
  /-- Whether `return` is allowed. -/
  inFunction : Bool
deriving Repr, DecidableEq

/-- The surroundings of the statements of a module. -/
def Context.module : Context := ⟨true, false, true, false⟩

/-- The state of a parser. -/
structure State where
  /-- The current token and the places around it. -/
  lexeme : Cursor.Lexeme
  /-- The end of the token before the current one. -/
  previousStop : Nat
  context : Context
  /-- The offsets of malformed tokens, in order. -/
  textFaults : List Nat
  /-- The offsets of faults that did not stop the reader, in order. -/
  faults : List Nat
  /-- The places of properties `a = e` that make sense only if a pattern is around them. -/
  pendingDefaults : List Nat
  /-- The trailing commas of array and object literals, by the start of the literal. -/
  trailingCommas : List (Nat × Nat)
  /-- The places of parentheses that were found not to be the head of an arrow function. -/
  notArrows : List Nat
  /-- The names that are exported so far with their places, in order. -/
  exportedNames : List (String × Nat)
  /-- The places of default exports of the module's own values, in order. -/
  defaultExports : List Nat
  /-- The places of default exports of other modules' values, in order. -/
  defaultReExports : List Nat

end Parser

/-- A parser; the exception is the offset of the fault that stopped it. -/
abbrev Parser := EStateM Nat Parser.State

namespace Parser

/-! ## Tokens -/

/-- The state at the start of a text, on its first token. -/
def State.start (text : List Char) (fits : Text.byteLength text < UInt32.size) : State :=
  let lexeme := (Cursor.ofText text fits).skipHashbang.scan
  { lexeme, previousStop := 0, context := .module, textFaults := lexeme.faults, faults := []
    pendingDefaults := [], trailingCommas := [], notArrows := [], exportedNames := []
    defaultExports := [], defaultReExports := [] }

/-- The current token. -/
def State.token (state : State) : Token :=
  state.lexeme.token

/-- A bound on the number of tokens that are left. -/
def State.bound (state : State) : Nat :=
  state.lexeme.behind.rest.length + 2

/-- The current token. -/
def token : Parser Token :=
  return (← get).token

/-- The start of the current token. -/
def here : Parser Nat :=
  return (← get).token.span.start

/-- The range from an offset to the end of the token that was read last. -/
def spanFrom (start : Nat) : Parser Span :=
  return ⟨start, (← get).previousStop⟩

/-- Notes a fault and goes on. -/
def note (offset : Nat) : Parser Unit :=
  modify fun state => { state with faults := state.faults ++ [offset] }

/-- Takes what was read as the current token. -/
def State.moveTo (state : State) (lexeme : Cursor.Lexeme) : State :=
  { state with lexeme, textFaults := state.textFaults ++ lexeme.faults }

/-- Goes on to the next token. -/
def advance : Parser PUnit :=
  modify fun state =>
    { state.moveTo state.lexeme.behind.scan with previousStop := state.token.span.stop }

/-- Reads the current token as part of the grammar: a word with a meaning of its own must not be
written with escapes. -/
def bump : Parser PUnit := do
  let token ← token
  if token.escaped then
    match token.word? with
    | some name =>
      if (reservedWords ++ futureReservedWords ++ contextualWords).contains name then
        note token.span.start
    | none => pure ()
  advance

/-- Reads the current token anew from its start; at the end of the text there is nothing to read. -/
def rescan (scan : Cursor → Scanned) : Parser PUnit :=
  modify fun state =>
    if atEnd : state.token.kind = .endOfText then state
    else
      let start := state.token.span.start
      let scanned := scan state.lexeme.start
      let token : Token :=
        { state.token with kind := scanned.kind, span := ⟨start, scanned.cursor.offset⟩ }
      have inside : start + 1 < UInt32.size := state.lexeme.inside.resolve_left atEnd
      state.moveTo ⟨token, state.lexeme.start, scanned.cursor, scanned.faults, .inr inside⟩

/-! ## Stopping -/

/-- Stops at an offset. -/
def stopAt {α : Type} (offset : Nat) : Parser α :=
  throw offset

/-- Stops at the current token.  If it is malformed or ends the text, the fault that was found
last in the text is the better reason. -/
def unexpected {α : Type} : Parser α := do
  let state ← get
  let hollow := state.token.kind = .endOfText || state.token.kind = .invalid
  match hollow, state.textFaults.getLast? with
  | true, some fault =>
    set { state with textFaults := state.textFaults.dropLast }
    stopAt fault
  | _, _ => stopAt state.token.span.start

/-- Whether the current token is a punctuator. -/
def atPunctuator (p : Punctuator) : Parser Bool :=
  return (← token).isPunctuator p

/-- Whether the current token is a word. -/
def atWord (name : String) : Parser Bool :=
  return (← token).isWord name

/-- Reads a punctuator if it is there. -/
def eat (p : Punctuator) : Parser Bool := do
  if ← atPunctuator p then
    bump
    return true
  else return false

/-- Reads a word if it is there. -/
def eatWord (name : String) : Parser Bool := do
  if ← atWord name then
    bump
    return true
  else return false

/-- Reads a punctuator that must be there. -/
def expect (p : Punctuator) : Parser PUnit := do
  if !(← eat p) then stopAt (← here)

/-- Reads a word that must be there. -/
def expectWord (name : String) : Parser PUnit := do
  if !(← eatWord name) then stopAt (← here)

/-- Whether a statement may end before the current token without a semicolon. -/
def atStatementEnd : Parser Bool := do
  let token ← token
  return token.onNewLine || token.isPunctuator .semicolon || token.isPunctuator .closeBrace ||
    token.kind = .endOfText

/-- Reads the end of a statement. -/
def statementEnd : Parser PUnit := do
  if !(← eat .semicolon) then
    if !(← atStatementEnd) then stopAt (← get).previousStop

/-! ## Surroundings -/

/-- Runs a parser under other surroundings. -/
def within {α : Type} (change : Context → Context) (parser : Parser α) : Parser α := do
  let context := (← get).context
  modify fun state => { state with context := change context }
  let result ← parser
  modify fun state => { state with context }
  return result

/-- Runs a parser where `in` is an operator. -/
def allowingIn {α : Type} (parser : Parser α) : Parser α :=
  within ({ · with allowIn := true }) parser

/-! ## Going back -/

/-- The state to go back to; what was learnt about parentheses is kept. -/
def State.restore (saved later : State) : State :=
  { saved with notArrows := later.notArrows }

/-- Runs a parser and goes back; a parser that stops has the given result. -/
def lookahead {α : Type} (stopped : α) (parser : Parser α) : Parser α := fun state =>
  match parser state with
  | .ok result later => .ok result (state.restore later)
  | .error _ later => .ok stopped (state.restore later)

/-- Runs a parser, and goes back if it stops. -/
def attempt? {α : Type} (parser : Parser α) : Parser (Option α) := fun state =>
  match parser state with
  | .ok result later => .ok (some result) later
  | .error _ later => .ok none (state.restore later)

/-! ## Loops -/

/-- Runs a parser until it gives nothing, at most `bound` times. -/
def repeatWithin {α : Type} (parser : Parser (Option α)) : (bound : Nat) → Parser (List α)
  | 0 => return []
  | bound + 1 => do
    match ← parser with
    | none => return []
    | some first => return first :: (← repeatWithin parser bound)

/-- Runs a parser until it gives nothing. -/
def many {α : Type} (parser : Parser (Option α)) : Parser (List α) := do
  repeatWithin parser (← get).bound

/-- Extends a result until it cannot be extended, at most `bound` times. -/
def extendWithin {α : Type} (step : α → Parser (Option α)) : (bound : Nat) → α → Parser α
  | 0, result => return result
  | bound + 1, result => do
    match ← step result with
    | none => return result
    | some longer => extendWithin step bound longer

/-- Extends a result until it cannot be extended. -/
def extend {α : Type} (step : α → Parser (Option α)) (result : α) : Parser α := do
  extendWithin step (← get).bound result

/-! ## Lists -/

/-- Reads elements between commas up to a closing punctuator, which is not read.  Gives the
elements and the offset of a comma behind the last one. -/
def separated {α : Type} (close : Punctuator) (element : Parser α) :
    Parser (List α × Option Nat) := do
  if (← atPunctuator close) || (← token).kind = .endOfText then return ([], none)
  let first ← element
  let (others, comma) ← extend (fun (found, _) => do
    if ← atPunctuator close then return none
    let comma ← here
    if !(← eat .comma) then stopAt comma
    if ← atPunctuator close then return some (found, some comma)
    return some (found ++ [← element], none)) (([] : List α), (none : Option Nat))
  return (first :: others, comma)

/-- Reads elements between commas of which only the last may be a rest element, up to a closing
punctuator, which is not read.  A rest element that is not the last is a fault, and so is a comma
behind it. -/
def separatedWithRest {α : Type} (close : Punctuator) (element rest : Parser α) :
    Parser (List α) := do
  let (found, _, _) ← extend (fun (found, lastRest, first) => do
    let token ← token
    if token.isPunctuator close || token.kind = .endOfText then return none
    let comma := token.span.start
    if !first then
      if !(← eat .comma) then stopAt comma
      if ← atPunctuator close then
        if lastRest.isSome then note comma
        return none
    if let some start := lastRest then note start
    let start ← here
    if ← atPunctuator .ellipsis then
      return some (found ++ [← rest], some start, false)
    else
      return some (found ++ [← element], lastRest, false))
    (([] : List α), (none : Option Nat), true)
  return found

/-! ## The first fault -/

/-- The place of the first name that is exported twice. -/
def duplicateExport? : (seen : List (String × Nat)) → List (String × Nat) → Option Nat
  | _, [] => none
  | seen, (name, offset) :: rest =>
    match seen.lookup name with
    | some previous => some previous
    | none => duplicateExport? ((name, offset) :: seen) rest

/-- The place of the first default export if there are several. -/
def State.duplicateDefault? (state : State) : Option Nat :=
  match state.defaultExports ++ state.defaultReExports with
  | first :: _ :: _ => some first
  | _ => none

/-- The first fault of a text, given the one at which the parser stopped, if it did. -/
def State.firstFault? (state : State) (stopped : Option Nat) : Option Nat :=
  let own := state.faults ++ stopped.toList ++ state.pendingDefaults.mergeSort (· ≤ ·)
  (state.textFaults ++ own).head? <|> duplicateExport? [] state.exportedNames <|>
    state.duplicateDefault?

end Parser

end StatementBundler
