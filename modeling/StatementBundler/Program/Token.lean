import StatementBundler.Program.Tree

/-!
# Tokens

A program text is read as a row of tokens.  Words are kept as written names, with escapes read;
whether a word is a keyword depends on where it stands, so that is decided by the grammar.
-/

namespace StatementBundler

/-- The punctuators; the assignment operators that also read are one. -/
inductive Punctuator where
  | openBrace | closeBrace | openParen | closeParen | openBracket | closeBracket
  | dot | ellipsis | optionalDot | semicolon | comma | colon | question | arrow | decorator
  | less | greater | lessEqual | greaterEqual | equal | notEqual | identical | notIdentical
  | plus | minus | star | slash | percent | power | increment | decrement
  | shiftLeft | shiftRight | shiftRightUnsigned | bitAnd | bitOr | bitXor | bitNot
  | not | and | or | coalesce | assign | assignWith | slashAssign
deriving Repr, DecidableEq

/-- The punctuators as they are written, longer ones before their beginnings. -/
def Punctuator.spellings : List (List Char × Punctuator) :=
  [(">>>=", .assignWith), ("...", .ellipsis), ("===", .identical), ("!==", .notIdentical),
   ("**=", .assignWith), ("<<=", .assignWith), (">>=", .assignWith), (">>>", .shiftRightUnsigned),
   ("&&=", .assignWith), ("||=", .assignWith), ("??=", .assignWith), ("=>", .arrow),
   ("==", .equal), ("!=", .notEqual), ("<=", .lessEqual), (">=", .greaterEqual), ("&&", .and),
   ("||", .or), ("??", .coalesce), ("?.", .optionalDot), ("++", .increment), ("--", .decrement),
   ("+=", .assignWith), ("-=", .assignWith), ("*=", .assignWith), ("%=", .assignWith),
   ("**", .power), ("<<", .shiftLeft), (">>", .shiftRight), ("&=", .assignWith),
   ("|=", .assignWith), ("^=", .assignWith), ("/=", .slashAssign), (r"{", .openBrace),
   (r"}", .closeBrace), ("(", .openParen), (")", .closeParen), ("[", .openBracket),
   ("]", .closeBracket), (".", .dot), (";", .semicolon), (",", .comma), ("<", .less),
   (">", .greater), ("+", .plus), ("-", .minus), ("*", .star), ("/", .slash), ("%", .percent),
   ("&", .bitAnd), ("|", .bitOr), ("^", .bitXor), ("!", .not), ("~", .bitNot), ("?", .question),
   (":", .colon), ("=", .assign), ("@", .decorator)].map fun (text, p) => (text.toList, p)

/-- What a token is. -/
inductive TokenKind where
  /-- The end of the text. -/
  | endOfText
  /-- Characters that are no token. -/
  | invalid
  /-- An identifier name or keyword. -/
  | word (name : String)
  /-- A name that is private to a class, `#name`. -/
  | privateName (name : String)
  | number
  /-- A string; one with half of a surrogate pair is not well-formed. -/
  | string (value : String) (wellFormed : Bool)
  | regex
  /-- A template without substitutions; `valid` tells whether all its escapes mean something. -/
  | template (valid : Bool)
  /-- A template up to its first substitution. -/
  | templateHead (valid : Bool)
  /-- A template between two substitutions. -/
  | templateMiddle (valid : Bool)
  /-- A template behind its last substitution. -/
  | templateTail (valid : Bool)
  | punctuator (p : Punctuator)
deriving Repr, DecidableEq

/-- A token with its place. -/
structure Token where
  kind : TokenKind
  span : Span
  /-- Whether a line ends between the token before and this one. -/
  onNewLine : Bool
  /-- Whether the name of a word is written with escapes. -/
  escaped : Bool
deriving Repr, DecidableEq

instance : Inhabited Token := ⟨⟨.endOfText, default, false, false⟩⟩

namespace Token

/-- Whether the token is a given punctuator. -/
def isPunctuator (token : Token) (p : Punctuator) : Bool :=
  token.kind = .punctuator p

/-- Whether the token is a given word. -/
def isWord (token : Token) (name : String) : Bool :=
  token.kind = .word name

/-- The name of a word. -/
def word? (token : Token) : Option String :=
  match token.kind with
  | .word name => some name
  | _ => none

end Token

/-! ## Reserved words -/

/-- The words that never name a variable, among them `await` and `yield`, whose use depends on
the function around them. -/
def reservedWords : List String :=
  ["await", "break", "case", "catch", "class", "const", "continue", "debugger", "default",
   "delete", "do", "else", "enum", "export", "extends", "false", "finally", "for", "function",
   "if", "import", "in", "instanceof", "new", "null", "return", "super", "switch", "this", "throw",
   "true", "try", "typeof", "var", "void", "while", "with", "yield"]

/-- The words that do not name an exported variable in addition to the reserved ones. -/
def futureReservedWords : List String :=
  ["implements", "interface", "let", "package", "private", "protected", "public", "static"]

/-- The words that mean something in some place without being reserved. -/
def contextualWords : List String :=
  ["async", "from", "get", "meta", "of", "set", "target", "accessor", "as", "using", "source",
   "defer", "assert"]

/-- Whether a word can name a variable anywhere. -/
def isPlainIdentifier (name : String) : Bool :=
  !reservedWords.contains name

/-- Whether a word can stand where a name is bound; the grammar checks `await` and `yield`. -/
def isBindingIdentifier (name : String) : Bool :=
  isPlainIdentifier name || name = "await" || name = "yield"

end StatementBundler
