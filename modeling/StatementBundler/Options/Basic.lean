import StatementBundler.Path

/-!
# Options of a build

Which module a build starts from, how specifiers are completed, what separates the statements of
the bundle, which names the host provides beyond the usual ones, what happens to imports and
exports outside the supported subset, and, if any are given, the texts that stand in for a disk.
-/

namespace StatementBundler

/-- What to do with an import or export outside the supported subset. -/
inductive UnsupportedPolicy where
  /-- Fail the build. -/
  | reject
  /-- Warn and leave the statement out of the bundle. -/
  | ignore
deriving Repr, DecidableEq, Inhabited

/-- The name of a policy in the text form of options. -/
def UnsupportedPolicy.name : UnsupportedPolicy → String
  | .reject => "reject"
  | .ignore => "ignore"

/-- The policy of a name. -/
def UnsupportedPolicy.ofName? : String → Option UnsupportedPolicy
  | "reject" => some .reject
  | "ignore" => some .ignore
  | _ => none

/-- A module text that is given along with the options. -/
structure VirtualModule where
  id : String
  code : String
deriving Repr, DecidableEq

/-- What a build is asked to do. -/
structure Options where
  /-- The module to start from; its extension may be left out. -/
  entry : String
  extension : String := ".js"
  separator : String := "\n"
  /-- Names that the host provides in addition to the usual ones. -/
  globals : List String := []
  unsupportedSyntax : UnsupportedPolicy := .reject
  /-- When there are any, modules are read from here instead of the disk. -/
  virtualModules : List VirtualModule := []
deriving Repr, DecidableEq

namespace Options

/-- The path of the entry with the extension appended where it is missing. -/
def entryPath (options : Options) : String :=
  withExtension options.extension options.entry

/-- The options with further host names. -/
def withGlobals (options : Options) (names : List String) : Options :=
  { options with globals := options.globals ++ names }

/-- The options with another policy. -/
def withUnsupportedSyntax (options : Options) (policy : UnsupportedPolicy) : Options :=
  { options with unsupportedSyntax := policy }

end Options

end StatementBundler
