/-!
# Tables and name sets in insertion order

The answers of the bundler list names in the order in which they were first met.  A `Table` is an
association list in that order: putting a key that is already there keeps its place and replaces
its value.  A name set is a list that `addName` keeps free of duplicates.
-/

namespace StatementBundler

/-- Values by name, in the order in which the names were first put. -/
abbrev Table (α : Type) := List (String × α)

namespace Table

variable {α : Type}

/-- The value of a key. -/
def find? (table : Table α) (key : String) : Option α :=
  List.lookup key table

/-- Puts a value; a key that is already there keeps its place. -/
def put (table : Table α) (key : String) (value : α) : Table α :=
  match table with
  | [] => [(key, value)]
  | entry :: rest => if entry.1 = key then (key, value) :: rest else entry :: put rest key value

/-- Puts several values, one after the other. -/
def putAll (table : Table α) (entries : List (String × α)) : Table α :=
  entries.foldl (fun table entry => table.put entry.1 entry.2) table

end Table

/-- Adds a name to a set of names kept in the order of their first mention. -/
def addName (names : List String) (name : String) : List String :=
  if name ∈ names then names else names ++ [name]

/-- The names of a list without their repetitions, in the order of their first mention. -/
def distinctNames (names : List String) : List String :=
  names.foldl addName []

end StatementBundler
