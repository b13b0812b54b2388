import GoalLexer.Toml.Text

/-!
# Tables of TOML

A document is a tree of tables. A table comes to be by a header of its own, as
an ancestor of a table with a header, or by a dotted key; what may be added to it
later depends on which. `Table.insert` adds a key with its value, `Table.define`
and `Table.extend` open the table of a header.

All three go down a path of names first (`Table.descend`). A name that is not
there becomes a table on the way; a name that stands for an array of tables means
its last element.
-/

set_option autoImplicit false

namespace GoalLexer.Toml

/-- A value that is not a table of the tree. Only truth values are kept; arrays
and tables in braces are complete as they are and cannot be extended. -/
inductive Value where
  | boolean (b : Bool)
  | string
  | number
  | dateTime
  | array
  | inlineTable
  deriving DecidableEq, Repr

/-- How a table came to be. -/
inductive Origin where
  | header
  | ancestor
  | dottedKey
  deriving DecidableEq, Repr

/-- What a name in a table stands for. -/
inductive Node where
  | leaf (value : Value)
  | table (origin : Origin) (entries : List (String × Node))
  | tables (elements : List (List (String × Node)))

structure Table where
  origin : Origin
  entries : List (String × Node)

namespace Table

def root : Table := ⟨.header, []⟩

def get? (t : Table) (name : String) : Option Node := t.entries.lookup name

/-- Binds a name, anew or in place of what it stood for. -/
def set (t : Table) (name : String) (node : Node) : Table :=
  if (t.get? name).isSome then
    { t with entries := t.entries.map fun entry => if entry.1 == name then (name, node) else entry }
  else { t with entries := t.entries ++ [(name, node)] }

/-- Changes the table at the end of a path. On the path of a dotted key
(`dotted`), a table with a header of its own must not be entered. -/
def descend (dotted : Bool) (change : Table → Option Table) : List String → Table → Option Table
  | [], t => change t
  | name :: path, t =>
      match t.get? name with
      | none => do
          let child ← descend dotted change path ⟨if dotted then .dottedKey else .ancestor, []⟩
          return t.set name (.table child.origin child.entries)
      | some (.leaf _) => none
      | some (.tables elements) => do
          let last ← elements.getLast?
          let child ← descend dotted change path ⟨.header, last⟩
          return t.set name (.tables (elements.dropLast ++ [child.entries]))
      | some (.table origin entries) => do
          if dotted && origin == .header then failure
          let child ← descend dotted change path ⟨origin, entries⟩
          return t.set name (.table child.origin child.entries)

/-- Adds a key with its value. Dotted keys add to tables that dotted keys made,
plain keys to all others, and no name is given twice. -/
def insert (t : Table) (k : Key) (value : Value) : Option Table :=
  t.descend true (fun parent =>
    if (parent.origin == .dottedKey) == k.path.isEmpty then none
    else if (parent.get? k.name).isSome then none
    else some (parent.set k.name (.leaf value))) k.path

/-- Opens the table of a header, which must be new or known as an ancestor
only. -/
def define (t : Table) (k : Key) : Option Table :=
  t.descend false (fun parent =>
    match parent.get? k.name with
    | none => some (parent.set k.name (.table .header []))
    | some (.table .ancestor entries) => some (parent.set k.name (.table .header entries))
    | some _ => none) k.path

/-- Opens the next table of an array of tables. -/
def extend (t : Table) (k : Key) : Option Table :=
  t.descend false (fun parent =>
    match parent.get? k.name with
    | none => some (parent.set k.name (.tables [[]]))
    | some (.tables elements) => some (parent.set k.name (.tables (elements ++ [[]])))
    | some _ => none) k.path

end Table

end GoalLexer.Toml
