import RelayGateway.Table
import RelayGateway.Toml.Basic

/-! # TOML documents

A document is a sequence of statements. A header opens a table, an element header appends a table to
an array of tables, and an assignment gives a value to a path below the open table. Every key is
given once, and a table that was opened by a header or that stands as a value is never reopened;
tables that came into being along the way may be.
-/
namespace RelayGateway.Toml

inductive Statement where
  | assign (path : List String) (value : Value)
  | header (path : List String)
  | element (path : List String)

/-- How a table came into being: by its own header, on the way of another header, or on the way of an
assignment. -/
inductive Origin where
  | header
  | implied
  | dotted
deriving DecidableEq

inductive Node where
  | leaf (value : Value)
  | table (origin : Origin) (entries : List (String × Node))
  /-- An array of tables; the last one is open. -/
  | tables (elements : List (List (String × Node)))

abbrev Entries := List (String × Node)

namespace Entries

def node? (key : String) (es : Entries) : Option Node := Table.lookup key es

def put (key : String) (node : Node) (es : Entries) : Entries := Table.replace key node es

def onLast {α : Type} (f : α → Option α) : List α → Option (List α)
  | [] => none
  | [a] => (f a).map fun a => [a]
  | a :: rest => (onLast f rest).map (a :: ·)

/-- Applies `f` to the table at a path of headers; tables that are missing are implied. -/
def within (f : Entries → Option Entries) : List String → Entries → Option Entries
  | [], es => f es
  | key :: rest, es =>
    match node? key es with
    | none => (within f rest []).map fun sub => es.put key (.table .implied sub)
    | some (.table origin sub) => (within f rest sub).map fun sub => es.put key (.table origin sub)
    | some (.tables elements) =>
      (onLast (within f rest) elements).map fun elements => es.put key (.tables elements)
    | some (.leaf _) => none

/-- Gives a value to a path. The tables on the way may not have a header of their own, and the last
of them must have come into being by an assignment. -/
def assign (value : Value) : List String → Entries → Option Entries
  | [], _ => none
  | [key], es => if (node? key es).isSome then none else some (es.put key (.leaf value))
  | key :: next :: rest, es =>
    match node? key es with
    | none => (assign value (next :: rest) []).map fun sub => es.put key (.table .dotted sub)
    | some (.table .header _) => none
    | some (.table origin sub) =>
      if rest = [] ∧ origin = .implied then none
      else (assign value (next :: rest) sub).map fun sub => es.put key (.table origin sub)
    | some (.tables elements) =>
      if rest = [] then none
      else
        (onLast (assign value (next :: rest)) elements).map fun elements =>
          es.put key (.tables elements)
    | some (.leaf _) => none

/-- Opens the table of a header. An implied table moves to the end, where its header stands. -/
def openTable (key : String) (es : Entries) : Option Entries :=
  match node? key es with
  | none => some (es.put key (.table .header []))
  | some (.table .implied sub) => some (es.filter (·.1 ≠ key) ++ [(key, .table .header sub)])
  | _ => none

def openElement (key : String) (es : Entries) : Option Entries :=
  match node? key es with
  | none => some (es.put key (.tables [[]]))
  | some (.tables elements) => some (es.put key (.tables (elements ++ [[]])))
  | _ => none

def atLast (f : String → Entries → Option Entries) (path : List String) (es : Entries) :
    Option Entries :=
  match path.getLast? with
  | some key => within (f key) path.dropLast es
  | none => none

end Entries

/-- What has been read so far: the root table and the path of the open table. -/
structure Draft where
  root : Entries
  current : List String

namespace Draft

def add (d : Draft) : Statement → Option Draft
  | .assign path value =>
    (Entries.within (Entries.assign value path) d.current d.root).map fun root => { d with root }
  | .header path => (Entries.atLast Entries.openTable path d.root).map fun root => ⟨root, path⟩
  | .element path => (Entries.atLast Entries.openElement path d.root).map fun root => ⟨root, path⟩

def ofStatements? (statements : List Statement) : Option Draft :=
  statements.foldlM add ⟨[], []⟩

end Draft

mutual

def Node.value : Node → Value
  | .leaf v => v
  | .table _ entries => .table (entriesValue entries)
  | .tables elements => .array (elementValues elements)

def entriesValue : List (String × Node) → List (String × Value)
  | [] => []
  | (key, node) :: rest => (key, node.value) :: entriesValue rest

def elementValues : List (List (String × Node)) → List Value
  | [] => []
  | entries :: rest => .table (entriesValue entries) :: elementValues rest

end

def tableOf? (statements : List Statement) : Option (List (String × Value)) :=
  (Draft.ofStatements? statements).map fun d => entriesValue d.root

end RelayGateway.Toml
