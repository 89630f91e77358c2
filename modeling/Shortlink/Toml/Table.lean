import Shortlink.Toml.Item

/-!
# Building tables

A document is built line by line: headers open tables, and keys are put into the one that is open. A
key may be set once, a table may be opened once, and a dotted key only extends tables that dotted
keys or the paths of headers have made. A table that a header opens after its subtables moves behind
the other keys.
-/

namespace Shortlink.Toml

abbrev KeyPath := List String

/-- Whether a table may be extended by a dotted key. -/
def Origin.isOpen : Origin → Bool
  | .explicit => false
  | .implicit | .dotted => true

/-- Puts an item into a table of braces, below the tables of a dotted key, which are made where they
are missing. -/
def putInline (item : Item) : KeyPath → Entries → Option Entries
  | [], _ => none
  | [key], es =>
    match es.get? key with
    | some _ => none
    | none => some (es ++ [(key, item)])
  | key :: path, es =>
    match es.get? key with
    | none => (putInline item path []).map fun sub => es ++ [(key, .inline .dotted sub)]
    | some (.inline o sub) =>
      if o.isOpen then (putInline item path sub).map fun sub => es.replace key (.inline o sub)
      else none
    | some _ => none

/-- Puts an item into a table, below the tables of a dotted key. `origin` is that of the table, and
`below` tells that it lies below the one that is open. -/
def put (item : Item) (origin : Origin) (below : Bool) : KeyPath → Entries → Option Entries
  | [], _ => none
  | [key], es =>
    if below ∧ origin ≠ .dotted then none
    else
      match es.get? key with
      | some _ => none
      | none => some (es ++ [(key, item)])
  | key :: path, es =>
    match es.get? key with
    | none => (put item .dotted true path []).map fun sub => es ++ [(key, .table .dotted sub)]
    | some (.table o sub) =>
      if o.isOpen then (put item o true path sub).map fun sub => es.replace key (.table o sub)
      else none
    | some (.tables elements) =>
      match elements.getLast? with
      | some last =>
        (put item .explicit true path last).map fun sub =>
          es.replace key (.tables (elements.dropLast ++ [sub]))
      | none => none
    | some _ => none

/-- Changes the table at the path of a header, which is made where it is missing. -/
def alter (f : Entries → Option Entries) : KeyPath → Entries → Option Entries
  | [], es => f es
  | key :: path, es =>
    match es.get? key with
    | none => (alter f path []).map fun sub => es ++ [(key, .table .implicit sub)]
    | some (.table o sub) => (alter f path sub).map fun sub => es.replace key (.table o sub)
    | some (.tables elements) =>
      match elements.getLast? with
      | some last =>
        (alter f path last).map fun sub => es.replace key (.tables (elements.dropLast ++ [sub]))
      | none => none
    | some _ => none

/-- The entries of the table at a path. -/
def lookUp : KeyPath → Entries → Option Entries
  | [], es => some es
  | key :: path, es =>
    match es.get? key with
    | some (.table _ sub) => lookUp path sub
    | some (.tables elements) => elements.getLast?.bind (lookUp path)
    | _ => none

/-- Which table is open: the one of the document, or that of a header. -/
inductive Header
  | document
  | table (path : KeyPath) (key : String)
  | element (path : KeyPath) (key : String)
deriving DecidableEq, Repr

/-- A document that is being built. The table that is open is not in it yet. -/
structure Draft where
  document : Entries := []
  header : Header := .document
  current : Entries := []

namespace Draft

/-- The entries when the table that is open is put in its place. -/
def close (d : Draft) : Option Entries :=
  match d.header with
  | .document => some d.current
  | .table path key =>
    alter (fun es => some (es ++ [(key, .table .explicit d.current)])) path d.document
  | .element path key =>
    alter (fun es =>
      match es.get? key with
      | some (.tables elements) => some (es.replace key (.tables (elements ++ [d.current])))
      | _ => none) path d.document

/-- Opens the table of a header. A table that only the paths of headers have made goes on. -/
def openTable (path : KeyPath) (key : String) (d : Draft) : Option Draft := do
  let document ← d.close
  let document ← alter some path document
  let parent ← lookUp path document
  match parent.get? key with
  | none => return ⟨document, .table path key, []⟩
  | some (.table .implicit sub) =>
    return ⟨← alter (fun es => some (es.erase key)) path document, .table path key, sub⟩
  | some _ => none

/-- Opens one more table of a header in double brackets. -/
def openElement (path : KeyPath) (key : String) (d : Draft) : Option Draft := do
  let document ← d.close
  let document ← alter (fun es =>
    match es.get? key with
    | none => some (es ++ [(key, .tables [])])
    | some (.tables _) => some es
    | some _ => none) path document
  return ⟨document, .element path key, []⟩

/-- Gives the key at a path its item, in the table that is open. -/
def set (path : KeyPath) (item : Item) (d : Draft) : Option Draft := do
  return { d with current := ← put item .explicit false path d.current }

end Draft

end Shortlink.Toml
