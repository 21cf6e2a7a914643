import Tangle.Toml.Basic
/-!
# Building TOML tables

A document fills its tables piece by piece. This file has the rules on who
may add to which table. A table comes into being by its header, or as a
step on the way to another table's header, or as a step of a dotted key
(`Origin`). A header may claim a table that was only a step of headers; a
dotted key goes only through tables that no header claimed and adds only
to tables that dotted keys made; and no key is given twice.
-/

namespace Tangle

namespace Toml

/-- How a table came into being. -/
inductive Origin where
  /-- By its header. -/
  | header
  /-- As a step on the way to a header's table. -/
  | step
  /-- As a step of a dotted key. -/
  | dotted
deriving Repr, DecidableEq

/-- What stands under a key while a document is being read. -/
inductive Item where
  /-- A value, which is complete. -/
  | value (v : Value)
  /-- A table, which can still grow. -/
  | table (origin : Origin) (entries : List (String × Item))
  /-- Tables in a row, of which the last can still grow. -/
  | tables (elements : List (List (String × Item)))

/-- Items under keys, in order of arrival. -/
abbrev Items := List (String × Item)

/-- Items with the one under a key replaced. -/
def Items.set (key : String) (item : Item) (items : Items) : Items :=
  items.map fun e => if e.1 = key then (key, item) else e

/-- Goes down a path of keys, making the tables that are missing with
origin `made`, and changes what is there. A path of dotted keys does not
enter a table that has a header. -/
def Items.under (made : Origin) (change : Origin → Items → Option Items) :
    List String → Origin → Items → Option Items
  | [], origin, items => change origin items
  | key :: path, _, items =>
    match items.lookup key with
    | none => (under made change path made []).map fun sub => items ++ [(key, .table made sub)]
    | some (.value _) => none
    | some (.table origin sub) =>
      if made = .dotted ∧ origin = .header then none
      else (under made change path origin sub).map fun sub => items.set key (.table origin sub)
    | some (.tables elements) =>
      match elements.getLast? with
      | none => none
      | some last =>
        (under made change path .header last).map fun last =>
          items.set key (.tables (elements.dropLast ++ [last]))

/-- Adds a value under a dotted key, of which `path` is all but the last
part. -/
def Items.addValue (path : List String) (key : String) (v : Value) (items : Items) : Option Items :=
  items.under .dotted add path .header
where
  /-- Adds the value to the table where it belongs. -/
  add (origin : Origin) (items : Items) : Option Items :=
    if (origin = .dotted) = path.isEmpty then none
    else if (items.lookup key).isSome then none
    else some (items ++ [(key, .value v)])

/-- Adds the table of a header, of which `path` is all but the last part. -/
def Items.addTable (path : List String) (key : String) (items : Items) : Option Items :=
  items.under .step add path .header
where
  /-- Adds the table to the one that holds it. -/
  add (_ : Origin) (items : Items) : Option Items :=
    match items.lookup key with
    | none => some (items ++ [(key, .table .header [])])
    | some (.table .step sub) => some (items.set key (.table .header sub))
    | _ => none

/-- Adds one more table to the row of a header, of which `path` is all but
the last part. -/
def Items.addElement (path : List String) (key : String) (items : Items) : Option Items :=
  items.under .step add path .header
where
  /-- Adds the table to the row in the table that holds it. -/
  add (_ : Origin) (items : Items) : Option Items :=
    match items.lookup key with
    | none => some (items ++ [(key, .tables [[]])])
    | some (.tables elements) => some (items.set key (.tables (elements ++ [[]])))
    | _ => none

mutual

/-- The value of an item that is complete. -/
def Item.close : Item → Value
  | .value v => v
  | .table _ entries => .table (closeEntries entries)
  | .tables elements => .array (closeElements elements)

/-- The values of items under keys. -/
def closeEntries : List (String × Item) → List (String × Value)
  | [] => []
  | (key, item) :: rest => (key, item.close) :: closeEntries rest

/-- The values of tables in a row. -/
def closeElements : List (List (String × Item)) → List Value
  | [] => []
  | entries :: rest => .table (closeEntries entries) :: closeElements rest

end

end Toml

end Tangle
