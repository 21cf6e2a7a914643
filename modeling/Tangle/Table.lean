/-!
# Tables in order of arrival

A table maps names to values and remembers the order in which its names
first arrived. `alter` changes the value under a name in place, or gives a
new name its place at the end, and no operation moves a name.
-/

namespace Tangle

/-- A map from names to values, in order of arrival. -/
structure Table (α : Type) where
  /-- The names with their values. -/
  entries : List (String × α)
deriving Repr, DecidableEq

namespace Table

variable {α : Type}

/-- The table without names. -/
def empty : Table α := ⟨[]⟩

/-- The names in order of arrival. -/
def names (t : Table α) : List String :=
  t.entries.map Prod.fst

/-- The value under a name. -/
def get? (t : Table α) (name : String) : Option α :=
  t.entries.lookup name

/-- Changes the value of the first entry under `name`, or adds one that
changes `fresh`. -/
def alterEntries (name : String) (fresh : α) (f : α → α) : List (String × α) → List (String × α)
  | [] => [(name, f fresh)]
  | (key, value) :: rest =>
    if key = name then (key, f value) :: rest
    else (key, value) :: alterEntries name fresh f rest

/-- Changes the value under `name` by `f`, starting from `fresh` if the
name is new. -/
def alter (t : Table α) (name : String) (fresh : α) (f : α → α) : Table α :=
  ⟨alterEntries name fresh f t.entries⟩

/-- The table without `name`. -/
def erase (t : Table α) (name : String) : Table α :=
  ⟨t.entries.filter fun e => e.1 ≠ name⟩

end Table

end Tangle
