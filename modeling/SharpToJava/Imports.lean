import SharpToJava.TypeMap

/-!
The imports of a unit: the types that a run touches are recorded in the order of their first use,
and those with a known path are imported, after the imports that every unit has.
-/

namespace SharpToJava

structure Imports where
  /-- Import paths by type name. -/
  paths : List (String × String) := []
  defaults : List String := []
  touched : List String := []
  deriving DecidableEq, Repr, Inhabited

namespace Imports

/-- Adds an item at the end, unless it is there already. -/
def addNew (items : List String) (item : String) : List String :=
  if items.contains item then items else items ++ [item]

/-- A table of paths; of two paths for one type the later one counts. -/
def ofTable (table : List (String × String)) (defaults : List String) : Imports :=
  { paths := table.reverse, defaults }

/-- Records every component of a type. -/
def touch (imports : Imports) (type : String) : Imports :=
  { imports with touched := (TypeName.components type).foldl addNew imports.touched }

def erase (imports : Imports) (name : String) : Imports :=
  { imports with touched := imports.touched.filter (· != name) }

def clear (imports : Imports) : Imports := { imports with touched := [] }

def path? (imports : Imports) (name : String) : Option String := imports.paths.lookup name

/-- The import list: each path once, at its first occurrence. -/
def list (imports : Imports) : List String :=
  (imports.defaults ++ imports.touched.filterMap imports.path?).foldl addNew []

end Imports

end SharpToJava
