import SharpToJava.Imports

/-!
The Java vocabulary: which Java type stands for a source type, which types need an import, and
which modifiers carry over in front of which declaration.
-/

namespace SharpToJava

def TypeMap.java : TypeMap where
  images :=
    [("string", "String"),
     ("bool", "Boolean"),
     ("int", "Integer"),
     ("float", "Float"),
     ("double", "Double"),
     ("List", "ArrayList"),
     ("IEnumerable", "Iterable")]
  unsupported := ["Task"]

def Imports.java : Imports where
  paths :=
    [("ArrayList", "java.util.ArrayList"),
     ("IStart", "Jarvis.API"),
     ("IStop", "Jarvis.API"),
     ("IWebUpdate", "Jarvis.API"),
     ("IUpdate", "Jarvis.API"),
     ("JarvisRequest", "Jarvis.API"),
     ("JarvisResponse", "Jarvis.API"),
     ("PrintWriter", "java.io.PrintWriter"),
     ("FileWriter", "java.io.FileWriter")]

/-- Source modifiers with their Java counterpart; a modifier that is not listed is dropped. -/
abbrev ModifierTable : Type := List (String × String)

namespace ModifierTable

def classes : ModifierTable :=
  [("internal", "default"), ("private", "private"), ("public", "public"),
   ("abstract", "abstract"), ("sealed", "final")]

def enums : ModifierTable :=
  [("internal", "default"), ("private", "private"), ("public", "public")]

def fields : ModifierTable :=
  [("public", "public"), ("private", "private"), ("static", "static"),
   ("protected", "protected"), ("readonly", "final"), ("const", "static final")]

def methods : ModifierTable :=
  [("public", "public"), ("private", "private"), ("static", "static"),
   ("protected", "protected"), ("abstract", "abstract")]

/-- The field behind a property is never public. -/
def backingFields : ModifierTable :=
  [("public", "private"), ("private", "private"), ("static", "static"),
   ("protected", "protected")]

def accessors : ModifierTable :=
  [("public", "public"), ("private", "private"), ("static", "static"),
   ("protected", "protected")]

/-- The counterparts of a row of modifiers, in their order. -/
def apply (table : ModifierTable) (modifiers : List String) : List String :=
  modifiers.filterMap fun modifier => table.lookup modifier

end ModifierTable

end SharpToJava
