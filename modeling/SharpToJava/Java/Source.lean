import SharpToJava.Decl.Basic
import SharpToJava.Run

/-!
The Java source of a unit, in a fixed order: package, imports, enums, then each class with its
enums, fields, properties and methods. A property is a field with its accessors.
-/

namespace SharpToJava

namespace Source

def modifierText (modifiers : List String) : String :=
  String.join (modifiers.map (· ++ " "))

/-- An initial value, if there is one and it is not empty. -/
def valueText : Option String → String
  | none | some "" => ""
  | some value => " = " ++ value

def commaSeparated (items : List String) : String := ", ".intercalate items

end Source

open Source

def EnumDecl.source (decl : EnumDecl) (pad : String) : String :=
  pad ++ modifierText decl.modifiers ++ "enum " ++ decl.name ++ " \x7b\n" ++
    pad ++ "\t" ++ commaSeparated decl.members ++ "\n" ++
    pad ++ "\x7d\n"

def FieldDecl.source (decl : FieldDecl) : String :=
  let declarators := decl.declarators.map fun (name, value) => name ++ valueText value
  "\n\t" ++ modifierText decl.modifiers ++ decl.type ++ " " ++ commaSeparated declarators ++ ";\n"

namespace PropertyDecl

/-- The field that holds the value. -/
def fieldSource (decl : PropertyDecl) (enforce : Bool) : String :=
  "\n\t" ++ modifierText decl.fieldModifiers ++ decl.type ++ " " ++ camel enforce decl.name ++
    valueText decl.initializer ++ ";\n"

def getterSource (decl : PropertyDecl) (enforce : Bool) (modifiers : List String) : String :=
  "\n\t" ++ modifierText modifiers ++ decl.type ++ " get" ++ decl.name ++ "() \x7b\n" ++
    "\t\treturn this." ++ camel enforce decl.name ++ ";\n" ++
    "\t\x7d\n"

/-- A setter is declared with the type of its property. -/
def setterSource (decl : PropertyDecl) (enforce : Bool) (modifiers : List String) : String :=
  let field := camel enforce decl.name
  "\n\t" ++ modifierText modifiers ++ decl.type ++ " set" ++ decl.name ++
    "(" ++ decl.type ++ " " ++ field ++ ") \x7b\n" ++
    "\t\tthis." ++ field ++ " = " ++ field ++ ";\n" ++
    "\t\x7d\n"

def source (decl : PropertyDecl) (enforce : Bool) : String :=
  decl.fieldSource enforce ++
    (decl.getter.map (decl.getterSource enforce)).getD "" ++
    (decl.setter.map (decl.setterSource enforce)).getD ""

end PropertyDecl

def MethodDecl.source (decl : MethodDecl) (enforce : Bool) : String :=
  let parameters := decl.parameters.map fun parameter => parameter.type ++ " " ++ parameter.name
  "\n\t" ++ modifierText decl.modifiers ++ decl.returnType ++ " " ++ camel enforce decl.name ++
    "(" ++ commaSeparated parameters ++ ")" ++ decl.block.getD "" ++ "\n"

namespace ClassDecl

def extendsText (decl : ClassDecl) : String :=
  match decl.superclass with
  | none | some "" => ""
  | some superclass => " extends " ++ superclass

def implementsText (decl : ClassDecl) : String :=
  if decl.interfaces.isEmpty then "" else " implements " ++ commaSeparated decl.interfaces

def header (decl : ClassDecl) : String :=
  modifierText decl.modifiers ++ (if decl.isFinal then "final " else "") ++ "class " ++
    decl.name ++ decl.extendsText ++ decl.implementsText

def source (decl : ClassDecl) (enforce : Bool) : String :=
  "\n" ++ decl.header ++ " \x7b\n" ++
    String.join (decl.enums.map fun nested => "\n" ++ nested.source "\t") ++
    String.join (decl.fields.map (·.source)) ++
    String.join (decl.properties.map (·.source enforce)) ++
    String.join (decl.methods.map (·.source enforce)) ++
    "\n\x7d\n"

end ClassDecl

namespace UnitDecl

def packageText (decl : UnitDecl) : String :=
  match decl.package with
  | none | some "" => "\n"
  | some package => "package " ++ package ++ ";\n"

def importText (imports : List String) : String :=
  if imports.isEmpty then ""
  else "\n" ++ String.join (imports.map fun path => "import " ++ path ++ ";\n")

def source (decl : UnitDecl) (enforce : Bool) (imports : List String) : String :=
  decl.packageText ++ importText imports ++
    String.join (decl.enums.map fun top => "\n" ++ top.source "") ++
    String.join (decl.classes.map (·.source enforce))

end UnitDecl

end SharpToJava
