/-!
The declarations of one Java unit. Types, values and bodies are Java text already; what is left to
do is to put the declarations in order and write them.
-/

namespace SharpToJava

structure EnumDecl where
  name : String
  modifiers : List String := []
  members : List String := []
  deriving DecidableEq, Repr, Inhabited

/-- One declaration of fields, which may declare several variables. -/
structure FieldDecl where
  type : String
  modifiers : List String := []
  /-- The variables with their values. -/
  declarators : List (String × Option String) := []
  deriving DecidableEq, Repr, Inhabited

structure PropertyDecl where
  name : String
  type : String
  /-- The modifiers of the field behind the property. -/
  fieldModifiers : List String := []
  /-- The modifiers of the getter, if there is one. -/
  getter : Option (List String) := none
  /-- The modifiers of the setter, if there is one. -/
  setter : Option (List String) := none
  initializer : Option String := none
  deriving DecidableEq, Repr, Inhabited

structure ParameterDecl where
  type : String
  name : String
  deriving DecidableEq, Repr, Inhabited

structure MethodDecl where
  name : String
  returnType : String
  modifiers : List String := []
  parameters : List ParameterDecl := []
  /-- The body, from the blank in front of its opening brace on; none if there is no body. -/
  block : Option String := none
  deriving DecidableEq, Repr, Inhabited

structure ClassDecl where
  name : String
  modifiers : List String := []
  isFinal : Bool := false
  superclass : Option String := none
  interfaces : List String := []
  enums : List EnumDecl := []
  fields : List FieldDecl := []
  properties : List PropertyDecl := []
  methods : List MethodDecl := []
  deriving DecidableEq, Repr, Inhabited

structure UnitDecl where
  package : Option String := none
  enums : List EnumDecl := []
  classes : List ClassDecl := []
  deriving DecidableEq, Repr, Inhabited

end SharpToJava
