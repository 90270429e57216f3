import SharpToJava.Decl.Basic
import SharpToJava.Graph.Basic
import SharpToJava.Json.Basic

/-!
The graph of a unit: a vertex per declaration, named by its qualified name, an edge from a class to
each of its members, and an edge to each type it extends or implements. A type that the unit does
not declare is an external one.
-/

namespace SharpToJava

/-- What a vertex stands for. -/
inductive Entity where
  | enumType (name : String) (modifiers members : List String)
  | classType (name : String) (modifiers : List String) (isFinal : Bool)
  | field (name type : String) (modifiers : List String) (value : Option String)
  | property (name type : String) (hasGetter hasSetter : Bool)
  | method (name returnType : String) (modifiers : List String)
    (parameters : List ParameterDecl)
  | externalType (name : String)
  deriving DecidableEq, Repr, Inhabited

namespace Entity

def kind : Entity → String
  | .enumType .. => "Enum"
  | .classType .. => "Class"
  | .field .. => "Field"
  | .property .. => "Property"
  | .method .. => "Method"
  | .externalType .. => "ExternalType"

def textsJson (texts : List String) : Json := .array (texts.map .string)

def textOrNull : Option String → Json
  | some text => .string text
  | none => .null

/-- The attributes shown beside the kind. -/
def attributes : Entity → List (String × Json)
  | .enumType name modifiers members =>
    [("name", .string name), ("modifiers", textsJson modifiers), ("members", textsJson members)]
  | .classType name modifiers isFinal =>
    [("name", .string name), ("modifiers", textsJson modifiers), ("is_final", .bool isFinal)]
  | .field name type modifiers value =>
    [("name", .string name), ("type_name", .string type), ("modifiers", textsJson modifiers),
     ("value", textOrNull value)]
  | .property name type hasGetter hasSetter =>
    [("name", .string name), ("type_name", .string type), ("has_getter", .bool hasGetter),
     ("has_setter", .bool hasSetter)]
  | .method name returnType modifiers parameters =>
    [("name", .string name), ("return_type", .string returnType),
     ("modifiers", textsJson modifiers),
     ("parameters", .array (parameters.map fun parameter =>
        textsJson [parameter.type, parameter.name]))]
  | .externalType name => [("name", .string name)]

end Entity

def EnumDecl.entity (decl : EnumDecl) : Entity := .enumType decl.name decl.modifiers decl.members

def ClassDecl.entity (decl : ClassDecl) : Entity :=
  .classType decl.name decl.modifiers decl.isFinal

def PropertyDecl.entity (decl : PropertyDecl) : Entity :=
  .property decl.name decl.type decl.getter.isSome decl.setter.isSome

def MethodDecl.entity (decl : MethodDecl) : Entity :=
  .method decl.name decl.returnType decl.modifiers decl.parameters

/-- Methods of one name are told apart by the types of their parameters. -/
def MethodDecl.signature (decl : MethodDecl) : String :=
  decl.name ++ "(" ++ ", ".intercalate (decl.parameters.map (·.type)) ++ ")"

namespace Graph

def qualify (package name : String) : String :=
  if package.isEmpty then name else package ++ "." ++ name

/-- Adds a vertex and the edge from its owner. -/
def addMember (graph : Graph Entity) (owner name label : String) (entity : Entity) :
    Graph Entity :=
  (graph.addVertex name entity).addEdge ⟨owner, name, label⟩

/-- The vertex of a base type: the unit's own where the unit declares the name, else an external
one, which is added if it is new. -/
def resolve (graph : Graph Entity) (package name : String) : Graph Entity × String :=
  let qualified := qualify package name
  if graph.contains qualified then (graph, qualified)
  else if graph.contains name then (graph, name)
  else (graph.addVertex name (.externalType name), name)

def addBase (package owner label : String) (graph : Graph Entity) (base : String) :
    Graph Entity :=
  let (graph, target) := graph.resolve package base
  graph.addEdge ⟨owner, target, label⟩

def addEnums (owner : String) (graph : Graph Entity) (enums : List EnumDecl) : Graph Entity :=
  enums.foldl (fun graph decl =>
    graph.addMember owner (owner ++ "." ++ decl.name) "HAS_ENUM" decl.entity) graph

def addField (owner : String) (graph : Graph Entity) (decl : FieldDecl) : Graph Entity :=
  decl.declarators.foldl (fun graph (name, value) =>
    graph.addMember owner (owner ++ "#" ++ name) "HAS_FIELD"
      (.field name decl.type decl.modifiers value)) graph

def addProperty (owner : String) (graph : Graph Entity) (decl : PropertyDecl) : Graph Entity :=
  graph.addMember owner (owner ++ "#" ++ decl.name) "HAS_PROPERTY" decl.entity

def addMethod (owner : String) (graph : Graph Entity) (decl : MethodDecl) : Graph Entity :=
  graph.addMember owner (owner ++ "#" ++ decl.signature) "HAS_METHOD" decl.entity

/-- The superclass of a class, an empty one counting as none. -/
def superclasses (decl : ClassDecl) : List String :=
  match decl.superclass with
  | none | some "" => []
  | some superclass => [superclass]

/-- The members of a class and the types it extends and implements. -/
def addClass (package : String) (graph : Graph Entity) (decl : ClassDecl) : Graph Entity :=
  let owner := qualify package decl.name
  let graph := graph.addEnums owner decl.enums
  let graph := decl.fields.foldl (addField owner) graph
  let graph := decl.properties.foldl (addProperty owner) graph
  let graph := decl.methods.foldl (addMethod owner) graph
  let graph := (superclasses decl).foldl (addBase package owner "INHERITS") graph
  decl.interfaces.foldl (addBase package owner "IMPLEMENTS") graph

/-- All enums and classes come first, so that a base type declared later in the unit is found. -/
def ofUnit (decl : UnitDecl) : Graph Entity :=
  let package := decl.package.getD ""
  let graph : Graph Entity := decl.enums.foldl (fun graph top =>
    graph.addVertex (qualify package top.name) top.entity) {}
  let graph := decl.classes.foldl (fun graph top =>
    graph.addVertex (qualify package top.name) top.entity) graph
  decl.classes.foldl (addClass package) graph

end Graph

end SharpToJava
