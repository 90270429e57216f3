import SharpToJava.Decl.Basic
import SharpToJava.Java.Vocabulary
import SharpToJava.Layout.Rules
import SharpToJava.Text.Uppercase

/-!
The declarations that a syntax tree holds. The tree is walked once from the top; types are mapped
and bodies written as they are met, so that all imports are known at the end. A member that has no
counterpart is skipped with a note.
-/

namespace SharpToJava

/-- An interface goes by a capital `I` in front of another capital letter. -/
def isInterfaceName (name : String) : Bool :=
  match name.toList with
  | 'I' :: second :: _ => Text.isUppercase second
  | _ => false

namespace Node

/-- The first namespace with a block, or else the first that spans its file. -/
def namespace? (root : Node) : Option Node :=
  match root.find? .namespaceDecl with
  | some found => some found
  | none => root.find? .fileScopedNamespaceDecl

/-- The position of the name among the child nodes of a namespace. -/
def namePosition (node : Node) : Nat :=
  (node.childNodes.findIdx? (·.role == some "name")).getD 0

/-- The Java counterparts of the modifiers of a declaration. -/
def modifiersBy (node : Node) (table : ModifierTable) : List String :=
  table.apply (node.modifiers.map (·.text))

def toEnumDecl (node : Node) : EnumDecl where
  name := node.identifier
  modifiers := node.modifiersBy .enums
  members := (node.childrenOfKind .enumMember).map (·.identifier)

/-- The modifiers of an accessor: its own, or those of its property. -/
def accessorModifiers (accessor property : Node) : List String :=
  if accessor.modifiers.isEmpty then property.modifiersBy .accessors
  else accessor.modifiersBy .accessors

/-- The getter of a property, from its accessor list or, without one, from its arrow clause. -/
def getter? (node : Node) : Option (List String) :=
  match node.childOfKind? .accessorList with
  | some list => (list.childOfKind? .getAccessor).map fun getter => getter.accessorModifiers node
  | none => (node.childOfKind? .arrowClause).map fun _ => node.modifiersBy .accessors

def setter? (node : Node) : Option (List String) :=
  match node.childOfKind? .accessorList with
  | some list => (list.childOfKind? .setAccessor).map fun setter => setter.accessorModifiers node
  | none => none

end Node

/-- A member of a class. -/
inductive MemberDecl where
  | method (decl : MethodDecl)
  | field (decl : FieldDecl)
  | property (decl : PropertyDecl)
  | enum (decl : EnumDecl)
  deriving DecidableEq, Repr, Inhabited

namespace MemberDecl

def method? : MemberDecl → Option MethodDecl
  | .method decl => some decl
  | _ => none

def field? : MemberDecl → Option FieldDecl
  | .field decl => some decl
  | _ => none

def property? : MemberDecl → Option PropertyDecl
  | .property decl => some decl
  | _ => none

def enum? : MemberDecl → Option EnumDecl
  | .enum decl => some decl
  | _ => none

end MemberDecl

/-- A declaration at the top of a unit. -/
inductive TopDecl where
  | enum (decl : EnumDecl)
  | classDecl (decl : ClassDecl)
  deriving DecidableEq, Repr, Inhabited

namespace TopDecl

def enum? : TopDecl → Option EnumDecl
  | .enum decl => some decl
  | .classDecl _ => none

def class? : TopDecl → Option ClassDecl
  | .classDecl decl => some decl
  | .enum _ => none

end TopDecl

/-- What a class extends and implements. -/
structure Bases where
  superclass : Option String := none
  interfaces : List String := []
  deriving DecidableEq, Repr, Inhabited

namespace Place

/-- The value that a declarator or property starts with, if it has one. -/
def initializer (place : Place) (profile : Profile) : RunM (Option String) :=
  match place.node.childOfKind? .equalsValueClause with
  | some clause =>
    match clause.pick? .value with
    | some value => some <$> ((place.enter clause).enter value).expression profile 1
    | none => return none
  | none => return none

/-- The variables of a declaration, with their values. -/
def declarators (place : Place) (profile : Profile) :
    List Node → RunM (List (String × Option String))
  | [] => return []
  | declarator :: rest => do
    let value ← (place.enter declarator).initializer profile
    return (declarator.identifier, value) :: (← place.declarators profile rest)

/-- A field holds a variable declaration somewhere below it. -/
def fieldDecl (place : Place) (profile : Profile) : RunM (Option FieldDecl) := do
  match place.node.find? .variableDecl with
  | none =>
    RunM.note profile .fieldWithoutDeclaration
    return none
  | some declaration =>
    let type ← RunM.mapType profile .body (declaration.slotTypeText .type)
    let declarators ← (place.enter declaration).declarators profile
      (declaration.childrenOfKind .variableDeclarator)
    return some { type, modifiers := place.node.modifiersBy .fields, declarators }

def propertyDecl (place : Place) (profile : Profile) : RunM PropertyDecl := do
  let node := place.node
  let type ← RunM.mapType profile .body (node.slotTypeText .type)
  let initializer ← place.initializer profile
  return {
    name := node.identifier
    type
    fieldModifiers := node.modifiersBy .backingFields
    getter := node.getter?
    setter := node.setter?
    initializer }

/-- A parameter without a type is left out. -/
def parameterDecl (profile : Profile) (node : Node) : RunM (Option ParameterDecl) := do
  match node.pick? .type with
  | some type =>
    let type ← RunM.mapType profile .body type.typeText
    return some { type, name := node.identifier }
  | none => return none

/-- The parameters of a method: the nodes of its first parameter list. -/
def parameterNodes (node : Node) : List Node :=
  match node.childOfKind? .parameterList with
  | some list => list.childrenOfKind .parameter
  | none => []

/-- The body of a method: its block, or else the expression of its arrow clause. -/
def methodBody (place : Place) (profile : Profile) (returnsValue : Bool) :
    RunM (Option String) :=
  match place.node.childOfKind? .block, place.node.childOfKind? .arrowClause with
  | some block, _ => some <$> (place.enter block).block profile 1
  | none, some arrow =>
    match arrow.pick? .expression with
    | some expression =>
      some <$> ((place.enter arrow).enter expression).arrowBody profile 1 returnsValue
    | none => return none
  | none, none => return none

def methodDecl (place : Place) (profile : Profile) : RunM MethodDecl := do
  let node := place.node
  let returnType ← RunM.mapType profile .returned (node.slotTypeText .type)
  let parameters ← RunM.collect (parameterDecl profile) (parameterNodes node)
  let block ← place.methodBody profile (returnType != "void")
  return {
    name := node.identifier
    returnType
    modifiers := node.modifiersBy .methods
    parameters
    block }

/-- Adds the entries of a base list. An entry that is no interface becomes the superclass, in
place of an earlier one. -/
def bases (profile : Profile) (owner : String) (found : Bases) : List Node → RunM Bases
  | [] => return found
  | entry :: rest => do
    let text := entry.typeText
    let mapped ← RunM.mapType profile .body text
    if isInterfaceName text then
      bases profile owner { found with interfaces := found.interfaces ++ [mapped] } rest
    else
      match found.superclass with
      | some replaced => RunM.note profile (.replacedBase owner mapped replaced)
      | none => pure ()
      bases profile owner { found with superclass := some mapped } rest

def baseNodes (node : Node) : List Node :=
  match node.childOfKind? .baseList with
  | some list => list.childNodes
  | none => []

def memberDecl (place : Place) (profile : Profile) (owner : String) :
    RunM (Option MemberDecl) := do
  match place.kind with
  | .methodDecl => return some (.method (← place.methodDecl profile))
  | .fieldDecl => return (← place.fieldDecl profile).map .field
  | .enumDecl => return some (.enum place.node.toEnumDecl)
  | .propertyDecl => return some (.property (← place.propertyDecl profile))
  | .baseList => return none
  | _ =>
    RunM.note profile (.skippedMember owner place.node.kindName)
    return none

/-- A static class has no counterpart; it becomes a final one. -/
def classDecl (place : Place) (profile : Profile) : RunM ClassDecl := do
  let node := place.node
  let bases ← bases profile node.identifier {} (baseNodes node)
  let members ← RunM.collect (fun child => (place.enter child).memberDecl profile node.identifier)
    node.childNodes
  return {
    name := node.identifier
    modifiers := node.modifiersBy .classes
    isFinal := node.modifiers.any (·.text == "static")
    superclass := bases.superclass
    interfaces := bases.interfaces
    enums := members.filterMap MemberDecl.enum?
    fields := members.filterMap MemberDecl.field?
    properties := members.filterMap MemberDecl.property?
    methods := members.filterMap MemberDecl.method? }

/-- A declaration at the top; the name of the namespace is none and is passed over. -/
def topDecl (place : Place) (profile : Profile) (isName : Bool) : RunM (Option TopDecl) := do
  match place.kind with
  | .classDecl => return some (.classDecl (← place.classDecl profile))
  | .enumDecl => return some (.enum place.node.toEnumDecl)
  | _ =>
    if !isName then RunM.note profile (.skippedTopLevel place.node.kindName)
    return none

/-- The unit of a tree: what its first namespace declares, or what stands at the root. -/
def unitDecl (place : Place) (profile : Profile) : RunM UnitDecl := do
  let found := place.node.namespace?
  let outline : Place := match found with
    | some inner => place.enter inner
    | none => place
  let name := found.map (·.namePosition)
  let decls ← RunM.collect
    (fun child => (outline.enter child.1).topDecl profile (name == some child.2))
    outline.node.childNodes.zipIdx
  return {
    package := found.map (·.slotTypeText .namespaceName)
    enums := decls.filterMap TopDecl.enum?
    classes := decls.filterMap TopDecl.class? }

end Place

end SharpToJava
