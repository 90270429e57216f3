import Mathlib.Data.List.Nodup
import SharpToJava.Compiler
import SharpToJava.Proofs.Run.Outcome

/-!
The field behind a property. It is declared like any other field of the class, under the name of
the property with its first letter in lower case where conventions are enforced. Fields keep their
names, so a property and a field, or two properties, can end up with one name between them. Exactly
then an accessor does not say which field it means.
-/

namespace SharpToJava

open Source

def FieldDecl.names (decl : FieldDecl) : List String := decl.declarators.map Prod.fst

namespace PropertyDecl

/-- The field behind a property, as a declaration of its own. -/
def backingField (decl : PropertyDecl) (enforce : Bool) : FieldDecl where
  type := decl.type
  modifiers := decl.fieldModifiers
  declarators := [(camel enforce decl.name, decl.initializer)]

/-- The accessors of a property whose value is in the given field. -/
def accessorsOn (decl : PropertyDecl) (field : String) : String :=
  let getter (modifiers : List String) : String :=
    "\n\t" ++ modifierText modifiers ++ decl.type ++ " get" ++ decl.name ++ "() \x7b\n" ++
      "\t\treturn this." ++ field ++ ";\n" ++
      "\t\x7d\n"
  let setter (modifiers : List String) : String :=
    "\n\t" ++ modifierText modifiers ++ decl.type ++ " set" ++ decl.name ++
      "(" ++ decl.type ++ " " ++ field ++ ") \x7b\n" ++
      "\t\tthis." ++ field ++ " = " ++ field ++ ";\n" ++
      "\t\x7d\n"
  (decl.getter.map getter).getD "" ++ (decl.setter.map setter).getD ""

theorem source_eq_append (decl : PropertyDecl) (enforce : Bool) :
    decl.source enforce =
      (decl.backingField enforce).source ++ decl.accessorsOn (camel enforce decl.name) := by
  have line : decl.fieldSource enforce = (decl.backingField enforce).source := by
    simp [fieldSource, FieldDecl.source, backingField, commaSeparated, String.append_assoc]
  rw [source, line, String.append_assoc]
  rfl

end PropertyDecl

namespace ClassDecl

def fieldNames (decl : ClassDecl) : List String := decl.fields.flatMap FieldDecl.names

def propertyNames (decl : ClassDecl) : List String := decl.properties.map PropertyDecl.name

/-- The Java fields of a class: first its own, then those behind its properties. -/
def javaFields (decl : ClassDecl) (enforce : Bool) : List FieldDecl :=
  decl.fields ++ decl.properties.map (·.backingField enforce)

/-- Every name that a Java field of the class declares, with its declaration. -/
def declarations (decl : ClassDecl) (enforce : Bool) : List (String × FieldDecl) :=
  (decl.javaFields enforce).flatMap fun field => field.names.map fun name => (name, field)

def declaredNames (decl : ClassDecl) (enforce : Bool) : List String :=
  (decl.declarations enforce).map Prod.fst

/-- The declarations that a name can refer to. -/
def referents (decl : ClassDecl) (enforce : Bool) (name : String) : List FieldDecl :=
  ((decl.declarations enforce).filter (·.1 == name)).map Prod.snd

variable (decl : ClassDecl) (enforce : Bool)

theorem declaredNames_eq :
    decl.declaredNames enforce = decl.fieldNames ++ decl.propertyNames.map (camel enforce) := by
  have names : ∀ fields : List FieldDecl,
      (fields.flatMap fun field => field.names.map fun name => (name, field)).map Prod.fst =
        fields.flatMap FieldDecl.names := by
    intro fields
    simp [List.map_flatMap, Function.comp_def]
  rw [declaredNames, declarations, names, javaFields, List.flatMap_append, fieldNames,
    propertyNames, List.flatMap_map, List.map_map, List.append_cancel_left_eq]
  exact (List.map_eq_flatMap).symm

theorem length_referents (name : String) :
    (decl.referents enforce name).length = (decl.declaredNames enforce).count name := by
  rw [referents, List.length_map, declaredNames, List.count, List.countP_map,
    List.countP_eq_length_filter]
  rfl

theorem backingField_mem_referents {property : PropertyDecl} (mem : property ∈ decl.properties) :
    property.backingField enforce ∈ decl.referents enforce (camel enforce property.name) := by
  have declared : (camel enforce property.name, property.backingField enforce) ∈
      decl.declarations enforce := by
    refine List.mem_flatMap.mpr ⟨property.backingField enforce, ?_, ?_⟩
    · exact List.mem_append_right _ (List.mem_map_of_mem mem)
    · simp [FieldDecl.names, PropertyDecl.backingField]
  exact List.mem_map.mpr ⟨_, List.mem_filter.mpr ⟨declared, by simp⟩, rfl⟩

/-- An accessor means the field of its own property, and no other. -/
def OwnFields : Prop :=
  ∀ property ∈ decl.properties,
    decl.referents enforce (camel enforce property.name) = [property.backingField enforce]

variable {decl enforce}

theorem ownFields_of_nodup (distinct : (decl.declaredNames enforce).Nodup) :
    decl.OwnFields enforce := by
  intro property mem
  have own := decl.backingField_mem_referents enforce mem
  have few : (decl.referents enforce (camel enforce property.name)).length ≤ 1 := by
    rw [length_referents]
    exact List.nodup_iff_count_le_one.mp distinct _
  obtain ⟨only, single⟩ := List.length_eq_one_iff.mp
    (Nat.le_antisymm few (List.length_pos_of_mem own))
  rw [single] at own ⊢
  rw [List.mem_singleton.mp own]

/-- The names of the fields are their own, so only a backing field can bring in a name again. -/
theorem nodup_of_ownFields (distinct : decl.fieldNames.Nodup) (own : decl.OwnFields enforce) :
    (decl.declaredNames enforce).Nodup := by
  refine List.nodup_iff_count_le_one.mpr fun name => ?_
  by_cases backing : name ∈ decl.propertyNames.map (camel enforce)
  case pos =>
    rw [propertyNames, List.map_map] at backing
    obtain ⟨property, mem, rfl⟩ := List.mem_map.mp backing
    rw [← length_referents, Function.comp_apply, own property mem]
    exact Nat.le_refl 1
  case neg =>
    rw [declaredNames_eq, List.count_append, List.count_eq_zero_of_not_mem backing, Nat.add_zero]
    exact List.nodup_iff_count_le_one.mp distinct name

/-- Without conventions a backing field has the name of its property. -/
theorem declaredNames_false :
    decl.declaredNames false = decl.fieldNames ++ decl.propertyNames := by
  rw [declaredNames_eq]
  exact congrArg _ (List.map_id _)

theorem nodup_declaredNames_true_iff (distinct : (decl.fieldNames ++ decl.propertyNames).Nodup) :
    (decl.declaredNames true).Nodup ↔
      (∀ name ∈ decl.propertyNames, Text.lowerFirst name ∉ decl.fieldNames) ∧
      ∀ first ∈ decl.propertyNames, ∀ second ∈ decl.propertyNames,
        Text.lowerFirst first = Text.lowerFirst second → first = second := by
  obtain ⟨fields, properties, -⟩ := List.nodup_append.mp distinct
  have camel_true : camel true = Text.lowerFirst := rfl
  rw [declaredNames_eq, camel_true, List.nodup_append', List.nodup_map_iff_inj_on properties]
  constructor
  case mp =>
    rintro ⟨-, injective, disjoint⟩
    exact ⟨fun name mem field => disjoint field (List.mem_map_of_mem mem), injective⟩
  case mpr =>
    rintro ⟨apart, injective⟩
    refine ⟨fields, injective, fun name field lowered => ?_⟩
    obtain ⟨property, mem, rfl⟩ := List.mem_map.mp lowered
    exact apart property mem field

end ClassDecl

/-- Let the fields and properties of a class have distinct names. Without conventions the Java
fields have distinct names too. With conventions they do unless a property, once its first letter is
in lower case, has the name of a field, or that of another property with its first letter in lower
case. Where they do, and only there, every accessor means the field behind its own property. -/
theorem backingFields_distinct_iff (decl : ClassDecl)
    (distinct : (decl.fieldNames ++ decl.propertyNames).Nodup) :
    (decl.declaredNames false).Nodup ∧
    ((decl.declaredNames true).Nodup ↔
      (∀ name ∈ decl.propertyNames, Text.lowerFirst name ∉ decl.fieldNames) ∧
      ∀ first ∈ decl.propertyNames, ∀ second ∈ decl.propertyNames,
        Text.lowerFirst first = Text.lowerFirst second → first = second) ∧
    ∀ enforce, (decl.OwnFields enforce ↔ (decl.declaredNames enforce).Nodup) ∧
      ∀ property ∈ decl.properties, property.source enforce =
        (property.backingField enforce).source ++
          property.accessorsOn (camel enforce property.name) := by
  refine ⟨?_, ClassDecl.nodup_declaredNames_true_iff distinct, fun enforce => ⟨⟨?_, ?_⟩, ?_⟩⟩
  · rwa [ClassDecl.declaredNames_false]
  · exact ClassDecl.nodup_of_ownFields (List.nodup_append.mp distinct).1
  · exact ClassDecl.ownFields_of_nodup
  · exact fun property _ => property.source_eq_append enforce

/-- `class Box { int count; int Count { get; set; } }` -/
def Node.countTwice : Node :=
  .mk { kind := .classDecl } [
    .token { kind := .identifier, text := "Box" },
    .node (.mk { kind := .fieldDecl } [.node (.mk { kind := .variableDecl } [
      .node (.mk { kind := .predefinedType } [.token { kind := .identifier, text := "int" }]),
      .node (.mk { kind := .variableDeclarator } [
        .token { kind := .identifier, text := "count" }])])]),
    .node (.mk { kind := .propertyDecl } [
      .node (.mk { kind := .predefinedType } [.token { kind := .identifier, text := "int" }]),
      .token { kind := .identifier, text := "Count" },
      .node (.mk { kind := .accessorList } [
        .node (.mk { kind := .getAccessor } []), .node (.mk { kind := .setAccessor } [])])])]

def ClassDecl.countTwice : ClassDecl where
  name := "Box"
  fields := [{ type := "Integer", declarators := [("count", none)] }]
  properties := [{ name := "Count", type := "Integer", getter := some [], setter := some [] }]

theorem backingFields_distinct_iff_countTwice :
    (∃ after, (Place.classDecl ⟨Node.countTwice, []⟩ (Profile.java true)).run Journal.java =
      .ok ClassDecl.countTwice after) ∧
    (ClassDecl.countTwice.fieldNames ++ ClassDecl.countTwice.propertyNames).Nodup ∧
    ClassDecl.countTwice.OwnFields false ∧
    ¬ (ClassDecl.countTwice.declaredNames true).Nodup ∧ ¬ ClassDecl.countTwice.OwnFields true := by
  have distinct :
      (ClassDecl.countTwice.fieldNames ++ ClassDecl.countTwice.propertyNames).Nodup := by decide
  obtain ⟨kept, lowered, own⟩ := backingFields_distinct_iff ClassDecl.countTwice distinct
  have clash : ¬ (ClassDecl.countTwice.declaredNames true).Nodup := by
    intro nodup
    refine (lowered.mp nodup).1 "Count" (by decide) ?_
    decide +kernel
  exact ⟨RunM.exists_of_result? (by decide +kernel), distinct, (own false).1.mpr kept, clash,
    fun means => clash ((own true).1.mp means)⟩

end SharpToJava
