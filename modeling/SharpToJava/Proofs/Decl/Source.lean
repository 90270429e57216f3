import SharpToJava.Java.Source
import SharpToJava.Proofs.Phrase.Promise

/-!
The source text of a unit keeps what is promised of the texts in its declarations: between them
stand plain words, lines, and braces in pairs.
-/

namespace SharpToJava

/-- Every text of the declaration is as the wording wants it. -/
structure EnumDecl.Within (wording : Wording) (decl : EnumDecl) : Prop where
  name : wording.holds decl.name
  modifiers : ∀ word ∈ decl.modifiers, wording.holds word
  members : ∀ member ∈ decl.members, wording.holds member

structure FieldDecl.Within (wording : Wording) (decl : FieldDecl) : Prop where
  type : wording.holds decl.type
  modifiers : ∀ word ∈ decl.modifiers, wording.holds word
  names : ∀ declarator ∈ decl.declarators, wording.holds declarator.1
  values : ∀ declarator ∈ decl.declarators, ∀ value ∈ declarator.2, wording.holds value

structure PropertyDecl.Within (wording : Wording) (decl : PropertyDecl) : Prop where
  name : wording.holds decl.name
  type : wording.holds decl.type
  fieldModifiers : ∀ word ∈ decl.fieldModifiers, wording.holds word
  getter : ∀ modifiers ∈ decl.getter, ∀ word ∈ modifiers, wording.holds word
  setter : ∀ modifiers ∈ decl.setter, ∀ word ∈ modifiers, wording.holds word
  initializer : ∀ value ∈ decl.initializer, wording.holds value

structure ParameterDecl.Within (wording : Wording) (decl : ParameterDecl) : Prop where
  type : wording.holds decl.type
  name : wording.holds decl.name

structure MethodDecl.Within (wording : Wording) (decl : MethodDecl) : Prop where
  name : wording.holds decl.name
  returnType : wording.holds decl.returnType
  modifiers : ∀ word ∈ decl.modifiers, wording.holds word
  parameters : ∀ parameter ∈ decl.parameters, parameter.Within wording
  block : ∀ body ∈ decl.block, wording.holds body

structure ClassDecl.Within (wording : Wording) (decl : ClassDecl) : Prop where
  name : wording.holds decl.name
  modifiers : ∀ word ∈ decl.modifiers, wording.holds word
  superclass : ∀ base ∈ decl.superclass, wording.holds base
  interfaces : ∀ base ∈ decl.interfaces, wording.holds base
  enums : ∀ nested ∈ decl.enums, nested.Within wording
  fields : ∀ field ∈ decl.fields, field.Within wording
  properties : ∀ property ∈ decl.properties, property.Within wording
  methods : ∀ method ∈ decl.methods, method.Within wording

structure UnitDecl.Within (wording : Wording) (decl : UnitDecl) : Prop where
  package : ∀ name ∈ decl.package, wording.holds name
  enums : ∀ top ∈ decl.enums, top.Within wording
  classes : ∀ top ∈ decl.classes, top.Within wording

/-- Plain characters and those between lines. -/
def Text.isSpaced (c : Char) : Bool := Text.isPlain c || c == '\n' || c == '\t'

namespace Promise

open Source

variable {types : TypeMap} (promise : Promise types)

theorem spacedText (text : String) (spaced : text.toList.all Text.isSpaced = true) :
    promise.holds text := by
  have chars : ∀ chars : List Char, chars.all Text.isSpaced = true →
      promise.holds (String.ofList chars) := by
    intro chars
    induction chars with
    | nil => exact fun _ => promise.empty
    | cons c rest ih =>
        intro spaced
        rw [List.all_cons, Bool.and_eq_true] at spaced
        rw [String.ofList_cons]
        refine promise.append ?_ (ih spaced.2)
        simp only [Text.isSpaced, Bool.or_eq_true, beq_iff_eq] at spaced
        rcases spaced.1 with (plain | rfl) | rfl
        · exact promise.plain _ (by simpa using plain)
        · exact promise.newline
        · exact promise.tab
  simpa using chars text.toList spaced

/-- Lines in braces; `word` ends the line before them, `margin` stands in front of the last. -/
theorem bracedLines (word margin : String) (plain : word.toList.all Text.isSpaced = true)
    (spaced : margin.toList.all Text.isSpaced = true) {lead body : String}
    (before : promise.holds lead) (inside : promise.holds body) :
    promise.holds (lead ++ (word ++ " \x7b\n") ++ body ++ (margin ++ "\x7d\n")) := by
  have lines := promise.append (promise.append promise.newline inside)
    (promise.spacedText margin spaced)
  have opened := promise.append (promise.append before (promise.spacedText word plain))
    (promise.plain " " (by decide))
  have whole := promise.append (promise.append opened (promise.braced lines)) promise.newline
  have opening : (" \x7b\n" : String) = " " ++ ("\x7b" ++ "\n") := rfl
  have closing : ("\x7d\n" : String) = "\x7d" ++ "\n" := rfl
  rw [opening, closing]
  simpa only [String.append_assoc, -String.reduceAppend] using whole

theorem modifierText {modifiers : List String} (each : ∀ word ∈ modifiers, promise.holds word) :
    promise.holds (modifierText modifiers) := by
  refine promise.join fun text member => ?_
  obtain ⟨word, listed, rfl⟩ := List.mem_map.mp member
  exact promise.append (each word listed) (promise.plain _ (by decide))

theorem valueText {value : Option String} (each : ∀ text ∈ value, promise.holds text) :
    promise.holds (valueText value) := by
  unfold Source.valueText
  split
  · exact promise.empty
  · exact promise.empty
  · exact promise.append (promise.plain _ (by decide)) (each _ rfl)

theorem commaSeparated {items : List String} (each : ∀ item ∈ items, promise.holds item) :
    promise.holds (commaSeparated items) :=
  promise.intercalate (promise.plain _ (by decide)) each

theorem camel (enforce : Bool) {name : String} (holds : promise.holds name) :
    promise.holds (camel enforce name) := by
  cases enforce with
  | false => exact holds
  | true => exact promise.lowered holds

end Promise

section
open Source

variable {types : TypeMap} {promise : Promise types}

theorem EnumDecl.Within.source {decl : EnumDecl} (within : decl.Within promise.toWording)
    {pad : String} (padded : promise.holds pad) : promise.holds (decl.source pad) := by
  have header : promise.holds (pad ++ modifierText decl.modifiers ++ "enum " ++ decl.name) :=
    promise.append (promise.append (promise.append padded (promise.modifierText within.modifiers))
      (promise.plain _ (by decide))) within.name
  have members : promise.holds (pad ++ "\t" ++ commaSeparated decl.members ++ "\n" ++ pad) :=
    promise.append (promise.append (promise.append (promise.append padded promise.tab)
      (promise.commaSeparated within.members)) promise.newline) padded
  have whole : promise.holds (_ ++ " \x7b\n" ++ _ ++ "\x7d\n") :=
    promise.bracedLines "" "" (by decide) (by decide) header members
  unfold EnumDecl.source
  simpa only [String.append_assoc] using whole

theorem FieldDecl.Within.source {decl : FieldDecl} (within : decl.Within promise.toWording) :
    promise.holds decl.source := by
  have declarators : promise.holds
      (commaSeparated (decl.declarators.map fun declarator =>
        declarator.1 ++ valueText declarator.2)) := by
    refine promise.commaSeparated fun text member => ?_
    obtain ⟨declarator, listed, rfl⟩ := List.mem_map.mp member
    exact promise.append (within.names declarator listed)
      (promise.valueText (within.values declarator listed))
  have lead := promise.append (promise.spacedText "\n\t" (by decide))
    (promise.modifierText within.modifiers)
  exact promise.append (promise.append (promise.append (promise.append lead within.type)
    (promise.plain _ (by decide))) declarators) (promise.spacedText _ (by decide))

namespace PropertyDecl.Within

variable {decl : PropertyDecl} (within : decl.Within promise.toWording) (enforce : Bool)
include within

theorem typed {modifiers : List String} (each : ∀ word ∈ modifiers, promise.holds word) :
    promise.holds ("\n\t" ++ modifierText modifiers ++ decl.type) :=
  promise.append (promise.append (promise.spacedText "\n\t" (by decide)) (promise.modifierText each))
    within.type

theorem fieldSource : promise.holds (decl.fieldSource enforce) := by
  have typed := within.typed within.fieldModifiers
  have named := promise.append (promise.append typed (promise.plain " " (by decide)))
    (promise.camel enforce within.name)
  exact promise.append (promise.append named (promise.valueText within.initializer))
    (promise.spacedText _ (by decide))

theorem getterSource {modifiers : List String} (present : decl.getter = some modifiers) :
    promise.holds (decl.getterSource enforce modifiers) := by
  have header := promise.append (promise.append (within.typed (within.getter modifiers present))
    (promise.plain " get" (by decide))) within.name
  have body := promise.append (promise.append (promise.spacedText "\t\treturn this." (by decide))
    (promise.camel enforce within.name)) (promise.spacedText ";\n" (by decide))
  have whole : promise.holds (_ ++ "() \x7b\n" ++ _ ++ "\t\x7d\n") :=
    promise.bracedLines "()" "\t" (by decide) (by decide) header body
  unfold PropertyDecl.getterSource
  simpa only [String.append_assoc] using whole

theorem setterSource {modifiers : List String} (present : decl.setter = some modifiers) :
    promise.holds (decl.setterSource enforce modifiers) := by
  have field := promise.camel enforce within.name
  have named := promise.append (promise.append (within.typed (within.setter modifiers present))
    (promise.plain " set" (by decide))) within.name
  have header := promise.append (promise.append (promise.append (promise.append named
    (promise.plain "(" (by decide))) within.type) (promise.plain " " (by decide))) field
  have body := promise.append (promise.append (promise.append (promise.append
    (promise.spacedText "\t\tthis." (by decide)) field) (promise.plain " = " (by decide))) field)
    (promise.spacedText ";\n" (by decide))
  have whole : promise.holds (_ ++ ") \x7b\n" ++ _ ++ "\t\x7d\n") :=
    promise.bracedLines ")" "\t" (by decide) (by decide) header body
  unfold PropertyDecl.setterSource
  simpa only [String.append_assoc] using whole

theorem source : promise.holds (decl.source enforce) := by
  refine promise.append (promise.append (within.fieldSource enforce) ?_) ?_
  · refine promise.getD fun text member => ?_
    obtain ⟨modifiers, present, rfl⟩ := Option.map_eq_some_iff.mp member
    exact within.getterSource enforce present
  · refine promise.getD fun text member => ?_
    obtain ⟨modifiers, present, rfl⟩ := Option.map_eq_some_iff.mp member
    exact within.setterSource enforce present

end PropertyDecl.Within

theorem MethodDecl.Within.source {decl : MethodDecl} (within : decl.Within promise.toWording)
    (enforce : Bool) : promise.holds (decl.source enforce) := by
  have parameters : promise.holds (commaSeparated
      (decl.parameters.map fun parameter => parameter.type ++ " " ++ parameter.name)) := by
    refine promise.commaSeparated fun text member => ?_
    obtain ⟨parameter, listed, rfl⟩ := List.mem_map.mp member
    have given := within.parameters parameter listed
    exact promise.append (promise.append given.type (promise.plain _ (by decide))) given.name
  have typed := promise.append (promise.append (promise.spacedText "\n\t" (by decide))
    (promise.modifierText within.modifiers)) within.returnType
  have named := promise.append (promise.append typed (promise.plain " " (by decide)))
    (promise.camel enforce within.name)
  have header := promise.append (promise.append (promise.append named
    (promise.plain "(" (by decide))) parameters) (promise.plain ")" (by decide))
  exact promise.append (promise.append header (promise.getD within.block)) promise.newline

namespace ClassDecl.Within

variable {decl : ClassDecl} (within : decl.Within promise.toWording)
include within

theorem extendsText : promise.holds decl.extendsText := by
  unfold ClassDecl.extendsText
  split
  case h_1 => exact promise.empty
  case h_2 => exact promise.empty
  case h_3 superclass _ present =>
    exact promise.append (promise.plain _ (by decide)) (within.superclass superclass present)

theorem implementsText : promise.holds decl.implementsText := by
  unfold ClassDecl.implementsText
  split
  · exact promise.empty
  · exact promise.append (promise.plain _ (by decide)) (promise.commaSeparated within.interfaces)

theorem header : promise.holds decl.header := by
  have marked : promise.holds (if decl.isFinal then "final " else "") := by
    split
    · exact promise.plain _ (by decide)
    · exact promise.empty
  have named := promise.append (promise.append (promise.append
    (promise.modifierText within.modifiers) marked) (promise.plain "class " (by decide))) within.name
  exact promise.append (promise.append named within.extendsText) within.implementsText

theorem source (enforce : Bool) : promise.holds (decl.source enforce) := by
  have enums : promise.holds
      (String.join (decl.enums.map fun nested => "\n" ++ nested.source "\t")) := by
    refine promise.join fun text member => ?_
    obtain ⟨nested, listed, rfl⟩ := List.mem_map.mp member
    exact promise.append promise.newline ((within.enums nested listed).source promise.tab)
  have fields : promise.holds (String.join (decl.fields.map (·.source))) := by
    refine promise.join fun text member => ?_
    obtain ⟨field, listed, rfl⟩ := List.mem_map.mp member
    exact (within.fields field listed).source
  have properties : promise.holds (String.join (decl.properties.map (·.source enforce))) := by
    refine promise.join fun text member => ?_
    obtain ⟨property, listed, rfl⟩ := List.mem_map.mp member
    exact (within.properties property listed).source enforce
  have methods : promise.holds (String.join (decl.methods.map (·.source enforce))) := by
    refine promise.join fun text member => ?_
    obtain ⟨method, listed, rfl⟩ := List.mem_map.mp member
    exact (within.methods method listed).source enforce
  have body := promise.append (promise.append (promise.append enums fields) properties) methods
  have whole : promise.holds (_ ++ " \x7b\n" ++ _ ++ "\n\x7d\n") :=
    promise.bracedLines "" "\n" (by decide) (by decide)
      (promise.append promise.newline within.header) body
  unfold ClassDecl.source
  simpa only [String.append_assoc] using whole

end ClassDecl.Within

namespace UnitDecl.Within

variable {decl : UnitDecl}

theorem packageText (within : decl.Within promise.toWording) : promise.holds decl.packageText := by
  unfold UnitDecl.packageText
  split
  case h_1 => exact promise.newline
  case h_2 => exact promise.newline
  case h_3 package _ present =>
    exact promise.append (promise.append (promise.plain _ (by decide))
      (within.package package present)) (promise.spacedText _ (by decide))

theorem source (within : decl.Within promise.toWording) (enforce : Bool) {imports : List String}
    (imported : ∀ path ∈ imports, promise.holds path) :
    promise.holds (decl.source enforce imports) := by
  have importText : promise.holds (UnitDecl.importText imports) := by
    unfold UnitDecl.importText
    split
    · exact promise.empty
    · refine promise.append promise.newline (promise.join fun text member => ?_)
      obtain ⟨path, listed, rfl⟩ := List.mem_map.mp member
      exact promise.append (promise.append (promise.plain _ (by decide)) (imported path listed))
        (promise.spacedText _ (by decide))
  have enums : promise.holds (String.join (decl.enums.map fun top => "\n" ++ top.source "")) := by
    refine promise.join fun text member => ?_
    obtain ⟨top, listed, rfl⟩ := List.mem_map.mp member
    exact promise.append promise.newline ((within.enums top listed).source promise.empty)
  have classes : promise.holds (String.join (decl.classes.map (·.source enforce))) := by
    refine promise.join fun text member => ?_
    obtain ⟨top, listed, rfl⟩ := List.mem_map.mp member
    exact (within.classes top listed).source enforce
  exact promise.append (promise.append (promise.append within.packageText importText) enums) classes

end UnitDecl.Within

end

end SharpToJava
