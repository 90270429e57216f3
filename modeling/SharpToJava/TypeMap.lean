import SharpToJava.Table
import SharpToJava.Text.Blank

/-!
The map from source type names to Java type names. It is kept in two tables: a name can have an
image, be known to have no counterpart, or be in neither table. An unknown name stays as it is, and
what stands for a name without a counterpart depends on where the type is used.

Generic types are mapped component by component: `components` cuts a type at its angle brackets.
-/

namespace SharpToJava

/-- Where a type is used. -/
inductive TypeUse where
  | returned
  | body
  deriving DecidableEq, Repr, Inhabited

/-- What stands for a type without a counterpart. -/
structure Fallbacks where
  returned : String := "void"
  body : String := "var"
  deriving DecidableEq, Repr, Inhabited

def Fallbacks.get (fallbacks : Fallbacks) : TypeUse → String
  | .returned => fallbacks.returned
  | .body => fallbacks.body

namespace TypeName

def isAngle (c : Char) : Bool := c == '<' || c == '>'

/-- Cuts a text at every character that `p` accepts. -/
def splitChars (p : Char → Bool) : List Char → List (List Char)
  | [] => [[]]
  | c :: rest =>
    if p c then [] :: splitChars p rest
    else
      match splitChars p rest with
      | [] => [[c]]
      | first :: others => (c :: first) :: others

/-- The names between the angle brackets of a type, without the blanks around them; empty ones
do not count. -/
def components (name : String) : List String :=
  ((splitChars isAngle name.toList).map Text.trimChars).filterMap fun piece =>
    if piece.isEmpty then none else some (String.ofList piece)

end TypeName

/-- Names with their images, and apart from these the names without a counterpart. -/
@[ext] structure TypeMap where
  images : Table String := []
  unsupported : List String := []
  fallbacks : Fallbacks := {}
  /-- No name has an image and is without a counterpart. -/
  apart : ∀ name ∈ unsupported, images.has name = false := by decide
  deriving DecidableEq, Repr

instance : Inhabited TypeMap := ⟨{}⟩

namespace TypeMap

/-- A text that holds this mark says that there is no counterpart. -/
def noCounterpartMark : Char := '!'

theorem apart_put (map : TypeMap) {name : String} (absent : name ∉ map.unsupported)
    (image : String) : ∀ other ∈ map.unsupported, (map.images.put name image).has other = false := by
  intro other member
  have differs : other ≠ name := fun same => absent (same ▸ member)
  rw [Table.has_put, map.apart other member, Bool.false_or, beq_false_of_ne differs]

theorem apart_insert (map : TypeMap) {name : String} (absent : ¬ map.images.has name = true) :
    ∀ other ∈ map.unsupported.insert name, map.images.has other = false := by
  intro other member
  rcases List.mem_insert_iff.mp member with rfl | known
  · exact Bool.not_eq_true _ ▸ absent
  · exact map.apart other known

theorem apart_remove (map : TypeMap) (name : String) :
    ∀ other ∈ map.unsupported.filter (· != name), (map.images.remove name).has other = false := by
  intro other member
  rw [Table.has_remove, map.apart other (List.mem_filter.mp member).1, Bool.false_and]

/-- The name is known already. -/
structure DuplicateName where
  name : String
  deriving DecidableEq, Repr

/-- Adds a name that is in neither table to one of them. -/
def add (map : TypeMap) (name mapped : String) : Except DuplicateName TypeMap :=
  if known : map.images.has name = true ∨ name ∈ map.unsupported then .error ⟨name⟩
  else if mapped.toList.contains noCounterpartMark then
    .ok { map with
      unsupported := map.unsupported.insert name
      apart := map.apart_insert (not_or.mp known).1 }
  else
    .ok { map with
      images := map.images.put name mapped
      apart := map.apart_put (not_or.mp known).2 mapped }

def addAll (map : TypeMap) : List (String × String) → Except DuplicateName TypeMap
  | [] => .ok map
  | (name, mapped) :: rest =>
    match map.add name mapped with
    | .ok next => next.addAll rest
    | .error duplicate => .error duplicate

/-- Takes a name out of both tables, and answers whether it was in one of them. -/
def remove (map : TypeMap) (name : String) : Bool × TypeMap :=
  let barred := map.unsupported.contains name
  let mapped := map.images.has name
  (barred || mapped,
    { map with
      unsupported := map.unsupported.filter (· != name)
      images := map.images.remove name
      apart := map.apart_remove name })

def isUnsupported (map : TypeMap) (name : String) : Bool := map.unsupported.contains name

/-- What stands for a component of a generic type: its image, or the name itself unless it has no
counterpart. -/
def image? (map : TypeMap) (name : String) : Option String :=
  match map.images.lookup name with
  | some image => some image
  | none => if !map.unsupported.contains name then some name else none

/-- What stands for a name by itself. -/
def mapName (map : TypeMap) (use : TypeUse) (name : String) : String :=
  match map.images.lookup name with
  | some image => image
  | none => if map.unsupported.contains name then map.fallbacks.get use else name

/-- The images of the components, each but the last component followed by an opening bracket. -/
def openChain (map : TypeMap) : List String → List String
  | [] => []
  | [name] => (map.image? name).toList
  | name :: rest => ((map.image? name).map (· ++ "<")).toList ++ map.openChain rest

/-- A component without a counterpart is left out together with one closing bracket, so that a
type whose last component is left out keeps a bracket open. -/
def mapGeneric (map : TypeMap) (use : TypeUse) (name : String) : String :=
  let components := TypeName.components name
  let dropped := (components.filter fun component => (map.image? component).isNone).length
  let chain := map.openChain components
  let closing := name.toList.count '<' - dropped
  (if chain.isEmpty then map.fallbacks.get use else String.join chain) ++
    String.join (List.replicate closing ">")

/-- The Java text of a source type: component by component if it has angle brackets; of an array,
the part before the first square bracket is mapped and the rest kept. -/
def map (types : TypeMap) (use : TypeUse) (name : String) : String :=
  let text := name.toList
  if text.contains '<' then types.mapGeneric use name
  else if text.contains '[' then
    let element := String.ofList (text.takeWhile (· != '['))
    types.mapName use element ++ String.ofList (text.dropWhile (· != '['))
  else types.mapName use name

end TypeMap

end SharpToJava
