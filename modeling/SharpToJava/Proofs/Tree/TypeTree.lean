import SharpToJava.Proofs.Weigh
import SharpToJava.Text.Blank
import SharpToJava.Tree.TypeText
import SharpToJava.TypeMap

/-!
Types as trees: names, generic types and arrays. A node that denotes such a tree has its text as
type text, so what is said of a type holds of every node that denotes it, with whatever tokens,
roles and spelled-out dimensions.
-/

namespace SharpToJava

/-- An array has one dimension and `further` ones. -/
inductive TypeTree where
  | simple (name : String)
  | generic (name : String) (arguments : List TypeTree)
  | array (element : TypeTree) (further : Nat)

namespace TypeTree

mutual
def text : TypeTree → String
  | .simple name => name
  | .generic name arguments => name ++ "<" ++ textAmong arguments ++ ">"
  | .array element further => element.text ++ String.join (List.replicate (further + 1) "[]")

/-- The texts of the arguments of a generic type. -/
def textAmong : List TypeTree → String
  | [] => ""
  | [type] => type.text
  | type :: next :: rest => type.text ++ ", " ++ textAmong (next :: rest)
end

mutual
/-- The simple names of a type, in the order of its text. -/
def names : TypeTree → List String
  | .simple name => [name]
  | .generic name arguments => name :: namesAmong arguments
  | .array element _ => element.names

def namesAmong : List TypeTree → List String
  | [] => []
  | type :: rest => type.names ++ namesAmong rest
end

mutual
def rename (f : String → String) : TypeTree → TypeTree
  | .simple name => .simple (f name)
  | .generic name arguments => .generic (f name) (renameAmong f arguments)
  | .array element further => .array (element.rename f) further

def renameAmong (f : String → String) : List TypeTree → List TypeTree
  | [] => []
  | type :: rest => type.rename f :: renameAmong f rest
end

mutual
/-- The node is a type of this form. A predefined type is a name too. -/
def DenotedBy : TypeTree → Node → Prop
  | .simple name, node =>
    node.kind = .identifierName ∧ node.identifier = name ∨
      node.kind = .predefinedType ∧ node.firstText = name
  | .generic name arguments, node =>
    node.kind = .genericName ∧ node.identifier = name ∧
      DenotedAmong arguments node.typeArguments
  | .array element further, node =>
    node.kind = .arrayType ∧ node.rankCount = further + 1 ∧
      ∃ inner, node.pick? .elementType = some inner ∧ element.DenotedBy inner

def DenotedAmong : List TypeTree → List Node → Prop
  | [], nodes => nodes = []
  | type :: rest, nodes =>
    ∃ node others, nodes = node :: others ∧ type.DenotedBy node ∧ DenotedAmong rest others
end

mutual
theorem typeText_eq : ∀ {type : TypeTree} {node : Node}, type.DenotedBy node →
    node.typeText = type.text
  | .simple name, node, denoted => by
    rw [DenotedBy] at denoted
    rcases denoted with ⟨kind, spelled⟩ | ⟨kind, spelled⟩
    · rw [Node.typeText, kind, text, spelled]
    · rw [Node.typeText, kind, text, spelled]
  | .generic name arguments, node, denoted => by
    rw [DenotedBy] at denoted
    obtain ⟨kind, spelled, listed⟩ := denoted
    rw [Node.typeText, kind, text, spelled]
    simp only [List.attach_map_val, intercalate_typeTexts listed]
  | .array element further, node, denoted => by
    rw [DenotedBy] at denoted
    obtain ⟨kind, ranks, inner, found, denoted⟩ := denoted
    rw [Node.typeText, kind, text, ranks]
    simp only [Node.mapSlot_eq_map, found, Option.map_some, Option.getD_some, typeText_eq denoted]

theorem intercalate_typeTexts : ∀ {types : List TypeTree} {nodes : List Node},
    DenotedAmong types nodes → ", ".intercalate (nodes.map Node.typeText) = textAmong types
  | [], nodes, denoted => by
    rw [DenotedAmong] at denoted
    rw [denoted]
    rfl
  | [type], nodes, denoted => by
    simp only [DenotedAmong] at denoted
    obtain ⟨node, -, rfl, first, rfl⟩ := denoted
    rw [List.map_singleton, String.intercalate_singleton, typeText_eq first, textAmong]
  | type :: next :: rest, nodes, denoted => by
    rw [DenotedAmong] at denoted
    obtain ⟨node, others, rfl, first, later⟩ := denoted
    have following := intercalate_typeTexts later
    rw [DenotedAmong] at later
    obtain ⟨second, more, rfl, -⟩ := later
    rw [textAmong, List.map_cons, List.map_cons, String.intercalate_cons_cons, ← List.map_cons,
      typeText_eq first, following]
end

def oneRank : Node := .mk { kind := .arrayRank } []

mutual
/-- The node of a type, with no roles and no tokens but the names. -/
def toNode : TypeTree → Node
  | .simple name =>
    .mk { kind := .identifierName } [.token { kind := .identifier, text := name }]
  | .generic name arguments =>
    .mk { kind := .genericName } [
      .token { kind := .identifier, text := name },
      .node (.mk { kind := .typeArgumentList } (toNodes arguments))]
  | .array element further =>
    .mk { kind := .arrayType }
      (.node element.toNode :: List.replicate (further + 1) (.node oneRank))

def toNodes : List TypeTree → List Child
  | [] => []
  | type :: rest => .node type.toNode :: toNodes rest
end

@[simp] theorem kind_oneRank : oneRank.kind = .arrayRank := rfl

@[simp] theorem role_oneRank : oneRank.role = none := rfl

theorem role_toNode (type : TypeTree) : type.toNode.role = none := by
  cases type <;> rw [toNode] <;> rfl

theorem kind_toNode_ne (type : TypeTree) : type.toNode.kind ≠ .arrayRank := by
  cases type <;> rw [toNode] <;> exact NodeKind.noConfusion

theorem childNodes_array (element : Node) (count : Nat) :
    (Node.mk { kind := .arrayType }
      (.node element :: List.replicate count (.node oneRank))).childNodes =
        element :: List.replicate count oneRank := by
  simp [Node.childNodes, Node.children, Child.node?, List.filterMap_replicate]

mutual
theorem denotedBy_toNode : ∀ type : TypeTree, type.DenotedBy type.toNode
  | .simple name => by
    rw [toNode, DenotedBy]
    exact .inl ⟨rfl, rfl⟩
  | .generic name arguments => by
    rw [toNode, DenotedBy]
    refine ⟨rfl, rfl, ?_⟩
    exact denotedAmong_toNodes arguments
  | .array element further => by
    rw [toNode, DenotedBy]
    refine ⟨rfl, ?_, element.toNode, ?_, denotedBy_toNode element⟩
    · simp [Node.rankCount, Node.childrenOfKind, childNodes_array, element.kind_toNode_ne, kind_oneRank]
    · simp [Node.pick?, Node.slot?, Node.at?, Slot.elementType, childNodes_array, element.role_toNode,
        element.kind_toNode_ne, role_oneRank]

theorem denotedAmong_toNodes : ∀ types : List TypeTree,
    DenotedAmong types ((toNodes types).filterMap Child.node?)
  | [] => by
    rw [toNodes, DenotedAmong]
    rfl
  | type :: rest => by
    rw [toNodes, DenotedAmong]
    exact ⟨_, _, rfl, denotedBy_toNode type, denotedAmong_toNodes rest⟩
end

mutual
@[simp] theorem names_rename (f : String → String) :
    ∀ type : TypeTree, (type.rename f).names = type.names.map f
  | .simple name => by simp only [rename, names, List.map_cons, List.map_nil]
  | .generic name arguments => by
    simp only [rename, names, List.map_cons, namesAmong_renameAmong f arguments]
  | .array element further => by simp only [rename, names, names_rename f element]

theorem namesAmong_renameAmong (f : String → String) :
    ∀ types : List TypeTree, namesAmong (renameAmong f types) = (namesAmong types).map f
  | [] => by simp only [renameAmong, namesAmong, List.map_nil]
  | type :: rest => by
    simp only [renameAmong, namesAmong, List.map_append, names_rename f type,
      namesAmong_renameAmong f rest]
end

mutual
theorem rename_congr {f g : String → String} : ∀ {type : TypeTree},
    (∀ name ∈ type.names, f name = g name) → type.rename f = type.rename g
  | .simple name, same => by rw [rename, rename, same name (by simp [names])]
  | .generic name arguments, same => by
    rw [rename, rename, same name (by simp [names]),
      renameAmong_congr fun other member => same other (by simp [names, member])]
  | .array element further, same => by
    rw [rename, rename, rename_congr fun other member => same other (by simpa [names] using member)]

theorem renameAmong_congr {f g : String → String} : ∀ {types : List TypeTree},
    (∀ name ∈ namesAmong types, f name = g name) → renameAmong f types = renameAmong g types
  | [], same => by rw [renameAmong, renameAmong]
  | type :: rest, same => by
    rw [renameAmong, renameAmong,
      rename_congr fun other member => same other (by simp [namesAmong, member]),
      renameAmong_congr fun other member => same other (by simp [namesAmong, member])]
end

/-- The brackets of `further + 1` dimensions. -/
def dimensions (further : Nat) : List Char := (List.replicate (further + 1) ['[', ']']).flatten

theorem toList_text_simple (name : String) : (TypeTree.simple name).text.toList = name.toList := by
  rw [text]

theorem toList_text_generic (name : String) (arguments : List TypeTree) :
    (generic name arguments).text.toList =
      name.toList ++ '<' :: ((textAmong arguments).toList ++ ['>']) := by
  simp [text]

theorem toList_text_array (element : TypeTree) (further : Nat) :
    (array element further).text.toList = element.text.toList ++ dimensions further := by
  rw [text, String.toList_append, String.toList_join, List.flatMap, List.map_replicate, dimensions]
  rfl

theorem toList_textAmong_nil : (textAmong []).toList = [] := by
  rw [textAmong]
  rfl

theorem toList_textAmong_singleton (type : TypeTree) :
    (textAmong [type]).toList = type.text.toList := by
  rw [textAmong]

theorem toList_textAmong_cons (type next : TypeTree) (rest : List TypeTree) :
    (textAmong (type :: next :: rest)).toList =
      type.text.toList ++ ',' :: ' ' :: (textAmong (next :: rest)).toList := by
  simp [textAmong]

theorem mem_dimensions {further : Nat} {c : Char} : c ∈ dimensions further ↔ c = '[' ∨ c = ']' := by
  simp [dimensions]

mutual
/-- Renaming changes how often a character occurs by what it changes in the names. -/
theorem count_rename (f : String → String) (c : Char) : ∀ type : TypeTree,
    (type.rename f).text.toList.count c + weigh (·.toList.count c) type.names =
      type.text.toList.count c + weigh (fun name => (f name).toList.count c) type.names
  | .simple name => by
    simp only [rename, names, toList_text_simple, weigh_cons, weigh_nil]
    omega
  | .generic name arguments => by
    have inside := count_renameAmong f c arguments
    simp only [rename, names, toList_text_generic, weigh_cons, List.count_append, List.count_cons]
    omega
  | .array element further => by
    have inside := count_rename f c element
    simp only [rename, names, toList_text_array, List.count_append]
    omega

theorem count_renameAmong (f : String → String) (c : Char) : ∀ types : List TypeTree,
    (textAmong (renameAmong f types)).toList.count c +
        weigh (·.toList.count c) (namesAmong types) =
      (textAmong types).toList.count c +
        weigh (fun name => (f name).toList.count c) (namesAmong types)
  | [] => by simp only [renameAmong, namesAmong, weigh_nil]
  | [type] => by
    have only := count_rename f c type
    simp only [renameAmong, namesAmong, toList_textAmong_singleton, List.append_nil]
    exact only
  | type :: next :: rest => by
    have first := count_rename f c type
    have later := count_renameAmong f c (next :: rest)
    rw [renameAmong] at later
    rw [renameAmong, renameAmong, toList_textAmong_cons, toList_textAmong_cons, namesAmong]
    simp only [weigh_append, List.count_append, List.count_cons]
    omega
end

end TypeTree

namespace TypeName

/-- The characters of simple names: all but the brackets, commas and blanks of a type's text. -/
def isNameChar (c : Char) : Bool :=
  !isAngle c && c != '[' && c != ']' && c != ',' && !Text.isBlank c

def IsSimple (name : String) : Prop := ∀ c ∈ name.toList, isNameChar c = true

instance (name : String) : Decidable (IsSimple name) :=
  decidable_of_iff (name.toList.all isNameChar = true) List.all_eq_true

end TypeName

end SharpToJava
