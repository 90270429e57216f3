import SharpToJava.Graph.OfUnit
import SharpToJava.Proofs.Lists

/-!
The names of vertices. The name of a vertex is put together from the package, the class and the
member it stands for, with a mark between each two. As long as no name has a mark in it, the parts
can be told apart again: different declarations of a unit have different names.
-/

namespace SharpToJava

/-- Where a declaration stands in its unit. -/
inductive Address where
  | top (name : String)
  /-- An enum inside a class. -/
  | nested (owner name : String)
  /-- A field or a property. -/
  | value (owner name : String)
  | method (owner name parameters : String)
  deriving DecidableEq

/-- A name without any of the marks that stand between names. -/
def Text.IsSimple (name : String) : Prop :=
  '.' ∉ name.toList ∧ '#' ∉ name.toList ∧ '(' ∉ name.toList

instance : DecidablePred Text.IsSimple := fun _ => inferInstanceAs (Decidable (_ ∧ _ ∧ _))

theorem Graph.qualify_append (package first second : String) :
    qualify package (first ++ second) = qualify package first ++ second := by
  unfold qualify
  split
  · rfl
  · simp only [String.append_assoc]

theorem Graph.qualify_injective {package first second : String}
    (same : qualify package first = qualify package second) : first = second := by
  unfold qualify at same
  split at same
  · exact same
  · exact (String.append_right_inj _).mp same

namespace Address

def path : Address → String
  | .top name => name
  | .nested owner name => owner ++ "." ++ name
  | .value owner name => owner ++ "#" ++ name
  | .method owner name parameters => owner ++ "#" ++ (name ++ "(" ++ parameters ++ ")")

/-- The name of the vertex: the path, with the package before it if there is one. -/
def text (package : String) (address : Address) : String :=
  if package.isEmpty then address.path else package ++ "." ++ address.path

theorem text_eq_qualify (package : String) (address : Address) :
    address.text package = Graph.qualify package address.path := rfl

def Simple : Address → Prop
  | .top name => Text.IsSimple name
  | .nested owner name | .value owner name | .method owner name _ =>
    Text.IsSimple owner ∧ Text.IsSimple name

/-- What a path starts with: the name of the class or enum at the top. -/
def head : Address → String
  | .top name => name
  | .nested owner _ | .value owner _ | .method owner _ _ => owner

/-- What follows in the path, from the mark on. -/
def tail : Address → List Char
  | .top _ => []
  | .nested _ name => '.' :: name.toList
  | .value _ name => '#' :: name.toList
  | .method _ name parameters => '#' :: (name.toList ++ '(' :: (parameters.toList ++ [')']))

theorem toList_path (address : Address) :
    address.path.toList = address.head.toList ++ address.tail := by
  cases address <;> simp [path, head, tail]

theorem simple_head {address : Address} (simple : address.Simple) : Text.IsSimple address.head := by
  cases address with
  | top name => exact simple
  | nested owner name => exact simple.1
  | value owner name => exact simple.1
  | method owner name parameters => exact simple.1

def isMark (c : Char) : Bool := c = '.' || c = '#'

theorem isMark_head_tail (address : Address) : ∀ c ∈ address.tail.head?, isMark c = true := by
  cases address <;> simp [tail, isMark]

theorem not_isMark_of_simple {name : String} (simple : Text.IsSimple name) :
    ∀ c ∈ name.toList, isMark c = false := by
  intro c member
  have noDot : c ≠ '.' := fun same => simple.1 (same ▸ member)
  have noHash : c ≠ '#' := fun same => simple.2.1 (same ▸ member)
  simp [isMark, noDot, noHash]

/-- A method is told from a field by its parenthesis, and where that stands its name ends. -/
theorem tail_injective {first second : Address} (simple : first.Simple) (simpleToo : second.Simple)
    (heads : first.head = second.head) (tails : first.tail = second.tail) : first = second := by
  cases first <;> cases second <;> simp only [head] at heads <;>
    simp only [tail, reduceCtorEq, List.cons.injEq, Char.reduceEq, false_and, true_and,
      String.toList_inj] at tails
  case top.top => rw [heads]
  case nested.nested => rw [heads, tails]
  case value.value => rw [heads, tails]
  case value.method => exact absurd (tails ▸ by simp) simple.2.2.2
  case method.value => exact absurd (tails ▸ by simp) simpleToo.2.2.2
  case method.method =>
    have cuts : ∀ name : String, Text.IsSimple name → ∀ c ∈ name.toList, (c == '(') = false :=
      fun name plain c member => beq_false_of_ne fun same => plain.2.2 (same ▸ member)
    obtain ⟨names, rest⟩ := append_inj_of_cut (cuts _ simple.2) (cuts _ simpleToo.2) (by simp)
      (by simp) tails
    have types := List.append_cancel_right (List.cons.inj rest).2
    rw [heads, String.toList_inj.mp names, String.toList_inj.mp types]

theorem path_injective {first second : Address} (simple : first.Simple) (simpleToo : second.Simple)
    (same : first.path = second.path) : first = second := by
  have lists := congrArg String.toList same
  rw [toList_path, toList_path] at lists
  obtain ⟨heads, tails⟩ := append_inj_of_cut (not_isMark_of_simple (simple_head simple))
    (not_isMark_of_simple (simple_head simpleToo)) (isMark_head_tail first)
    (isMark_head_tail second) lists
  exact tail_injective simple simpleToo (String.toList_inj.mp heads) tails

/-- Different declarations of a unit have different vertices. -/
theorem text_injective {package : String} {first second : Address} (simple : first.Simple)
    (simpleToo : second.Simple) (same : first.text package = second.text package) :
    first = second := by
  rw [text_eq_qualify, text_eq_qualify] at same
  exact path_injective simple simpleToo (Graph.qualify_injective same)

/-- A bare name is that of a vertex only at the top of a unit without a package. -/
theorem eq_top_of_text_eq {package name : String} {address : Address} (simple : address.Simple)
    (bare : Text.IsSimple name) (same : address.text package = name) :
    package = "" ∧ address = .top name := by
  unfold text at same
  split at same
  case isTrue empty =>
    have top : (Address.top name).Simple := bare
    exact ⟨String.isEmpty_iff.mp empty, path_injective simple top same⟩
  case isFalse =>
    have dotted : '.' ∈ name.toList := by rw [← same]; simp
    exact absurd dotted bare.1

end Address

end SharpToJava
