import SharpToJava.Dump.Reader

/-!
When a check succeeds. Each way to combine checks succeeds exactly if its parts do, so a dump that
is read can be taken apart into the fields it was read from (`Dump.node_eq_ok`).
-/

namespace SharpToJava

namespace Checked

variable {α β : Type}

@[simp] theorem inside_eq_ok {key : String} {checked : Checked α} {value : α} :
    checked.inside key = .ok value ↔ checked = .ok value := by
  cases checked <;> simp [inside]

@[simp] theorem both_eq_ok {first : Checked α} {second : Checked β} {value : α × β} :
    both first second = .ok value ↔ first = .ok value.1 ∧ second = .ok value.2 := by
  obtain ⟨a, b⟩ := value
  cases first <;> cases second <;> simp [both]

theorem map_eq_ok {f : α → β} {checked : Checked α} {value : β} :
    checked.map f = .ok value ↔ ∃ source, checked = .ok source ∧ f source = value := by
  cases checked <;> simp [Except.map]

theorem all_eq_ok {results : List (Checked α)} {values : List α} :
    all results = .ok values ↔ results = values.map .ok := by
  induction results generalizing values with
  | nil => cases values <;> simp [all]
  | cons result rest ih =>
      simp only [all, map_eq_ok, both_eq_ok, ih]
      constructor
      · rintro ⟨⟨value, others⟩, ⟨first, later⟩, rfl⟩
        simp only at first later
        rw [first, later, List.map_cons]
      · intro same
        cases values with
        | nil => cases same
        | cons value others =>
            rw [List.map_cons, List.cons.injEq] at same
            exact ⟨(value, others), same, rfl⟩

/-- Where the issues of an item are filed does not matter for success. -/
theorem all_mapIdx_eq_ok {read : α → Checked β} {key : Nat → String} {items : List α}
    {values : List β} :
    all (items.mapIdx fun index item => (read item).inside (key index)) = .ok values ↔
      items.map read = values.map .ok := by
  rw [all_eq_ok]
  induction items generalizing key values with
  | nil => cases values <;> simp
  | cons item rest ih =>
      cases values with
      | nil => simp
      | cons value others =>
          simp only [List.mapIdx_cons, List.map_cons, List.cons.injEq, inside_eq_ok]
          exact and_congr_right fun _ => ih

end Checked

namespace Dump

/-- A child as a dump has it: a node or a token. -/
def child (json : Json) : Checked Child := childOf (node json) (token json)

theorem child_eq_ok_node {json : Json} {inner : Node} :
    child json = .ok (.node inner) ↔ node json = .ok inner := by
  unfold child
  cases node json <;> cases token json <;> simp [childOf]

/-- A dump that is no node is read as a token. -/
theorem child_eq_ok_token {json : Json} {issues : List Issue} (noNode : node json = .error issues)
    {read : Token} (isToken : token json = .ok read) : child json = .ok (.token read) := by
  unfold child
  rw [noNode, isToken]
  rfl

/-- The children of a node, from the fields of its dump. -/
def children (fields : List (String × Json)) : Checked (List Child) :=
  match fields.lookup "children" with
  | none => .ok []
  | some (.array items) =>
    (Checked.all (items.mapIdx fun index item => (child item).inside (toString index))).inside
      "children"
  | some _ => (Checked.fail .notList).inside "children"

theorem node_object (fields : List (String × Json)) :
    node (.object fields) =
      ((Json.checkRequired fields "kind" Json.checkText).both
        ((Json.checkOptional fields "role" none Json.checkTextOrNull).both
          ((Json.checkOptional fields "type" none Json.checkTextOrNull).both
            ((Json.checkOptional fields "symbol" none symbolOrNull).both
              ((children fields).both
                (Json.checkKeys fields ["kind", "role", "type", "symbol", "children"])))))).map
        fun (kind, role, typeName, symbol, children, _) =>
          .mk (labelOf kind role typeName symbol) children := by
  have attached : ∀ items : List Json,
      (items.attach.mapIdx fun index item =>
        (childOf (node item.val) (token item.val)).inside (toString index)) =
        items.mapIdx fun index item => (child item).inside (toString index) := by
    intro items
    apply List.ext_getElem
    · simp
    · intro index _ _
      simp [child]
  rw [node]
  simp only [attached, children]
  split
  case h_1 absent => simp only [absent]
  case h_2 items found => simp only [found]
  case h_3 value noArray found =>
    rw [found]
    cases value with
    | array items => exact absurd rfl (noArray items)
    | _ => rfl

/-- A node is read from a dump exactly if all its fields are. -/
theorem node_eq_ok {json : Json} {tree : Node} :
    node json = .ok tree ↔ ∃ fields name role typeName symbol below,
      json = .object fields ∧
      Json.checkRequired fields "kind" Json.checkText = .ok name ∧
      Json.checkOptional fields "role" none Json.checkTextOrNull = .ok role ∧
      Json.checkOptional fields "type" none Json.checkTextOrNull = .ok typeName ∧
      Json.checkOptional fields "symbol" none symbolOrNull = .ok symbol ∧
      children fields = .ok below ∧
      Json.checkKeys fields ["kind", "role", "type", "symbol", "children"] = .ok () ∧
      tree = .mk (labelOf name role typeName symbol) below := by
  constructor
  · intro read
    cases json with
    | object fields =>
        rw [node_object, Checked.map_eq_ok] at read
        obtain ⟨⟨name, role, typeName, symbol, below, _⟩, checked, rfl⟩ := read
        simp only [Checked.both_eq_ok] at checked
        obtain ⟨kind, role, type, symbol, children, keys⟩ := checked
        exact ⟨fields, _, _, _, _, _, rfl, kind, role, type, symbol, children, keys, rfl⟩
    | _ => simp [node, Checked.fail] at read
  · rintro ⟨fields, name, role, typeName, symbol, below, rfl, kind, roleRead, type, symbolRead,
      childrenRead, keys, rfl⟩
    rw [node_object, Checked.map_eq_ok]
    refine ⟨(name, role, typeName, symbol, below, ()), ?_, rfl⟩
    simp only [Checked.both_eq_ok]
    exact ⟨kind, roleRead, type, symbolRead, childrenRead, keys⟩

theorem children_eq_ok {fields : List (String × Json)} {below : List Child} :
    children fields = .ok below ↔
      (fields.lookup "children" = none ∧ below = []) ∨
      ∃ items, fields.lookup "children" = some (.array items) ∧ items.map child = below.map .ok := by
  unfold children
  split
  case h_1 absent => simp [absent, eq_comm]
  case h_2 items found => simp [found, Checked.all_mapIdx_eq_ok]
  case h_3 value noArray found =>
    cases value with
    | array items => exact absurd rfl (noArray items)
    | _ => simp [found, Checked.fail, Checked.inside]

end Dump

end SharpToJava
