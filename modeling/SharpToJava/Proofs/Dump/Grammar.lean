import SharpToJava.Proofs.Dump.Reading
import SharpToJava.Proofs.Pointwise

/-!
The grammar of dumps, stated without the reader: which keys an object may have and what may stand
under them (`Dump.IsNode`, `Dump.IsToken`), and which tree an object of the grammar stands for
(`Dump.Mirrors`). The reader accepts exactly the nodes of the grammar and gives the tree that
mirrors them; nothing else mirrors them, since no object is a node and a token at once.
-/

namespace SharpToJava

namespace Json

inductive IsText : Json → Prop where
  | text (value : String) : IsText (.string value)

inductive IsTextOrNull : Json → Prop where
  | null : IsTextOrNull .null
  | text (value : String) : IsTextOrNull (.string value)

inductive IsList : Json → Prop where
  | array (items : List Json) : IsList (.array items)

def text? : Json → Option String
  | .string value => some value
  | _ => none

section Fields

variable (fields : List (String × Json))

/-- The key is there, with a value of this form. -/
def Requires (key : String) (form : Json → Prop) : Prop :=
  ∃ value, fields.lookup key = some value ∧ form value

/-- The key may be left out; if it is there, its value has this form. -/
def Permits (key : String) (form : Json → Prop) : Prop :=
  ∀ value, fields.lookup key = some value → form value

/-- There are no other keys. -/
def Confined (known : List String) : Prop := ∀ field ∈ fields, field.1 ∈ known

/-- The text under a key; none where there is no such key or no text under it. -/
def textAt? (key : String) : Option String := (fields.lookup key).bind text?

end Fields

end Json

open Json

namespace Dump

structure SymbolFields (fields : List (String × Json)) : Prop where
  kind : Requires fields "kind" IsText
  containingType : Permits fields "containingType" IsTextOrNull
  containing_type : Permits fields "containing_type" IsTextOrNull
  /-- The containing type is given in one spelling at most. -/
  oneSpelling : fields.lookup "containingType" = none ∨ fields.lookup "containing_type" = none
  keys : Confined fields ["kind", "containingType", "containing_type"]

inductive IsSymbolOrNull : Json → Prop where
  | null : IsSymbolOrNull .null
  | symbol {fields : List (String × Json)} (own : SymbolFields fields) :
      IsSymbolOrNull (.object fields)

structure TokenFields (fields : List (String × Json)) : Prop where
  token : Requires fields "token" IsText
  text : Requires fields "text" IsText
  role : Permits fields "role" IsTextOrNull
  keys : Confined fields ["token", "text", "role"]

inductive IsToken : Json → Prop where
  | object {fields : List (String × Json)} (own : TokenFields fields) : IsToken (.object fields)

/-- The fields of a node; of its children only that they are a list. -/
structure NodeFields (fields : List (String × Json)) : Prop where
  kind : Requires fields "kind" IsText
  role : Permits fields "role" IsTextOrNull
  type : Permits fields "type" IsTextOrNull
  symbol : Permits fields "symbol" IsSymbolOrNull
  children : Permits fields "children" IsList
  keys : Confined fields ["kind", "role", "type", "symbol", "children"]

/-- What stands in the list of children; nothing where there is no such list. -/
def items (fields : List (String × Json)) : List Json :=
  match fields.lookup "children" with
  | some (.array items) => items
  | _ => []

mutual
inductive IsNode : Json → Prop where
  | object {fields : List (String × Json)} (own : NodeFields fields)
      (below : ∀ item ∈ items fields, IsChild item) : IsNode (.object fields)

inductive IsChild : Json → Prop where
  | node {json : Json} (isNode : IsNode json) : IsChild json
  | token {json : Json} (isToken : IsToken json) : IsChild json
end

/-- The symbol that an object describes, in either spelling of its containing type. -/
def symbol? : Json → Option Symbol
  | .object fields =>
    (textAt? fields "kind").bind fun kind =>
      symbolOf kind ((textAt? fields "containingType").or (textAt? fields "containing_type"))
  | _ => none

def symbolAt? (fields : List (String × Json)) : Option Symbol :=
  (fields.lookup "symbol").bind symbol?

/-- The child says what the object says, and below a node there is one child for each item of the
list of children, in the same order. -/
inductive Mirrors : Json → Child → Prop where
  | token {fields : List (String × Json)} {kind text : String}
      (named : fields.lookup "token" = some (.string kind))
      (written : fields.lookup "text" = some (.string text)) :
      Mirrors (.object fields)
        (.token { kind := TokenKind.ofName kind, text, role := textAt? fields "role" })
  | node {fields : List (String × Json)} {name : String} {below : List Child}
      (named : fields.lookup "kind" = some (.string name))
      (each : List.Forall₂ Mirrors (items fields) below) :
      Mirrors (.object fields)
        (.node (.mk (labelOf name (textAt? fields "role") (textAt? fields "type")
          (symbolAt? fields)) below))

end Dump

namespace Json

variable {α : Type} {fields : List (String × Json)} {key : String}

theorem checkText_eq_ok {json : Json} {value : String} :
    checkText json = .ok value ↔ json = .string value := by
  cases json <;> simp [checkText, Checked.fail]

theorem checkTextOrNull_eq_ok {json : Json} {found : Option String} :
    checkTextOrNull json = .ok found ↔ json.IsTextOrNull ∧ found = json.text? := by
  constructor
  · intro read
    cases json with
    | null =>
        cases read
        exact ⟨.null, rfl⟩
    | string value =>
        cases read
        exact ⟨.text value, rfl⟩
    | _ => cases read
  · rintro ⟨isText, rfl⟩
    cases isText <;> rfl

theorem checkRequired_eq_ok {check : Json → Checked α} {result : α} :
    checkRequired fields key check = .ok result ↔
      ∃ value, fields.lookup key = some value ∧ check value = .ok result := by
  unfold checkRequired
  cases fields.lookup key <;> simp [Checked.fail, Checked.inside_eq_ok]

theorem checkRequired_text_eq_ok {text : String} :
    checkRequired fields key checkText = .ok text ↔ fields.lookup key = some (.string text) := by
  simp [checkRequired_eq_ok, checkText_eq_ok]

theorem checkOptional_eq_ok {absent result : α} {check : Json → Checked α} {form : Json → Prop}
    {meaning : Json → α}
    (checks : ∀ json result, check json = .ok result ↔ form json ∧ result = meaning json) :
    checkOptional fields key absent check = .ok result ↔
      Permits fields key form ∧ result = ((fields.lookup key).map meaning).getD absent := by
  unfold checkOptional Permits
  cases fields.lookup key with
  | none => simp [eq_comm]
  | some value => simp [Checked.inside_eq_ok, checks]

theorem checkOptional_text_eq_ok {found : Option String} :
    checkOptional fields key none checkTextOrNull = .ok found ↔
      Permits fields key IsTextOrNull ∧ found = textAt? fields key := by
  rw [checkOptional_eq_ok fun _ _ => checkTextOrNull_eq_ok, textAt?]
  cases fields.lookup key <;> rfl

theorem checkKeys_eq_ok {known : List String} {done : Unit} :
    checkKeys fields known = .ok done ↔ Confined fields known := by
  have noOthers : Confined fields known ↔
      fields.filter (fun field => !known.contains field.1) = [] := by
    simp [Confined]
  rw [noOthers]
  unfold checkKeys
  split
  case h_1 nothing => exact iff_of_true rfl nothing
  case h_2 others => exact iff_of_false (by simp) others

theorem requires_text_iff :
    Requires fields key IsText ↔ ∃ text, fields.lookup key = some (.string text) := by
  constructor
  · rintro ⟨_, found, isText⟩
    cases isText with
    | text value => exact ⟨value, found⟩
  · rintro ⟨value, found⟩
    exact ⟨_, found, .text value⟩

theorem textAt?_of_lookup {text : String} (found : fields.lookup key = some (.string text)) :
    textAt? fields key = some text := by
  rw [textAt?, found]
  rfl

theorem mem_of_lookup {value : Json} (found : fields.lookup key = some value) :
    (key, value) ∈ fields := by
  obtain ⟨before, after, rfl, -⟩ := List.lookup_eq_some_iff.mp found
  exact List.mem_append_right _ List.mem_cons_self

theorem lookup_eq_none_of_confined {known : List String} (confined : Confined fields known)
    (key : String) (unknown : key ∉ known) : fields.lookup key = none := by
  cases found : fields.lookup key with
  | none => rfl
  | some value => exact absurd (confined _ (mem_of_lookup found)) unknown

/-- A key that is not there may as well be known. -/
theorem confined_erase (known : List String) (absent : fields.lookup key = none) :
    Confined fields (known.filter (· != key)) ↔ Confined fields known := by
  have differs : ∀ field ∈ fields, field.1 ≠ key := by
    intro field member same
    have unequal := List.lookup_eq_none_iff.mp absent field member
    simp [same] at unequal
  unfold Confined
  constructor
  · intro confined field member
    exact (List.mem_filter.mp (confined field member)).1
  · intro confined field member
    exact List.mem_filter.mpr ⟨confined field member, by simp [differs field member]⟩

end Json

namespace Checked

variable {α β : Type}

/-- Failure is never without a reason. -/
def Explained (checked : Checked α) : Prop := checked ≠ .error []

theorem explained_fail (problem : Problem) : Explained (fail problem : Checked α) := by
  simp [Explained, fail]

theorem Explained.inside {checked : Checked α} (explained : Explained checked) (key : String) :
    Explained (checked.inside key) := by
  unfold Explained at *
  cases checked <;> simp_all [Checked.inside]

theorem Explained.map {checked : Checked α} (explained : Explained checked) (f : α → β) :
    Explained (checked.map f) := by
  unfold Explained at *
  cases checked <;> simp_all [Except.map]

theorem Explained.both {first : Checked α} {second : Checked β} (left : Explained first)
    (right : Explained second) : Explained (first.both second) := by
  unfold Explained at *
  cases first <;> cases second <;> simp_all [Checked.both]

theorem explained_all {results : List (Checked α)}
    (each : ∀ result ∈ results, Explained result) : Explained (all results) := by
  induction results with
  | nil => simp [Explained, all]
  | cons result rest ih =>
      have others := ih fun later member => each later (List.mem_cons_of_mem _ member)
      exact ((each result List.mem_cons_self).both others).map _

theorem explained_required {fields : List (String × Json)} (key : String)
    {check : Json → Checked α} (each : ∀ json, Explained (check json)) :
    Explained (checkRequired fields key check) := by
  unfold checkRequired
  split
  · exact (each _).inside key
  · exact (explained_fail _).inside key

theorem explained_optional {fields : List (String × Json)} (key : String) (absent : α)
    {check : Json → Checked α} (each : ∀ json, Explained (check json)) :
    Explained (checkOptional fields key absent check) := by
  unfold checkOptional
  split
  · exact (each _).inside key
  · simp [Explained]

theorem explained_keys (fields : List (String × Json)) (known : List String) :
    Explained (checkKeys fields known) := by
  unfold checkKeys Explained
  split
  · simp
  · next others some => simpa using some

theorem explained_text (json : Json) : Explained (checkText json) := by
  cases json <;> simp [checkText, Explained, fail]

theorem explained_textOrNull (json : Json) : Explained (checkTextOrNull json) := by
  cases json <;> simp [checkTextOrNull, Explained, fail]

end Checked

namespace Dump

open Checked

theorem explained_symbolOrNull (json : Json) : Explained (symbolOrNull json) := by
  cases json with
  | null => simp [symbolOrNull, Explained]
  | object fields =>
      have kind : Explained (checkRequired fields "kind" checkText) :=
        explained_required _ explained_text
      have containing : Explained (checkOptional fields (containingKey fields) none checkTextOrNull) :=
        explained_optional _ _ explained_textOrNull
      exact (kind.both (containing.both (explained_keys _ _))).map _
  | _ => exact explained_fail _

theorem explained_token (json : Json) : Explained (token json) := by
  cases json with
  | object fields =>
      have kind : Explained (checkRequired fields "token" checkText) :=
        explained_required _ explained_text
      have text : Explained (checkRequired fields "text" checkText) :=
        explained_required _ explained_text
      have role : Explained (checkOptional fields "role" none checkTextOrNull) :=
        explained_optional _ _ explained_textOrNull
      exact (kind.both (text.both (role.both (explained_keys _ _)))).map _
  | _ => exact explained_fail _

/-- A child that is refused is refused as a token too, so its issues are never none. -/
theorem explained_child (json : Json) : Explained (child json) := by
  have asToken := explained_token json
  unfold child Explained at *
  cases node json <;> cases reread : token json <;> simp_all [childOf]

theorem explained_children (fields : List (String × Json)) : Explained (children fields) := by
  unfold children
  split
  · simp [Explained]
  · apply Explained.inside
    apply explained_all
    intro result member
    obtain ⟨index, bound, rfl⟩ := List.mem_mapIdx.mp member
    exact (explained_child _).inside _
  · exact (explained_fail _).inside _

theorem explained_node (json : Json) : Explained (node json) := by
  cases json with
  | object fields =>
      rw [node_object]
      have kind : Explained (checkRequired fields "kind" checkText) :=
        explained_required _ explained_text
      have texts : ∀ key, Explained (checkOptional fields key none checkTextOrNull) :=
        fun key => explained_optional _ _ explained_textOrNull
      have symbol : Explained (checkOptional fields "symbol" none symbolOrNull) :=
        explained_optional _ _ explained_symbolOrNull
      exact (kind.both ((texts _).both ((texts _).both (symbol.both
        ((explained_children fields).both (explained_keys _ _)))))).map _
  | _ =>
      rw [node]
      · exact explained_fail _
      · simp

/-- Under the key that the reader looks at, a symbol has the containing type of the grammar. -/
theorem symbolFields_iff (fields : List (String × Json)) :
    SymbolFields fields ↔ Requires fields "kind" IsText ∧
      Permits fields (containingKey fields) IsTextOrNull ∧
      Confined fields ["kind", containingKey fields] := by
  unfold containingKey
  cases found : fields.lookup "containingType" with
  | none =>
      have keys := confined_erase ["kind", "containingType", "containing_type"] found
      simp only [Option.isSome_none, Bool.false_eq_true, if_false]
      constructor
      · intro own
        exact ⟨own.kind, own.containing_type, keys.mpr own.keys⟩
      · rintro ⟨kind, containing, confined⟩
        exact ⟨kind, by simp [Permits, found], containing, .inl found, keys.mp confined⟩
  | some value =>
      simp only [Option.isSome_some, if_true]
      constructor
      · intro own
        have absent : fields.lookup "containing_type" = none :=
          own.oneSpelling.resolve_left (by simp [found])
        have keys := confined_erase ["kind", "containingType", "containing_type"] absent
        exact ⟨own.kind, own.containingType, keys.mpr own.keys⟩
      · rintro ⟨kind, containing, confined⟩
        have absent := lookup_eq_none_of_confined confined "containing_type" (by decide)
        have keys := confined_erase ["kind", "containingType", "containing_type"] absent
        exact ⟨kind, containing, by simp [Permits, absent], .inr absent, keys.mp confined⟩

theorem textAt?_containingKey {fields : List (String × Json)} (own : SymbolFields fields) :
    textAt? fields (containingKey fields) =
      (textAt? fields "containingType").or (textAt? fields "containing_type") := by
  unfold containingKey textAt?
  cases found : fields.lookup "containingType" with
  | none => simp
  | some value =>
      have absent : fields.lookup "containing_type" = none :=
        own.oneSpelling.resolve_left (by simp [found])
      simp [found, absent]

theorem symbol_object_eq_ok {fields : List (String × Json)} {found : Option Symbol} :
    symbol (.object fields) = .ok found ↔
      SymbolFields fields ∧ found = symbol? (.object fields) := by
  constructor
  · intro read
    obtain ⟨⟨kind, containing, _⟩, checked, rfl⟩ := Checked.map_eq_ok.mp read
    simp only [Checked.both_eq_ok, checkRequired_text_eq_ok, checkOptional_text_eq_ok,
      checkKeys_eq_ok] at checked
    obtain ⟨named, ⟨permitted, rfl⟩, confined⟩ := checked
    have own := (symbolFields_iff fields).mpr ⟨⟨_, named, .text kind⟩, permitted, confined⟩
    refine ⟨own, ?_⟩
    simp [symbol?, textAt?_of_lookup named, textAt?_containingKey own]
  · rintro ⟨own, rfl⟩
    obtain ⟨required, permitted, confined⟩ := (symbolFields_iff fields).mp own
    obtain ⟨kind, named⟩ := requires_text_iff.mp required
    refine Checked.map_eq_ok.mpr ⟨(kind, textAt? fields (containingKey fields), ()), ?_, ?_⟩
    · rw [Checked.both_eq_ok, Checked.both_eq_ok]
      exact ⟨checkRequired_text_eq_ok.mpr named,
        checkOptional_text_eq_ok.mpr ⟨permitted, rfl⟩, checkKeys_eq_ok.mpr confined⟩
    · simp [symbol?, textAt?_of_lookup named, textAt?_containingKey own]

theorem symbolOrNull_eq_ok {json : Json} {found : Option Symbol} :
    symbolOrNull json = .ok found ↔ IsSymbolOrNull json ∧ found = symbol? json := by
  constructor
  · intro read
    cases json with
    | null =>
        cases read
        exact ⟨.null, rfl⟩
    | object fields =>
        obtain ⟨own, meant⟩ := symbol_object_eq_ok.mp read
        exact ⟨.symbol own, meant⟩
    | _ => cases read
  · rintro ⟨isSymbol, meant⟩
    cases isSymbol with
    | null => exact meant ▸ rfl
    | symbol own => exact symbol_object_eq_ok.mpr ⟨own, meant⟩

theorem checkOptional_symbol_eq_ok {fields : List (String × Json)} {found : Option Symbol} :
    checkOptional fields "symbol" none symbolOrNull = .ok found ↔
      Permits fields "symbol" IsSymbolOrNull ∧ found = symbolAt? fields := by
  rw [checkOptional_eq_ok fun _ _ => symbolOrNull_eq_ok, symbolAt?]
  cases fields.lookup "symbol" <;> rfl

theorem token_eq_ok {json : Json} {read : Token} :
    token json = .ok read ↔ IsToken json ∧ Mirrors json (.token read) := by
  constructor
  · intro accepted
    cases json with
    | object fields =>
        obtain ⟨⟨kind, text, role, _⟩, checked, rfl⟩ := Checked.map_eq_ok.mp accepted
        simp only [Checked.both_eq_ok, checkRequired_text_eq_ok, checkOptional_text_eq_ok,
          checkKeys_eq_ok] at checked
        obtain ⟨named, written, ⟨permitted, rfl⟩, confined⟩ := checked
        exact ⟨.object ⟨⟨_, named, .text kind⟩, ⟨_, written, .text text⟩, permitted, confined⟩,
          .token named written⟩
    | _ => cases accepted
  · rintro ⟨isToken, mirrors⟩
    obtain @⟨fields, own⟩ := isToken
    cases mirrors with
    | @token _ kind text named written =>
        refine Checked.map_eq_ok.mpr ⟨(kind, text, textAt? fields "role", ()), ?_, rfl⟩
        simp only [Checked.both_eq_ok]
        exact ⟨checkRequired_text_eq_ok.mpr named, checkRequired_text_eq_ok.mpr written,
          checkOptional_text_eq_ok.mpr ⟨own.role, rfl⟩, checkKeys_eq_ok.mpr own.keys⟩

/-- Every token of the grammar is read. -/
theorem exists_token {json : Json} (isToken : IsToken json) : ∃ read, token json = .ok read := by
  obtain @⟨fields, own⟩ := isToken
  obtain ⟨kind, named⟩ := requires_text_iff.mp own.token
  obtain ⟨text, written⟩ := requires_text_iff.mp own.text
  exact ⟨_, token_eq_ok.mpr ⟨.object own, .token named written⟩⟩

theorem children_eq_ok_iff {fields : List (String × Json)} {below : List Child} :
    children fields = .ok below ↔ Permits fields "children" IsList ∧
      List.Forall₂ (fun item inner => child item = .ok inner) (items fields) below := by
  have pointwise : ∀ found : List Json, found.map child = below.map .ok ↔
      List.Forall₂ (fun item inner => child item = .ok inner) found below := by
    intro found
    rw [← List.forall₂_eq_eq_eq, List.forall₂_map_left_iff, List.forall₂_map_right_iff]
  rw [children_eq_ok]
  unfold Permits items
  cases fields.lookup "children" with
  | none => simp [eq_comm]
  | some value =>
      cases value with
      | array found => simp [pointwise, IsList.array]
      | _ =>
          simp only [reduceCtorEq, false_and, Option.some.injEq, exists_false, or_self, false_iff]
          rintro ⟨isList, -⟩
          cases isList _ rfl

/-- A node is read exactly if its fields are those of a node and its children are read. -/
theorem node_object_eq_ok {fields : List (String × Json)} {tree : Node} :
    node (.object fields) = .ok tree ↔ NodeFields fields ∧ ∃ name below,
      fields.lookup "kind" = some (.string name) ∧
      List.Forall₂ (fun item inner => child item = .ok inner) (items fields) below ∧
      tree = .mk (labelOf name (textAt? fields "role") (textAt? fields "type")
        (symbolAt? fields)) below := by
  rw [node_eq_ok]
  constructor
  · rintro ⟨_, name, role, typeName, symbol, below, same, kind, roleRead, typeRead, symbolRead,
      childrenRead, keys, rfl⟩
    cases same
    rw [checkRequired_text_eq_ok] at kind
    rw [checkOptional_text_eq_ok] at roleRead typeRead
    rw [checkOptional_symbol_eq_ok] at symbolRead
    rw [children_eq_ok_iff] at childrenRead
    rw [checkKeys_eq_ok] at keys
    obtain ⟨roleForm, rfl⟩ := roleRead
    obtain ⟨typeForm, rfl⟩ := typeRead
    obtain ⟨symbolForm, rfl⟩ := symbolRead
    exact ⟨⟨⟨_, kind, .text name⟩, roleForm, typeForm, symbolForm, childrenRead.1, keys⟩,
      name, below, kind, childrenRead.2, rfl⟩
  · rintro ⟨own, name, below, kind, each, rfl⟩
    exact ⟨fields, name, _, _, _, below, rfl, checkRequired_text_eq_ok.mpr kind,
      checkOptional_text_eq_ok.mpr ⟨own.role, rfl⟩, checkOptional_text_eq_ok.mpr ⟨own.type, rfl⟩,
      checkOptional_symbol_eq_ok.mpr ⟨own.symbol, rfl⟩,
      children_eq_ok_iff.mpr ⟨own.children, each⟩, checkKeys_eq_ok.mpr own.keys, rfl⟩

/-- A token has a key that no node has. -/
theorem not_isToken_of_isNode {json : Json} (isNode : IsNode json) : ¬IsToken json := by
  intro isToken
  obtain @⟨fields, own, -⟩ := isNode
  obtain ⟨token⟩ := isToken
  obtain ⟨value, found, -⟩ := token.token
  have absent := lookup_eq_none_of_confined own.keys "token" (by decide)
  simp [absent] at found

theorem child_eq_ok {json : Json} {inner : Child} (accepted : child json = .ok inner) :
    (∃ tree, inner = .node tree ∧ node json = .ok tree) ∨
      ∃ read, inner = .token read ∧ token json = .ok read := by
  cases inner with
  | node tree => exact .inl ⟨tree, rfl, child_eq_ok_node.mp accepted⟩
  | token read =>
      refine .inr ⟨read, rfl, ?_⟩
      unfold child at accepted
      cases asNode : node json <;> cases asToken : token json <;> simp_all [childOf]

theorem sizeOf_lt_of_mem_items {fields : List (String × Json)} {item : Json}
    (member : item ∈ items fields) : sizeOf item < sizeOf (Json.object fields) := by
  unfold items at member
  split at member
  case h_1 found listed =>
    have arrayBound := Json.sizeOf_lt_of_lookup listed
    have itemBound := List.sizeOf_lt_of_mem member
    simp only [Json.array.sizeOf_spec] at arrayBound
    omega
  case h_2 => cases member

/-- Induction along the lists of children. -/
theorem items_induction {motive : Json → Prop}
    (step : ∀ json, (∀ fields, json = .object fields → ∀ item ∈ items fields, motive item) →
      motive json) (json : Json) : motive json :=
  step json fun _ isObject item member =>
    have : sizeOf item < sizeOf json := isObject ▸ sizeOf_lt_of_mem_items member
    items_induction step item
termination_by sizeOf json

theorem child_sound {json : Json}
    (node_sound : ∀ tree, node json = .ok tree → IsNode json ∧ Mirrors json (.node tree))
    {inner : Child} (accepted : child json = .ok inner) : IsChild json ∧ Mirrors json inner := by
  rcases child_eq_ok accepted with ⟨tree, rfl, read⟩ | ⟨read, rfl, isToken⟩
  · obtain ⟨isNode, mirrors⟩ := node_sound tree read
    exact ⟨.node isNode, mirrors⟩
  · obtain ⟨inGrammar, mirrors⟩ := token_eq_ok.mp isToken
    exact ⟨.token inGrammar, mirrors⟩

/-- What is read is in the grammar, and the tree mirrors it. -/
theorem node_sound (json : Json) :
    ∀ tree, node json = .ok tree → IsNode json ∧ Mirrors json (.node tree) := by
  induction json using items_induction with
  | step json smaller =>
      intro tree read
      cases json with
      | object fields =>
          obtain ⟨own, name, below, kind, each, rfl⟩ := node_object_eq_ok.mp read
          have sound : ∀ item ∈ items fields, ∀ inner, child item = .ok inner →
              IsChild item ∧ Mirrors item inner :=
            fun item member inner => child_sound (smaller fields rfl item member)
          refine ⟨.object own fun item member => ?_, .node kind ?_⟩
          · obtain ⟨inner, -, accepted⟩ := exists_of_forall₂ each member
            exact (sound item member inner accepted).1
          · refine (forall₂_and each sound).imp fun item inner read => ?_
            exact (read.2 inner read.1).2
      | _ => simp [node, Checked.fail] at read

theorem exists_child {json : Json} (exists_node : IsNode json → ∃ tree, node json = .ok tree)
    (isChild : IsChild json) : ∃ inner, child json = .ok inner := by
  cases isChild with
  | node isNode =>
      obtain ⟨tree, read⟩ := exists_node isNode
      exact ⟨_, child_eq_ok_node.mpr read⟩
  | token isToken =>
      obtain ⟨token, read⟩ := exists_token isToken
      cases asNode : node json with
      | ok tree => exact ⟨_, child_eq_ok_node.mpr asNode⟩
      | error issues => exact ⟨_, child_eq_ok_token asNode read⟩

/-- Every node of the grammar is read. -/
theorem exists_node (json : Json) : IsNode json → ∃ tree, node json = .ok tree := by
  induction json using items_induction with
  | step json smaller =>
      intro isNode
      obtain @⟨fields, own, below⟩ := isNode
      obtain ⟨name, kind⟩ := requires_text_iff.mp own.kind
      obtain ⟨children, each⟩ : ∃ children,
          List.Forall₂ (fun item inner => child item = .ok inner) (items fields) children :=
        exists_forall₂ fun item member =>
          exists_child (smaller fields rfl item member) (below item member)
      exact ⟨_, node_object_eq_ok.mpr ⟨own, name, children, kind, each, rfl⟩⟩

/-- Nothing mirrors a child of the grammar but what is read from it. -/
theorem child_of_mirrors (json : Json) :
    IsChild json → ∀ inner, Mirrors json inner → child json = .ok inner := by
  induction json using items_induction with
  | step json smaller =>
      intro isChild inner mirrors
      cases isChild with
      | token isToken =>
          have noNode : ¬IsNode json := fun isNode => not_isToken_of_isNode isNode isToken
          cases mirrors with
          | token named written =>
              have read := token_eq_ok.mpr ⟨isToken, .token named written⟩
              cases asNode : node _ with
              | ok tree => exact absurd (node_sound _ tree asNode).1 noNode
              | error issues => exact child_eq_ok_token asNode read
          | node named each =>
              obtain ⟨own⟩ := isToken
              have absent := lookup_eq_none_of_confined own.keys "kind" (by decide)
              simp [absent] at named
      | node isNode =>
          obtain @⟨fields, own, below⟩ := isNode
          cases mirrors with
          | token named written =>
              have absent := lookup_eq_none_of_confined own.keys "token" (by decide)
              simp [absent] at named
          | node named each =>
              have inside : ∀ item ∈ items fields, ∀ inner, Mirrors item inner →
                  child item = .ok inner :=
                fun item member => smaller fields rfl item member (below item member)
              have read := (forall₂_and each inside).imp fun item inner mirrored =>
                mirrored.2 inner mirrored.1
              exact child_eq_ok_node.mpr (node_object_eq_ok.mpr ⟨own, _, _, named, read, rfl⟩)

end Dump

/-- A value is read as a tree exactly if it is a node of the grammar, and refused with at least one
issue otherwise. No value is a node and a token, so that the tree is the only thing that mirrors the
value: its nodes and tokens stand for the objects in the lists of children, one for each and in
their order. -/
theorem dump_read_iff_grammar (json : Json) :
    ((∃ tree, Dump.node json = .ok tree) ↔ Dump.IsNode json) ∧
      (¬Dump.IsNode json → ∃ issues, Dump.node json = .error issues ∧ issues ≠ []) ∧
      ¬(Dump.IsNode json ∧ Dump.IsToken json) ∧
      ∀ tree, Dump.node json = .ok tree →
        ∀ child, Dump.Mirrors json child ↔ child = .node tree := by
  refine ⟨⟨?_, Dump.exists_node json⟩, ?_, ?_, ?_⟩
  · rintro ⟨tree, read⟩
    exact (Dump.node_sound json tree read).1
  · intro outside
    have explained := Dump.explained_node json
    cases read : Dump.node json with
    | ok tree => exact absurd (Dump.node_sound json tree read).1 outside
    | error issues =>
        refine ⟨issues, rfl, fun none => explained ?_⟩
        rw [read, none]
  · rintro ⟨isNode, isToken⟩
    exact Dump.not_isToken_of_isNode isNode isToken
  · intro tree read child
    obtain ⟨isNode, mirrored⟩ := Dump.node_sound json tree read
    constructor
    · intro mirrors
      have accepted := Dump.child_of_mirrors json (.node isNode) child mirrors
      have same := accepted.symm.trans (Dump.child_eq_ok_node.mpr read)
      exact Except.ok.inj same
    · rintro rfl
      exact mirrored

end SharpToJava
