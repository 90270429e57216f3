import SharpToJava.Phrase.Rules
import SharpToJava.Proofs.Tree.Below

/-!
What the words of an expression have in common. A phrase is made of fixed words, of words taken
from tokens and of source types. A `Wording` is a property of texts that the fixed words have and
that survives putting texts together; if it holds of what a rule takes from each node of a tree
(`Wording.Accepts`), it holds of every word of every phrase of that tree (`Place.phrase_within`).
-/

namespace SharpToJava

/-- The characters that the rules write by themselves on a line: letters, digits and punctuation,
but no braces. -/
def Text.isPlain (c : Char) : Bool :=
  c.isAlphanum || " ()[]<>.,;:?=*+-_\\\"'".toList.contains c

section Texts

variable {holds : String → Prop} (empty : holds "")
  (append : ∀ {first second : String}, holds first → holds second → holds (first ++ second))
include empty append

theorem Text.holds_join {texts : List String} (each : ∀ text ∈ texts, holds text) :
    holds (String.join texts) := by
  induction texts with
  | nil => exact empty
  | cons text rest ih =>
      rw [String.join_cons]
      exact append (each text List.mem_cons_self)
        (ih fun later member => each later (List.mem_cons_of_mem _ member))

theorem Text.holds_intercalate {separator : String} {texts : List String}
    (between : holds separator) (each : ∀ text ∈ texts, holds text) :
    holds (separator.intercalate texts) := by
  induction texts with
  | nil => exact empty
  | cons text rest ih =>
      have first := each text List.mem_cons_self
      have others := ih fun later member => each later (List.mem_cons_of_mem _ member)
      cases rest with
      | nil => simpa using first
      | cons second rest =>
          rw [String.intercalate_cons_cons]
          exact append (append first between) others

omit append in
theorem Text.holds_getD {found : Option String} (each : ∀ text ∈ found, holds text) :
    holds (found.getD "") := by
  cases found with
  | none => exact empty
  | some text => exact each text rfl

end Texts

theorem mem_of_mem_intersperse {α : Type} {separator item : α} {items : List α}
    (member : item ∈ items.intersperse separator) : item ∈ items ∨ item = separator := by
  induction items with
  | nil => exact absurd member List.not_mem_nil
  | cons first rest ih =>
      cases rest with
      | nil => exact .inl member
      | cons second rest =>
          rw [List.intersperse_cons_cons] at member
          rcases List.mem_cons.mp member with rfl | later
          · exact .inl List.mem_cons_self
          · rcases List.mem_cons.mp later with same | last
            · exact .inr same
            · exact (ih last).imp_left (List.mem_cons_of_mem _)

structure Wording where
  holds : String → Prop
  /-- The faults that may come instead of a text. -/
  fails : Fault → Prop
  plain : ∀ text : String, text.toList.all Text.isPlain = true → holds text
  append : ∀ {first second : String}, holds first → holds second → holds (first ++ second)

namespace Wording

variable (wording : Wording)

theorem empty : wording.holds "" := wording.plain _ (by decide)

theorem join {texts : List String} (each : ∀ text ∈ texts, wording.holds text) :
    wording.holds (String.join texts) :=
  Text.holds_join wording.empty wording.append each

theorem intercalate {separator : String} {texts : List String} (between : wording.holds separator)
    (each : ∀ text ∈ texts, wording.holds text) : wording.holds (separator.intercalate texts) :=
  Text.holds_intercalate wording.empty wording.append between each

theorem spaced {text : String} (holds : wording.holds text) :
    wording.holds (" " ++ text ++ " ") :=
  wording.append (wording.append (wording.plain _ (by decide)) holds) (wording.plain _ (by decide))

theorem getD {found : Option String} (each : ∀ text ∈ found, wording.holds text) :
    wording.holds (found.getD "") :=
  Text.holds_getD wording.empty each

end Wording

theorem not_mem_unverbatim {c : Char} {literal : String} (absent : c ∉ literal.toList) :
    c ∉ (unverbatim literal).toList := by
  unfold unverbatim
  split
  case h_1 rest spelled =>
    rw [spelled] at absent
    rw [String.toList_ofList]
    intro member
    obtain ⟨original, present, copied⟩ := List.mem_flatMap.mp member
    have same : c = original := by split at copied <;> simp_all
    exact absent (List.mem_cons_of_mem _ (same ▸ present))
  case h_2 => exact absent

/-- Kinds that are written with the text of their operator. -/
def NodeKind.hasOperator : NodeKind → Bool
  | .binary | .assignment | .postfixUnary | .prefixUnary => true
  | _ => false

/-- Kinds of which only the first token is written. -/
def NodeKind.showsFirstToken : NodeKind → Bool
  | .predefinedType | .simpleBaseType | .thisReference => true
  | _ => false

namespace Node

/-- The words that the text of a type has of its own. -/
def typeWords : List String := ["", "<", ", ", ">", ".", "[]", "?"]

/-- The text of a type is made of its words and of what it takes from the nodes below. -/
theorem holds_typeText {holds : String → Prop}
    (append : ∀ {first second : String}, holds first → holds second → holds (first ++ second))
    (words : ∀ word ∈ typeWords, holds word) {node : Node}
    (every : node.Every fun inner => holds inner.identifier ∧
      (inner.kind.showsFirstToken → holds inner.firstText) ∧ holds inner.tokenText) :
    holds node.typeText := by
  have empty : holds "" := words _ (by decide)
  fun_induction Node.typeText node with
  | case1 node kind => exact every.here.1
  | case2 node kind arguments ih =>
      have each : ∀ text ∈ arguments, holds text := by
        intro text member
        obtain ⟨argument, -, rfl⟩ := List.mem_map.mp member
        exact ih argument (every.of_mem (mem_nodes_of_mem_typeArguments argument.property))
      have opened := append every.here.1 (words "<" (by decide))
      have listed := Text.holds_intercalate empty append (words ", " (by decide)) each
      exact append (append opened listed) (words ">" (by decide))
  | case3 node kind => exact every.here.2.1 (by rw [kind]; rfl)
  | case4 node kind => exact every.here.2.1 (by rw [kind]; rfl)
  | case5 node kind ih =>
      have side : ∀ slot, holds (((node.pick? slot).map Node.typeText).getD "") := by
        refine fun slot => Text.holds_getD empty fun text member => ?_
        obtain ⟨part, filled, rfl⟩ := Option.map_eq_some_iff.mp member
        exact ih part (size_lt_of_pick? filled) (every.of_pick? filled)
      simp only [mapSlot_eq_map]
      exact append (append (side _) (words "." (by decide))) (side _)
  | case6 node kind ih =>
      simp only [mapSlot_eq_map]
      refine append (Text.holds_getD empty fun text member => ?_)
        (Text.holds_join empty append fun text member => ?_)
      · obtain ⟨part, filled, rfl⟩ := Option.map_eq_some_iff.mp member
        exact ih part (size_lt_of_pick? filled) (every.of_pick? filled)
      · rw [List.eq_of_mem_replicate member]
        exact words _ (by decide)
  | case7 node kind ih =>
      simp only [mapNodes_eq_map, List.head?_map]
      refine append (Text.holds_getD empty fun text member => ?_) (words _ (by decide))
      obtain ⟨part, filled, rfl⟩ := Option.map_eq_some_iff.mp member
      have present := List.mem_of_head? filled
      exact ih part (size_lt_of_mem present) (every.of_child present)
  | case8 node => exact every.here.2.2

end Node

/-- The texts that the rules may take from a node are as the wording wants them. -/
structure Wording.Accepts (wording : Wording) (node : Node) : Prop where
  word : ∀ token ∈ node.childTokens, token.kind = .identifier → wording.holds token.text
  operator : node.kind.hasOperator → wording.holds node.operator
  literal : node.kind = .literal → wording.holds node.literalText
  first : node.kind.showsFirstToken → wording.holds node.firstText
  tokens : wording.holds node.tokenText
  named : node.kind = .memberAccess → node.childNodes = [] → wording.fails .memberWithoutName

namespace Wording.Accepts

variable {wording : Wording} {node : Node}

theorem identifier (accepts : wording.Accepts node) : wording.holds node.identifier := by
  unfold Node.identifier Node.token?
  split
  case h_1 token found =>
    have kind := List.find?_some found
    exact accepts.word token (List.mem_of_find?_eq_some found) (by simpa using kind)
  case h_2 => exact wording.empty

theorem descentText (accepts : wording.Accepts node) {token : Token}
    (member : token ∈ node.childTokens) : wording.holds token.descentText := by
  unfold Token.descentText
  split
  case h_1 kind => exact accepts.word token member kind
  all_goals exact wording.plain _ (by decide)

theorem typeText (every : node.Every wording.Accepts) : wording.holds node.typeText := by
  refine Node.holds_typeText wording.append (fun word listed => wording.plain word ?_)
    fun inner below => ?_
  · have table : ∀ word ∈ Node.typeWords, word.toList.all Text.isPlain = true := by decide
    exact table word listed
  · have accepts := every inner below
    exact ⟨accepts.identifier, accepts.first, accepts.tokens⟩

theorem slotTypeText (every : node.Every wording.Accepts) (slot : Slot) :
    wording.holds (node.slotTypeText slot) := by
  unfold Node.slotTypeText
  split
  case h_1 type filled => exact typeText (every.of_pick? filled)
  case h_2 => exact wording.empty

end Wording.Accepts

theorem MemberRule.plain_suffix {rule : MemberRule} {text : String}
    (listed : rule ∈ MemberRule.all) (form : rule.form = .suffix text) :
    text.toList.all Text.isPlain = true := by
  have table : ∀ rule ∈ MemberRule.all,
      (rule.form.replacesBase || rule.form.template.toList.all Text.isPlain) = true := by decide
  have entry := table rule listed
  rwa [form] at entry

namespace Phrase

/-- Every word and every source type of the phrase is as the wording wants it. -/
inductive Within (wording : Wording) : Phrase → Prop where
  | text {written : String} (holds : wording.holds written) : Within wording (.text written)
  | type {source : String} (holds : wording.holds source) : Within wording (.type source)
  | unimportedType {source : String} (holds : wording.holds source) :
      Within wording (.unimportedType source)
  | discard : Within wording .discard
  | note (entry : Note) : Within wording (.note entry)
  | newline : Within wording .newline
  | join {parts : List Phrase} (each : ∀ part ∈ parts, Within wording part) :
      Within wording (.join parts)
  | ledBy {lead : String} {body : Phrase} (holds : wording.holds lead)
      (inner : Within wording body) : Within wording (.ledBy lead body)
  | byConvention {enforced otherwise : Phrase} (first : Within wording enforced)
      (second : Within wording otherwise) : Within wording (.byConvention enforced otherwise)
  | call {callee : Phrase} {arguments : List Phrase} (called : Within wording callee)
      (each : ∀ argument ∈ arguments, Within wording argument) :
      Within wording (.call callee arguments)
  | memberWithoutName (allowed : wording.fails .memberWithoutName) :
      Within wording .memberWithoutName

namespace Within

variable {wording : Wording}

theorem plain {written : String} (plain : written.toList.all Text.isPlain = true) :
    Within wording (.text written) :=
  .text (wording.plain _ plain)

theorem empty : Within wording Phrase.empty := .join (by simp)

theorem ofOption {found : Option Phrase} (each : ∀ phrase ∈ found, Within wording phrase) :
    Within wording (Phrase.ofOption found) := by
  cases found with
  | none => exact empty
  | some phrase => exact each phrase rfl

theorem pair {first second : Phrase} (left : Within wording first) (right : Within wording second) :
    Within wording (.join [first, second]) :=
  .join (by simp [left, right])

theorem triple {first second third : Phrase} (left : Within wording first)
    (middle : Within wording second) (right : Within wording third) :
    Within wording (.join [first, second, third]) :=
  .join (by simp [left, middle, right])

theorem separated {separator : String} {parts : List Phrase} (between : wording.holds separator)
    (each : ∀ part ∈ parts, Within wording part) :
    Within wording (Phrase.separated separator parts) := by
  refine .join fun part member => ?_
  rcases mem_of_mem_intersperse member with listed | rfl
  · exact each part listed
  · exact .text between

theorem parenthesized {parts : List Phrase} (each : ∀ part ∈ parts, Within wording part) :
    Within wording (Phrase.parenthesized parts) :=
  triple (plain (by decide)) (separated (wording.plain _ (by decide)) each) (plain (by decide))

theorem member {base : Phrase} {name : Node} (before : Within wording base)
    (holds : wording.holds name.identifier) : Within wording (Phrase.member base name) := by
  unfold Phrase.member
  split
  case h_1 => exact pair before (.text (wording.append (wording.plain _ (by decide)) holds))
  case h_2 rule found =>
    split
    case h_1 text form =>
      exact pair before (plain (MemberRule.plain_suffix (List.mem_of_find?_eq_some found) form))
    case h_2 =>
      exact triple (plain (by decide)) (.unimportedType (wording.plain _ (by decide)))
        (plain (by decide))

theorem element {list : Option String} {base : Phrase} {indexes : List Phrase}
    (named : ∀ name ∈ list, wording.holds name) (before : Within wording base)
    (each : ∀ index ∈ indexes, Within wording index) :
    Within wording (Phrase.element list base indexes) := by
  unfold Phrase.element
  split
  case h_1 name index rest =>
    exact triple (.text (wording.append (named name rfl) (wording.plain _ (by decide))))
      (each index List.mem_cons_self) (plain (by decide))
  case h_2 =>
    refine .join fun part member => ?_
    rcases List.mem_cons.mp member with rfl | later
    · exact before
    · obtain ⟨index, present, rfl⟩ := List.mem_map.mp later
      exact triple (plain (by decide)) (each index present) (plain (by decide))

theorem cast {type : String} {operand : Phrase} (holds : wording.holds type)
    (inner : Within wording operand) : Within wording (Phrase.cast type operand) := by
  refine .join ?_
  simp only [List.forall_mem_cons]
  exact ⟨plain (by decide), .type holds, plain (by decide),
    .byConvention (pair (plain (by decide)) inner) empty, by simp⟩

theorem enumParse {type : String} {argument : Option Phrase} (holds : wording.holds type)
    (inner : ∀ phrase ∈ argument, Within wording phrase) :
    Within wording (Phrase.enumParse type argument) := by
  refine triple (.type holds) (.byConvention (plain (by decide)) (plain (by decide))) ?_
  cases argument with
  | none => exact .note _
  | some phrase => exact pair (inner phrase rfl) (.byConvention (plain (by decide)) empty)

theorem creation {type : String} {holder : Option String} {arguments : List Phrase}
    {initializer : Option (List Phrase)} (holds : wording.holds type)
    (held : ∀ name ∈ holder, wording.holds name)
    (given : ∀ argument ∈ arguments, Within wording argument)
    (members : ∀ list ∈ initializer, ∀ member ∈ list, Within wording member) :
    Within wording (Phrase.creation type holder arguments initializer) := by
  refine triple (plain (by decide)) (.type holds) ?_
  split
  case h_1 => exact parenthesized given
  case h_2 => exact plain (by decide)
  case h_3 => exact pair (plain (by decide)) (.note _)
  case h_4 list name _ =>
    refine .join fun part member => ?_
    rcases List.mem_cons.mp member with rfl | later
    · exact plain (by decide)
    · obtain ⟨inner, present, rfl⟩ := List.mem_map.mp later
      refine .join ?_
      simp only [List.forall_mem_cons]
      exact ⟨plain (by decide), .newline,
        .text (wording.append (held name rfl) (wording.plain _ (by decide))),
        members list rfl inner present, by simp⟩

end Within

end Phrase

namespace Place

variable {wording : Wording} {place : Place}

theorem exists_of_declaredVariable? {name : String} (found : place.declaredVariable? = some name) :
    ∃ declarator ∈ place.above, name = declarator.identifier := by
  unfold declaredVariable? at found
  split at found
  case h_1 clause declarator outer above =>
    obtain ⟨-, same⟩ := Option.ite_none_right_eq_some.mp found
    cases same
    exact ⟨declarator, by simp [above], rfl⟩
  case h_2 => cases found

theorem exists_of_listVariable? {node : Node} {name : String}
    (found : node.listVariable? = some name) :
    ∃ base, node.pick? .expression = some base ∧ name = base.identifier := by
  unfold Node.listVariable? at found
  split at found
  case h_1 base filled =>
    obtain ⟨-, same⟩ := Option.ite_none_right_eq_some.mp found
    cases same
    exact ⟨base, filled, rfl⟩
  case h_2 => cases found

theorem holds_declaredVariable? (every : place.Every wording.Accepts) :
    ∀ name ∈ place.declaredVariable?, wording.holds name := by
  intro name found
  obtain ⟨declarator, above, rfl⟩ := exists_of_declaredVariable? found
  exact (every.2 declarator above).identifier

theorem holds_listVariable? {node : Node} (every : node.Every wording.Accepts) :
    ∀ name ∈ node.listVariable?, wording.holds name := by
  intro name found
  obtain ⟨base, filled, rfl⟩ := exists_of_listVariable? found
  exact (every.of_pick? filled).here.identifier

section Recursion

-- What a rule finds in the slots, among the arguments and among the children of a node is covered
-- if smaller places are.

variable (every : place.Every wording.Accepts)
  (smaller : ∀ inner : Place, inner.size < place.size → inner.Every wording.Accepts →
    inner.phrase.Within wording)
include every smaller

theorem within_slot (slot : Slot) :
    (Phrase.ofOption (place.mapSlot slot fun inner _ => inner.phrase)).Within wording := by
  refine .ofOption fun phrase member => ?_
  rw [mapSlot_eq_map] at member
  obtain ⟨child, filled, rfl⟩ := Option.map_eq_some_iff.mp member
  exact smaller _ (Node.size_lt_of_pick? filled) (every.enter_pick? filled)

theorem within_arguments (slot : Slot) :
    ∀ phrase ∈ place.mapArguments slot fun inner _ => inner.phrase, phrase.Within wording := by
  intro phrase member
  rw [mapArguments_eq_map] at member
  obtain ⟨argument, present, rfl⟩ := List.mem_map.mp member
  exact smaller _ (size_lt_of_mem_arguments present) (every.arguments present)

theorem within_kind (kind : NodeKind) :
    ∀ phrase ∈ place.mapKind kind fun inner _ => inner.phrase, phrase.Within wording := by
  intro phrase member
  rw [mapKind_eq_map] at member
  obtain ⟨child, present, rfl⟩ := List.mem_map.mp member
  exact smaller _ (Node.size_lt_of_mem (List.mem_filter.mp present).1)
    (every.enter_childrenOfKind present)

theorem within_nodes :
    ∀ phrase ∈ place.mapNodes fun inner _ => inner.phrase, phrase.Within wording := by
  intro phrase member
  rw [mapNodes_eq_map] at member
  obtain ⟨child, present, rfl⟩ := List.mem_map.mp member
  exact smaller _ (Node.size_lt_of_mem present) (every.enter_child present)

end Recursion

/-- The words of an expression come from its tree: if the wording accepts every node around, it
covers the phrase. -/
theorem phrase_within (every : place.Every wording.Accepts) :
    place.phrase.Within wording := by
  fun_induction Place.phrase place with
  | case1 place node kind ih =>
      exact .element (holds_listVariable? every.1) (within_slot every ih _)
        (within_arguments every ih _)
  | case2 place node kind name filled ih =>
      exact .member (within_slot every ih _) (every.1.of_pick? filled).here.identifier
  | case3 place node kind absent =>
      exact .memberWithoutName (every.here.named kind (Node.childNodes_eq_nil_of_memberName absent))
  | case4 place node kind ih => exact .call (within_slot every ih _) (within_arguments every ih _)
  | case5 place node kind type ihArgument ih =>
      have stated : wording.holds type := Wording.Accepts.slotTypeText every.1 _
      simp only [mapSlot_eq_map, mapArguments_eq_map]
      cases filled : place.node.pick? .castOperand with
      | none => exact .cast stated .empty
      | some operand =>
          have inside := every.enter_pick? filled
          have below := Node.size_lt_of_pick? filled
          simp only [Option.map_some, Option.getD_some]
          split
          -- the text of an enum is an argument of the operand, two levels down
          · refine .enumParse stated fun phrase chosen => ?_
            obtain ⟨candidate, listed, isPhrase⟩ := List.exists_of_findSome?_eq_some chosen
            obtain ⟨argument, present, rfl⟩ := List.mem_map.mp listed
            obtain ⟨-, same⟩ := Option.ite_none_right_eq_some.mp isPhrase
            cases same
            exact ihArgument (place.enter operand) below argument (size_lt_of_mem_arguments present)
              (inside.arguments present)
          · exact .cast stated (ih (place.enter operand) below inside)
  | case6 place node kind ih ihMember =>
      refine .creation (Wording.Accepts.slotTypeText every.1 _) (holds_declaredVariable? every)
        (within_arguments every ih _) fun list found => ?_
      simp only [mapSlot_eq_map] at found
      obtain ⟨child, filled, rfl⟩ := Option.map_eq_some_iff.mp found
      exact within_nodes (every.enter_pick? filled)
        (ihMember (place.enter child) (Node.size_lt_of_pick? filled))
  | case7 place node kind ih =>
      have spaced := wording.spaced (every.here.operator (by rw [kind]; rfl))
      exact .triple (within_slot every ih _) (.text spaced) (within_slot every ih _)
  | case8 place node kind ih =>
      have spaced := wording.spaced (every.here.operator (by rw [kind]; rfl))
      exact .triple (within_slot every ih _) (.text spaced) (within_slot every ih _)
  | case9 place node kind ih =>
      exact .pair (within_slot every ih _) (.text (every.here.operator (by rw [kind]; rfl)))
  | case10 place node kind ih =>
      exact .pair (.text (every.here.operator (by rw [kind]; rfl))) (within_slot every ih _)
  | case11 place node kind => exact .text (every.here.literal kind)
  | case12 place node kind ih => exact within_slot every ih _
  | case13 place node kind ih => exact within_slot every ih _
  | case14 place node kind ih => exact .parenthesized (within_kind every ih _)
  | case15 place node kind designation found =>
      exact .text (every.1.of_mem (Node.mem_nodes_of_find? found)).here.identifier
  | case16 => exact .empty
  | case17 place node kind => exact .text every.here.identifier
  | case18 place node kind ih =>
      exact .triple (.plain (by decide)) (within_slot every ih _) (.plain (by decide))
  | case19 place node kind token first =>
      have text := every.here.first (by rw [kind]; rfl)
      rw [Node.firstText_eq first] at text
      exact .text text
  | case20 => exact .plain (by decide)
  | case21 place node kind ih =>
      refine .join fun part member => ?_
      rcases List.mem_cons.mp member with rfl | later
      · exact .type (Wording.Accepts.slotTypeText every.1 _)
      · simp only [mapKind_eq_map, mapNodes_eq_map] at later
        obtain ⟨rank, present, rfl⟩ := List.mem_map.mp later
        refine .triple (.plain (by decide)) (.join fun part listed => ?_) (.plain (by decide))
        obtain ⟨size, held, rfl⟩ := List.mem_map.mp listed
        split
        · exact .empty
        · exact ih (place.enter rank) (Node.size_lt_of_mem (List.mem_filter.mp present).1) _
            (Node.size_lt_of_mem held) ((every.enter_childrenOfKind present).enter_child held)
  | case22 place node kind ih =>
      refine .join fun part member => ?_
      rcases List.mem_cons.mp member with rfl | later
      · exact .plain (by decide)
      · exact within_nodes every ih part later
  | case23 => exact .discard
  | case24 place node kind => exact .text every.here.identifier
  | case25 place node kind => exact .type (Wording.Accepts.typeText every.1)
  | case26 place node kind => exact .type (Wording.Accepts.typeText every.1)
  | case27 place node kind => exact .type (Wording.Accepts.typeText every.1)
  | case28 place node kind inner first =>
      exact .type (Wording.Accepts.typeText (every.1.of_child (List.mem_of_head? first)))
  | case29 => exact .empty
  | case30 place =>
      rename_i ih
      refine .pair ?_ (.join fun part member => ?_)
      · split
        · exact .note _
        · exact .empty
      · simp only [mapChildren_eq_map] at member
        obtain ⟨child, present, rfl⟩ := List.mem_map.mp member
        cases child with
        | token token => exact .text (every.here.descentText (Node.mem_childTokens.mpr present))
        | node inner =>
            simp only
            split
            · exact ih _ (Node.size_lt_of_mem_children present)
                (every.enter_child (Node.mem_childNodes.mpr present))
            · exact .note _

end Place

end SharpToJava
