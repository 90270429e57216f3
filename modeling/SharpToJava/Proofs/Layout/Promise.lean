import SharpToJava.Proofs.Layout.Wording
import SharpToJava.Proofs.Phrase.Promise

/-!
The text that a statement adds to a fragment keeps what is promised of its words. Rules keep it by
themselves, since they write braces in pairs. Where a node is descended, its brace tokens are
written one by one, and whether the pieces between them add up is a question about its children
(`Promise.Spells`).
-/

namespace SharpToJava

namespace Layout

variable {profile : Profile} {fails : Fault → Prop} {layout : Layout} {post weaker : String → Prop}

/-- Whatever the fragment, writing the layout adds a text that is as promised. -/
def Yields (profile : Profile) (fails : Fault → Prop) (layout : Layout)
    (post : String → Prop) : Prop :=
  ∀ fragment : Fragment, RunM.Meets fails (layout.write profile fragment)
    fun after => ∃ added, after.text = fragment.text ++ added ∧ post added

theorem Yields.weaken (yields : layout.Yields profile fails post)
    (implies : ∀ text, post text → weaker text) : layout.Yields profile fails weaker := by
  intro fragment
  refine (yields fragment).weaken fun after outcome => ?_
  obtain ⟨added, grown, holds⟩ := outcome
  exact ⟨added, grown, implies added holds⟩

theorem yields_phrase {content : Phrase}
    (rendered : ∀ depth, RunM.Meets fails (content.render profile depth) post) :
    (Layout.phrase content).Yields profile fails post := by
  intro fragment
  simp only [write]
  refine (rendered fragment.depth).bind fun text holds => RunM.meets_pure ?_
  exact ⟨text, Fragment.text_append _ _, holds⟩

theorem yields_text (written : String) :
    (Layout.text written).Yields profile fails (· = written) := by
  refine yields_phrase fun depth => ?_
  rw [Phrase.render_text]
  exact RunM.meets_pure rfl

theorem yields_indent (holds : ∀ depth, post (indentation depth)) :
    Layout.indent.Yields profile fails post := by
  intro fragment
  simp only [write]
  exact RunM.meets_pure ⟨fragment.indent, Fragment.text_append _ _, holds _⟩

theorem yields_shift (levels : Int) :
    (Layout.shift levels).Yields profile fails (· = "") := by
  intro fragment
  simp only [write]
  exact RunM.meets_pure ⟨"", by simp, rfl⟩

theorem yields_empty : Layout.empty.Yields profile fails (· = "") := by
  intro fragment
  simp only [empty, write, writeAll]
  exact RunM.meets_pure ⟨"", by simp, rfl⟩

/-- The text of a row of layouts is the text of the first and then that of the rest. -/
theorem Yields.cons {rest : List Layout} {others : String → Prop}
    (first : layout.Yields profile fails post)
    (later : (Layout.join rest).Yields profile fails others) :
    (Layout.join (layout :: rest)).Yields profile fails
      fun text => ∃ head tail, text = head ++ tail ∧ post head ∧ others tail := by
  intro fragment
  simp only [write, writeAll]
  refine (first fragment).bind fun between outcome => ?_
  obtain ⟨head, grown, headHolds⟩ := outcome
  have remaining := later between
  simp only [write] at remaining
  refine remaining.weaken fun after outcome => ?_
  obtain ⟨tail, grownAgain, tailHolds⟩ := outcome
  exact ⟨head ++ tail, by rw [grownAgain, grown, String.append_assoc], head, tail, rfl, headHolds,
    tailHolds⟩

theorem yields_byLineStart {choose : Bool → Layout}
    (each : ∀ fresh, (choose fresh).Yields profile fails post) :
    (Layout.byLineStart choose).Yields profile fails post := by
  intro fragment
  simp only [write]
  exact each _ fragment

end Layout

namespace Promise

variable {profile : Profile} (promise : Promise profile.types)

/-- The layout adds a text for which the promise holds. -/
def Covers (layout : Layout) : Prop := layout.Yields profile promise.fails promise.holds

variable {promise}

theorem covers_phrase {content : Phrase} (within : content.Within promise.toWording) :
    promise.Covers (.phrase content) :=
  Layout.yields_phrase within.render_meets

theorem covers_text {written : String} (holds : promise.holds written) :
    promise.Covers (Layout.text written) :=
  (Layout.yields_text written).weaken fun _ same => same ▸ holds

theorem covers_note (entry : Note) : promise.Covers (Layout.note entry) :=
  covers_phrase (.note entry)

theorem covers_newline : promise.Covers Layout.newline := covers_text promise.newline

theorem covers_indent : promise.Covers .indent := Layout.yields_indent promise.indentation

theorem covers_shift (levels : Int) : promise.Covers (.shift levels) :=
  (Layout.yields_shift levels).weaken fun _ blank => blank ▸ promise.empty

theorem covers_empty : promise.Covers Layout.empty :=
  Layout.yields_empty.weaken fun _ blank => blank ▸ promise.empty

theorem covers_join {layouts : List Layout} (each : ∀ layout ∈ layouts, promise.Covers layout) :
    promise.Covers (.join layouts) := by
  induction layouts with
  | nil => exact covers_empty
  | cons layout rest ih =>
      have first := each layout List.mem_cons_self
      have later := ih fun other member => each other (List.mem_cons_of_mem _ member)
      refine (first.cons later).weaken fun text parts => ?_
      obtain ⟨head, tail, rfl, headHolds, tailHolds⟩ := parts
      exact promise.append headHolds tailHolds

theorem covers_ofOption {found : Option Layout} (each : ∀ layout ∈ found, promise.Covers layout) :
    promise.Covers (Layout.ofOption found) := by
  cases found with
  | none => exact covers_empty
  | some layout => exact each layout rfl

theorem covers_finishLine : promise.Covers Layout.finishLine := by
  refine Layout.yields_byLineStart fun fresh => ?_
  cases fresh with
  | false => exact covers_newline
  | true => exact covers_empty

theorem covers_deeper {layout : Layout} (covers : promise.Covers layout) :
    promise.Covers layout.deeper :=
  covers_join (by simp [covers, covers_shift])

theorem covers_endedLine (written : String) (plain : written.toList.all Text.isPlain = true) :
    promise.Covers (Layout.text (written ++ "\n")) :=
  covers_text (promise.append (promise.plain _ plain) promise.newline)

theorem covers_statement {content : Phrase} (within : content.Within promise.toWording) :
    promise.Covers (Layout.statement content) := by
  have ended : promise.Covers (Layout.text ";\n") := covers_endedLine ";" (by decide)
  exact covers_join (by simp [covers_indent, covers_phrase within, ended])

/-- A block writes its braces in a pair. -/
theorem covers_block {inline : Bool} {statements : List Layout}
    (each : ∀ statement ∈ statements, promise.Covers statement) :
    promise.Covers (Layout.block inline statements) := by
  have opening : (if inline then Layout.text " \x7b\n" else
      .join [.indent, Layout.text "\x7b\n"]).Yields profile promise.fails
        fun text => ∃ lead, promise.holds lead ∧ text = lead ++ ("\x7b" ++ "\n") := by
    cases inline with
    | true =>
        refine (Layout.yields_text _).weaken fun text same => ?_
        exact ⟨" ", promise.plain _ (by decide), same⟩
    | false =>
        refine (covers_indent.cons ((Layout.yields_text _).cons Layout.yields_empty)).weaken ?_
        rintro text ⟨lead, tail, rfl, holds, head, last, rfl, rfl, rfl⟩
        exact ⟨lead, holds, by simp⟩
  have body := covers_deeper (covers_join each)
  have closing : (Layout.text "\x7d").Yields profile promise.fails (· = "\x7d") :=
    Layout.yields_text _
  refine (opening.cons (body.cons (covers_indent.cons (closing.cons Layout.yields_empty)))).weaken ?_
  rintro text ⟨_, _, rfl, ⟨lead, leadHolds, rfl⟩, inner, _, rfl, innerHolds, tabs, _, rfl, tabsHold,
    _, _, rfl, rfl, rfl⟩
  have lines := promise.append promise.newline (promise.append innerHolds tabsHold)
  have whole := promise.append leadHolds (promise.braced lines)
  simpa only [String.append_assoc, String.append_empty] using whole

/-- Written from the start, a layout gives a text for which the promise holds. -/
theorem Covers.render_meets {layout : Layout} (covers : promise.Covers layout) (depth : Int) :
    RunM.Meets promise.fails (layout.render profile depth) promise.holds := by
  refine (covers { depth }).bind fun after outcome => RunM.meets_pure ?_
  obtain ⟨added, grown, holds⟩ := outcome
  rwa [grown, Fragment.text_empty, String.empty_append]

/-- The texts that may be written for a row of children: a brace for each brace token, with other
texts around it, and any text for another token or a node. -/
inductive Spells {types : TypeMap} (promise : Promise types) : List Child → String → Prop where
  | nil : Spells promise [] ""
  | opening {token : Token} {rest : List Child} {lead trail text : String}
      (kind : token.kind = .openBrace) (before : promise.holds lead) (after : promise.holds trail)
      (others : Spells promise rest text) :
      Spells promise (.token token :: rest) (lead ++ ("\x7b" ++ (trail ++ text)))
  | closing {token : Token} {rest : List Child} {lead trail text : String}
      (kind : token.kind = .closeBrace) (before : promise.holds lead) (after : promise.holds trail)
      (others : Spells promise rest text) :
      Spells promise (.token token :: rest) (lead ++ ("\x7d" ++ (trail ++ text)))
  | word {token : Token} {rest : List Child} {written text : String}
      (notOpening : token.kind ≠ .openBrace) (notClosing : token.kind ≠ .closeBrace)
      (holds : promise.holds written) (others : Spells promise rest text) :
      Spells promise (.token token :: rest) (written ++ text)
  | node {node : Node} {rest : List Child} {written text : String}
      (holds : promise.holds written) (others : Spells promise rest text) :
      Spells promise (.node node :: rest) (written ++ text)

/-- A promise that the rules can keep at a node: for the texts they take from it, and for what its
children add up to. -/
structure Admits {types : TypeMap} (promise : Promise types) (node : Node) : Prop where
  accepts : promise.Accepts node
  spelled : ∀ text, promise.Spells node.children text → promise.holds text

theorem yields_token {node : Node} (accepts : promise.Accepts node) {token : Token}
    {rest : List Child} (member : token ∈ node.childTokens) {others : List Layout}
    (later : (Layout.join others).Yields profile promise.fails (promise.Spells rest)) :
    (Layout.join (token.descentLayout :: others)).Yields profile promise.fails
      (promise.Spells (.token token :: rest)) := by
  unfold Token.descentLayout
  split
  case h_1 kind =>
    have brace : (Layout.text " \x7b\n").Yields profile promise.fails
        (· = " " ++ ("\x7b" ++ "\n")) := Layout.yields_text _
    refine ((brace.cons ((Layout.yields_shift 1).cons Layout.yields_empty)).cons later).weaken ?_
    rintro text ⟨_, tail, rfl, ⟨_, _, rfl, rfl, _, _, rfl, rfl, rfl⟩, spelled⟩
    have written : promise.Spells (.token token :: rest) (" " ++ ("\x7b" ++ ("\n" ++ tail))) :=
      .opening kind (promise.plain _ (by decide)) promise.newline spelled
    simpa only [String.append_assoc, String.append_empty, String.empty_append] using written
  case h_2 kind =>
    have brace : (Layout.text "\x7d\n").Yields profile promise.fails (· = "\x7d" ++ "\n") :=
      Layout.yields_text _
    have closing := (Layout.yields_shift (-1)).cons (covers_finishLine.cons
      (covers_indent.cons (brace.cons Layout.yields_empty)))
    refine (closing.cons later).weaken ?_
    rintro text ⟨_, tail, rfl, ⟨_, _, rfl, rfl, line, _, rfl, lineHolds, tabs, _, rfl, tabsHold, _, _,
      rfl, rfl, rfl⟩, spelled⟩
    have written : promise.Spells (.token token :: rest)
        ((line ++ tabs) ++ ("\x7d" ++ ("\n" ++ tail))) :=
      .closing kind (promise.append lineHolds tabsHold) promise.newline spelled
    simpa only [String.append_assoc, String.append_empty, String.empty_append] using written
  case h_3 kind =>
    refine ((covers_endedLine ";" (by decide)).cons later).weaken ?_
    rintro text ⟨written, tail, rfl, holds, spelled⟩
    exact .word (by simp [kind]) (by simp [kind]) holds spelled
  case h_4 notOpening notClosing _ =>
    refine ((covers_text (accepts.descentText member)).cons later).weaken ?_
    rintro text ⟨written, tail, rfl, holds, spelled⟩
    exact .word notOpening notClosing holds spelled

end Promise

namespace Place

variable {profile : Profile} {promise : Promise profile.types} {place : Place}

theorem Every.accepts (every : place.Every promise.Admits) : place.Every promise.Accepts :=
  ⟨fun node member => (every.1 node member).accepts, fun node member => (every.2 node member).accepts⟩

/-- The children of a descended node spell their text, if each child node keeps the promise. -/
theorem yields_children (every : place.Every promise.Admits) {layoutOf : Node → Layout}
    (each : ∀ child ∈ place.node.childNodes, promise.Covers (layoutOf child))
    {children : List Child} (kept : children ⊆ place.node.children) :
    (Layout.join (children.map fun child =>
      match child with
      | .token token => token.descentLayout
      | .node inner => layoutOf inner)).Yields profile promise.fails (promise.Spells children) := by
  -- over a part of the children, so that each token is still one of the node's own
  induction children with
  | nil => exact Layout.yields_empty.weaken fun text blank => by rw [blank]; exact .nil
  | cons child rest ih =>
      have later := ih (List.subset_of_cons_subset kept)
      have present : child ∈ place.node.children := kept List.mem_cons_self
      cases child with
      | token token =>
          exact Promise.yields_token every.here.accepts (Node.mem_childTokens.mpr present) later
      | node inner =>
          refine ((each inner (Node.mem_childNodes.mpr present)).cons later).weaken ?_
          rintro text ⟨written, tail, rfl, holds, spelled⟩
          exact .node holds spelled

theorem covers_nodes (every : place.Every promise.Admits)
    (smaller : ∀ inner : Place, inner.size < place.size → inner.Every promise.Admits →
      promise.Covers inner.layout) :
    ∀ layout ∈ place.node.childNodes.map fun child => (place.enter child).layout,
      promise.Covers layout := by
  intro layout member
  obtain ⟨child, present, rfl⟩ := List.mem_map.mp member
  exact smaller _ (Node.size_lt_of_mem present) (every.enter_child present)

mutual
/-- The text of a statement keeps the promise, if it can be kept at every node around. -/
theorem layout_covers (place : Place) (every : place.Every promise.Admits) :
    promise.Covers place.layout := by
  unfold layout
  split
  case h_1 kind =>
    have inside := covers_nodes every fun inner smaller => inner.layout_covers
    simp only [mapNodes_eq_map]
    split
    · exact Promise.covers_join (by simp [Promise.covers_block inside, Promise.covers_newline])
    · exact Promise.covers_block inside
  case h_2 => exact Promise.covers_statement (slotPhrase_within every.accepts _)
  case h_3 =>
    have header := Promise.covers_phrase (forHeaderPhrase_within every.accepts)
    have body : promise.Covers ((place.mapForStatement fun body _ => body.bodyLayout).getD
        (Layout.text ";\n")) := by
      rw [mapForStatement_eq_map]
      cases found : place.node.forStatement? with
      | none => exact Promise.covers_endedLine ";" (by decide)
      | some statement =>
          have smaller : statement.size < place.size := Node.size_lt_of_forStatement? found
          exact (place.enter statement).bodyLayout_covers
            (every.enter_child (Node.mem_childNodes_of_forStatement? found))
    exact Promise.covers_join (by simp [Promise.covers_indent, header, body])
  case h_4 => exact place.ifLayout_covers every
  case h_5 => exact place.elseLayout_covers every
  case h_6 =>
    exact Promise.covers_statement (.pair (.plain (by decide))
      (.ledBy (promise.plain _ (by decide)) (slotPhrase_within every.accepts _)))
  case h_7 => exact Promise.covers_statement (.plain (by decide))
  case h_8 => exact Promise.covers_statement (.plain (by decide))
  case h_9 =>
    split
    case h_1 declaration filled =>
      exact Promise.covers_statement (declarationPhrase_within (every.enter_pick? filled).accepts)
    case h_2 => exact Promise.covers_empty
  case h_10 => exact Promise.covers_phrase (declarationPhrase_within every.accepts)
  case h_11 => exact Promise.covers_phrase (phrase_within every.accepts)
  case h_12 =>
    have descended := place.descentLayout_covers every
    exact Promise.covers_join (by
      simp [Promise.covers_note, Promise.covers_indent, descended, Promise.covers_finishLine])
termination_by 3 * place.size + 1

theorem bodyLayout_covers (place : Place) (every : place.Every promise.Admits) :
    promise.Covers place.bodyLayout := by
  unfold bodyLayout
  split
  · have inside := covers_nodes every fun inner smaller => inner.layout_covers
    simp only [mapNodes_eq_map]
    exact Promise.covers_join (by simp [Promise.covers_block inside, Promise.covers_newline])
  · have below := Promise.covers_deeper (place.layout_covers every)
    exact Promise.covers_join (by simp [Promise.covers_newline, below])
termination_by 3 * place.size + 2

theorem ifLayout_covers (place : Place) (every : place.Every promise.Admits) :
    promise.Covers place.ifLayout := by
  have lead : promise.Covers (if place.isInside .elseClause then Layout.empty else .indent) := by
    split
    · exact Promise.covers_empty
    · exact Promise.covers_indent
  have header : promise.Covers (.phrase (.join
      [.text "if (", place.slotPhrase .condition, .text ")"])) :=
    Promise.covers_phrase (.triple (.plain (by decide)) (slotPhrase_within every.accepts _)
      (.plain (by decide)))
  have body : promise.Covers ((place.mapSlot .branch fun body _ => body.bodyLayout).getD
      (Layout.text ";\n")) := by
    rw [mapSlot_eq_map]
    cases filled : place.node.pick? .branch with
    | none => exact Promise.covers_endedLine ";" (by decide)
    | some statement =>
        have smaller : statement.size < place.size := Node.size_lt_of_pick? filled
        exact (place.enter statement).bodyLayout_covers (every.enter_pick? filled)
  have other : promise.Covers (Layout.ofOption
      (place.mapSlot .elseBranch fun other _ => other.elseLayout)) := by
    refine Promise.covers_ofOption fun layout member => ?_
    rw [mapSlot_eq_map] at member
    obtain ⟨clause, filled, rfl⟩ := Option.map_eq_some_iff.mp member
    have smaller : clause.size < place.size := Node.size_lt_of_pick? filled
    exact (place.enter clause).elseLayout_covers (every.enter_pick? filled)
  unfold ifLayout
  exact Promise.covers_join (by
    simp only [List.forall_mem_cons]
    exact ⟨lead, header, body, other, by simp⟩)
termination_by 3 * place.size

theorem elseLayout_covers (place : Place) (every : place.Every promise.Admits) :
    promise.Covers place.elseLayout := by
  unfold elseLayout
  refine Promise.covers_ofOption fun layout member => ?_
  simp only [mapSlot_eq_map, mapNodes_eq_map] at member
  obtain ⟨statement, filled, rfl⟩ := Option.map_eq_some_iff.mp member
  have smaller : statement.size < place.size := Node.size_lt_of_pick? filled
  have within := every.enter_pick? filled
  split
  case h_1 =>
    have word : promise.Covers (Layout.text "else ") :=
      Promise.covers_text (promise.plain _ (by decide))
    have chained := (place.enter statement).ifLayout_covers within
    exact Promise.covers_join (by simp [Promise.covers_indent, word, chained])
  case h_2 =>
    have word : promise.Covers (Layout.text "else") :=
      Promise.covers_text (promise.plain _ (by decide))
    have inside := covers_nodes within fun inner deeper =>
      have : inner.size < place.size := Nat.lt_trans deeper smaller
      inner.layout_covers
    have block : promise.Covers (Layout.block true _) := Promise.covers_block inside
    exact Promise.covers_join (by
      simp only [List.forall_mem_cons]
      exact ⟨Promise.covers_indent, word, block, Promise.covers_newline, by simp⟩)
  case h_3 =>
    have word : promise.Covers (Layout.text "else\n") :=
      Promise.covers_endedLine "else" (by decide)
    have below := Promise.covers_deeper ((place.enter statement).layout_covers within)
    exact Promise.covers_join (by simp [Promise.covers_indent, word, below])
termination_by 3 * place.size

theorem descentLayout_covers (place : Place) (every : place.Every promise.Admits) :
    promise.Covers place.descentLayout := by
  unfold descentLayout
  simp only [mapChildren_eq_map]
  refine (yields_children every ?_ (List.Subset.refl _)).weaken every.here.spelled
  intro child present
  have smaller : child.size < place.size := Node.size_lt_of_mem present
  have within := every.enter_child present
  split
  · exact Promise.covers_phrase (declarationPhrase_within within.accepts)
  split
  · refine Layout.yields_byLineStart fun fresh => ?_
    cases fresh with
    | false => exact (place.enter child).bodyLayout_covers within
    | true => exact (place.enter child).layout_covers within
  split
  · exact Promise.covers_phrase (phrase_within within.accepts)
  split
  · have descended := (place.enter child).descentLayout_covers within
    have lines : promise.Covers (.byLineStart fun fresh =>
        if fresh then .join [.indent, (place.enter child).descentLayout, Layout.finishLine]
        else (place.enter child).descentLayout) := by
      refine Layout.yields_byLineStart fun fresh => ?_
      cases fresh with
      | false => exact descended
      | true =>
          exact Promise.covers_join (by
            simp [Promise.covers_indent, descended, Promise.covers_finishLine])
    exact Promise.covers_join (by simp [Promise.covers_note, lines])
  · exact Promise.covers_note _
termination_by 3 * place.size
end

end Place

end SharpToJava
