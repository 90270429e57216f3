import SharpToJava.Proofs.Layout.Depth

/-!
Where a statement leaves its fragment. Of all that stands before it, a statement sees only how deep
it is and whether a line has just begun. It leaves both as they were: it comes back to its depth if
the brace tokens of descended nodes are paired, and it ends the lines it begins unless it holds a
part of a line where a statement should be.
-/

namespace SharpToJava

namespace Fragment

variable {fragment lead : Fragment}

/-- The fragment with the pieces of another one in front of its own. -/
def behind (fragment lead : Fragment) : Fragment :=
  { fragment with parts := lead.parts ++ fragment.parts }

@[simp] theorem depth_behind (fragment lead : Fragment) :
    (fragment.behind lead).depth = fragment.depth := rfl

theorem append_behind (fragment lead : Fragment) (added : String) :
    (fragment.behind lead).append added = (fragment.append added).behind lead := by
  unfold append
  split <;> simp [behind]

theorem eq_empty_behind (fragment : Fragment) :
    fragment = ({ depth := fragment.depth } : Fragment).behind fragment := by
  simp [behind]

/-- Behind a line that has ended, a fragment is as if it stood alone. -/
theorem atLineStart_behind (fresh : lead.atLineStart = true) :
    (fragment.behind lead).atLineStart = fragment.atLineStart := by
  unfold atLineStart at fresh ⊢
  rw [behind, Array.back?_append]
  cases fragment.parts.back? with
  | some part => rfl
  | none => exact fresh

@[simp] theorem atLineStart_shift (fragment : Fragment) (levels : Int) :
    (fragment.shift levels).atLineStart = fragment.atLineStart := rfl

theorem endsLine_append {first second : String} (ends : endsLine second = true) :
    endsLine (first ++ second) = true := by
  have last : second.toList.getLast? = some '\n' := eq_of_beq ends
  rw [endsLine, String.toList_append, List.getLast?_append, last]
  rfl

theorem atLineStart_append {added : String} (ends : endsLine added = true) :
    (fragment.append added).atLineStart = true := by
  unfold append
  split
  case isTrue blank =>
    rw [String.isEmpty_iff.mp blank] at ends
    cases ends
  case isFalse =>
    rw [atLineStart, Array.back?_push]
    exact ends

theorem text_eq_empty_or_endsLine (fresh : fragment.atLineStart = true) :
    fragment.text = "" ∨ endsLine fragment.text = true := by
  unfold atLineStart at fresh
  rw [← Array.getLast?_toList] at fresh
  rcases fragment.parts.toList.eq_nil_or_concat with none | ⟨front, last, split⟩
  · exact .inl (by rw [text, none]; rfl)
  · rw [split, List.concat_eq_append, List.getLast?_concat] at fresh
    have spelled : fragment.text = String.join front ++ last := by simp [text, split]
    exact .inr (spelled ▸ endsLine_append fresh)

end Fragment

namespace Layout

variable {profile : Profile}

mutual
/-- Behind a line that has ended, a layout is written as if it stood alone. -/
theorem write_behind {lead : Fragment} (fresh : lead.atLineStart = true) :
    ∀ (layout : Layout) (fragment : Fragment),
      layout.write profile (fragment.behind lead) =
        (·.behind lead) <$> layout.write profile fragment
  | .phrase content, fragment => by
    simp only [write, Fragment.append_behind, map_bind, map_pure, Fragment.depth_behind]
  | .indent, fragment => by
    simp only [write, Fragment.append_behind, map_pure]
    rfl
  | .shift levels, fragment => rfl
  | .join parts, fragment => by
    simpa only [write] using writeAll_behind fresh parts fragment
  | .byLineStart choose, fragment => by
    simp only [write, Fragment.atLineStart_behind fresh]
    exact write_behind fresh _ fragment

theorem writeAll_behind {lead : Fragment} (fresh : lead.atLineStart = true) :
    ∀ (layouts : List Layout) (fragment : Fragment),
      writeAll profile layouts (fragment.behind lead) =
        (·.behind lead) <$> writeAll profile layouts fragment
  | [], fragment => by simp only [writeAll, map_pure]
  | layout :: rest, fragment => by
    simp only [writeAll, write_behind fresh layout fragment, bind_map_left, map_bind]
    congr 1
    funext between
    exact writeAll_behind fresh rest between
end

end Layout

namespace Node

/-- As many brace tokens open as close; a block is written without its tokens. -/
def BracesPaired (node : Node) : Prop :=
  node.kind ≠ .block →
    node.childTokens.countP (·.kind = .openBrace) = node.childTokens.countP (·.kind = .closeBrace)

instance : DecidablePred BracesPaired := fun _ => inferInstanceAs (Decidable (_ → _))

/-- Where brace tokens are paired, descended nodes come back to their depth. -/
theorem totalLevels_of_paired {nodes : List Node} (notBlock : ∀ node ∈ nodes, node.kind ≠ .block)
    (paired : ∀ node ∈ nodes, node.BracesPaired) :
    Token.totalLevels (nodes.flatMap childTokens) = 0 := by
  induction nodes with
  | nil => rfl
  | cons node rest ih =>
      obtain ⟨firstKind, otherKinds⟩ := List.forall_mem_cons.mp notBlock
      obtain ⟨first, others⟩ := List.forall_mem_cons.mp paired
      rw [List.flatMap_cons, Token.totalLevels_append, ih otherKinds others, Token.totalLevels_eq,
        first firstKind, Int.sub_self, Int.add_zero]

end Node

namespace Place

variable {profile : Profile} {place : Place}

theorem isInside_enter (place : Place) (child : Node) (kind : NodeKind) :
    (place.enter child).isInside kind = (place.node.kind == kind) := rfl

/-- A statement comes back to the depth it started from. -/
theorem layout_levels (place : Place) (every : place.node.Every Node.BracesPaired) :
    place.layout.Levels profile 0 := by
  have paired : place.node.deepening = 0 := by
    apply Node.totalLevels_of_paired
    · intro node descended block
      have noRule := (Node.of_mem_descents descended).2
      rw [block] at noRule
      cases noRule
    · intro node descended
      exact every node (Node.of_mem_descents descended).1
  rw [← paired]
  exact place.layout_deepens profile

end Place

namespace Layout

variable {profile : Profile} {layout : Layout} {rest : List Layout}

/-- Whatever the fragment, the layout ends with the end of a line. -/
def EndsLine (profile : Profile) (layout : Layout) : Prop :=
  ∀ fragment : Fragment, (layout.write profile fragment).Gives
    fun after => after.atLineStart = true

/-- From the start of a line, the layout comes to the start of a line again. -/
def KeepsLine (profile : Profile) (layout : Layout) : Prop :=
  ∀ fragment : Fragment, fragment.atLineStart = true →
    (layout.write profile fragment).Gives fun after => after.atLineStart = true

theorem EndsLine.keepsLine (ends : layout.EndsLine profile) : layout.KeepsLine profile :=
  fun fragment _ => ends fragment

theorem endsLine_text {written : String} (ends : Fragment.endsLine written = true) :
    (Layout.text written).EndsLine profile := by
  intro fragment
  simp only [text, write, Phrase.render_text, pure_bind]
  exact RunM.gives_pure (Fragment.atLineStart_append ends)

theorem endsLine_newline : newline.EndsLine profile := endsLine_text (by decide)

theorem keepsLine_shift (levels : Int) : (Layout.shift levels).KeepsLine profile := by
  intro fragment fresh
  simp only [write]
  exact RunM.gives_pure fresh

theorem keepsLine_nil : (Layout.join []).KeepsLine profile := by
  intro fragment fresh
  simp only [write, writeAll]
  exact RunM.gives_pure fresh

theorem endsLine_finishLine : finishLine.EndsLine profile := by
  intro fragment
  simp only [finishLine, write]
  cases fresh : fragment.atLineStart with
  | true => exact keepsLine_nil fragment fresh
  | false => exact endsLine_newline fragment

theorem KeepsLine.cons (first : layout.KeepsLine profile)
    (later : (Layout.join rest).KeepsLine profile) :
    (Layout.join (layout :: rest)).KeepsLine profile := by
  intro fragment fresh
  simp only [write, writeAll]
  refine (first fragment fresh).bind fun between still => ?_
  have remaining := later between still
  simpa only [write] using remaining

/-- After the end of a line, what keeps to lines ends with one. -/
theorem EndsLine.cons (first : layout.EndsLine profile)
    (later : (Layout.join rest).KeepsLine profile) :
    (Layout.join (layout :: rest)).EndsLine profile := by
  intro fragment
  simp only [write, writeAll]
  refine (first fragment).bind fun between still => ?_
  have remaining := later between still
  simpa only [write] using remaining

/-- What ends with the end of a line does so behind anything. -/
theorem EndsLine.after (layout : Layout) (later : (Layout.join rest).EndsLine profile) :
    (Layout.join (layout :: rest)).EndsLine profile := by
  intro fragment
  simp only [write, writeAll]
  refine RunM.gives_bind fun between => ?_
  have remaining := later between
  simpa only [write] using remaining

theorem EndsLine.alone (ends : layout.EndsLine profile) : (Layout.join [layout]).EndsLine profile :=
  ends.cons keepsLine_nil

theorem keepsLine_ofOption {found : Option Layout}
    (each : ∀ layout ∈ found, layout.KeepsLine profile) :
    (Layout.ofOption found).KeepsLine profile := by
  cases found with
  | none => exact keepsLine_nil
  | some layout => exact each layout rfl

theorem KeepsLine.deeper (keeps : layout.KeepsLine profile) : layout.deeper.KeepsLine profile :=
  (keepsLine_shift 1).cons (keeps.cons ((keepsLine_shift (-1)).cons keepsLine_nil))

theorem endsLine_statement (content : Phrase) : (Layout.statement content).EndsLine profile :=
  .after _ (.after _ (endsLine_text (by decide)).alone)

end Layout

/-- Kinds whose rule writes a part of a line. -/
def NodeKind.isLinePart (kind : NodeKind) : Bool := kind = .variableDecl || kind = .arrayType

namespace Node

/-- No statement is a part of a line. -/
def HoldsWholeLines (node : Node) : Prop :=
  ∀ statement ∈ node.heldStatements, statement.kind.isLinePart = false

instance : DecidablePred HoldsWholeLines := fun node =>
  inferInstanceAs (Decidable (∀ statement ∈ node.heldStatements, _))

variable {node statement : Node}

theorem mem_heldStatements_of_block (kind : node.kind = .block)
    (member : statement ∈ node.childNodes) : statement ∈ node.heldStatements := by
  refine List.mem_append_left _ ?_
  rwa [statements, if_pos kind]

theorem mem_heldStatements_of_governed? (governed : node.governed? = some statement) :
    statement ∈ node.heldStatements := by
  have notBlock : node.kind ≠ .block := by
    intro kind
    simp [governed?, kind] at governed
  refine List.mem_append_left _ ?_
  rw [statements, if_neg notBlock, governed]
  exact List.mem_singleton_self _

theorem mem_heldStatements_of_else {clause : Node} (kind : node.kind = .ifStatement)
    (filled : node.pick? .elseBranch = some clause)
    (held : clause.pick? .elseStatement = some statement) : statement ∈ node.heldStatements := by
  refine List.mem_append_right _ ?_
  simp [kind, filled, held]

end Node

namespace Place

variable {profile : Profile}

mutual
/-- A statement ends the lines that it begins. -/
theorem layout_keepsLine (place : Place) (whole : place.kind.isLinePart = false)
    (inBlock : place.kind = .block → place.isInside .block = true)
    (every : place.node.Every Node.HoldsWholeLines) : place.layout.KeepsLine profile := by
  unfold layout
  split
  case h_1 kind =>
    simp only [inBlock kind, if_true]
    exact (Layout.EndsLine.after _ Layout.endsLine_newline.alone).keepsLine
  case h_2 => exact (Layout.endsLine_statement _).keepsLine
  case h_3 kind =>
    have body : ((place.mapForStatement fun body _ => body.bodyLayout).getD
        (Layout.text ";\n")).EndsLine profile := by
      rw [mapForStatement_eq_map]
      cases found : place.node.forStatement? with
      | none => exact Layout.endsLine_text (by decide)
      | some statement =>
          have smaller : statement.size < place.size := Node.size_lt_of_forStatement? found
          have governed : place.node.governed? = some statement := by
            rw [Node.governed?, show place.node.kind = _ from kind]
            exact found
          exact (place.enter statement).bodyLayout_endsLine
            (every.here _ (Node.mem_heldStatements_of_governed? governed))
            (every.of_child (Node.mem_childNodes_of_forStatement? found))
    exact (Layout.EndsLine.after _ (.after _ body.alone)).keepsLine
  case h_4 kind => exact (place.ifLayout_endsLine kind every).keepsLine
  case h_5 kind =>
    refine place.elseLayout_keepsLine (fun statement held => every.here _ ?_) every
    apply Node.mem_heldStatements_of_governed?
    rw [Node.governed?, show place.node.kind = _ from kind]
    exact held
  case h_6 => exact (Layout.endsLine_statement _).keepsLine
  case h_7 => exact (Layout.endsLine_statement _).keepsLine
  case h_8 => exact (Layout.endsLine_statement _).keepsLine
  case h_9 =>
    split
    · exact (Layout.endsLine_statement _).keepsLine
    · exact Layout.keepsLine_nil
  case h_10 kind => simp [NodeKind.isLinePart, kind] at whole
  case h_11 kind => simp [NodeKind.isLinePart, kind] at whole
  case h_12 =>
    exact (Layout.EndsLine.after _ (.after _ (.after _ Layout.endsLine_finishLine.alone))).keepsLine
termination_by 3 * place.size + 1

theorem bodyLayout_endsLine (place : Place) (whole : place.kind.isLinePart = false)
    (every : place.node.Every Node.HoldsWholeLines) : place.bodyLayout.EndsLine profile := by
  unfold bodyLayout
  split
  case isTrue => exact .after _ Layout.endsLine_newline.alone
  case isFalse notBlock =>
    have below := place.layout_keepsLine whole (fun kind => absurd kind notBlock) every
    exact Layout.endsLine_newline.cons (below.deeper.cons Layout.keepsLine_nil)
termination_by 3 * place.size + 2

theorem ifLayout_endsLine (place : Place) (kind : place.kind = .ifStatement)
    (every : place.node.Every Node.HoldsWholeLines) : place.ifLayout.EndsLine profile := by
  have body : ((place.mapSlot .branch fun body _ => body.bodyLayout).getD
      (Layout.text ";\n")).EndsLine profile := by
    rw [mapSlot_eq_map]
    cases filled : place.node.pick? .branch with
    | none => exact Layout.endsLine_text (by decide)
    | some statement =>
        have smaller : statement.size < place.size := Node.size_lt_of_pick? filled
        have governed : place.node.governed? = some statement := by
          rw [Node.governed?, show place.node.kind = _ from kind]
          exact filled
        exact (place.enter statement).bodyLayout_endsLine
          (every.here _ (Node.mem_heldStatements_of_governed? governed)) (every.of_pick? filled)
  have other : (Layout.ofOption
      (place.mapSlot .elseBranch fun other _ => other.elseLayout)).KeepsLine profile := by
    refine Layout.keepsLine_ofOption fun layout member => ?_
    rw [mapSlot_eq_map] at member
    obtain ⟨clause, filled, rfl⟩ := Option.map_eq_some_iff.mp member
    have smaller : clause.size < place.size := Node.size_lt_of_pick? filled
    exact (place.enter clause).elseLayout_keepsLine
      (fun _ held => every.here _ (Node.mem_heldStatements_of_else kind filled held))
      (every.of_pick? filled)
  unfold ifLayout
  exact .after _ (.after _ (body.cons (other.cons Layout.keepsLine_nil)))
termination_by 3 * place.size

theorem elseLayout_keepsLine (place : Place)
    (whole : ∀ statement, place.node.pick? .elseStatement = some statement →
      statement.kind.isLinePart = false)
    (every : place.node.Every Node.HoldsWholeLines) : place.elseLayout.KeepsLine profile := by
  unfold elseLayout
  refine Layout.keepsLine_ofOption fun layout member => ?_
  simp only [mapSlot_eq_map, mapNodes_eq_map] at member
  obtain ⟨statement, filled, rfl⟩ := Option.map_eq_some_iff.mp member
  have smaller : statement.size < place.size := Node.size_lt_of_pick? filled
  have within := every.of_pick? filled
  split
  case h_1 kind =>
    have chained := (place.enter statement).ifLayout_endsLine kind within
    exact (Layout.EndsLine.after _ (.after _ chained.alone)).keepsLine
  case h_2 =>
    exact (Layout.EndsLine.after _ (.after _ (.after _ Layout.endsLine_newline.alone))).keepsLine
  case h_3 notBranch notBlock =>
    have below := (place.enter statement).layout_keepsLine (whole statement filled)
      (fun kind => absurd kind notBlock) within
    have word : (Layout.text "else\n").EndsLine profile := Layout.endsLine_text (by decide)
    exact (Layout.EndsLine.after _ (word.cons (below.deeper.cons Layout.keepsLine_nil))).keepsLine
termination_by 3 * place.size
end

end Place

end SharpToJava
