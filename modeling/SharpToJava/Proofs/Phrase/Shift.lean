import SharpToJava.Proofs.Phrase.Lines
import SharpToJava.Proofs.Run.Outcome

/-!
A phrase on a deeper line. Whatever goes over several lines, an idiom or the members of an object,
starts each further line with the tabs of the current one. So one level deeper a phrase gets the
same text with one more tab after every new line.
-/

namespace SharpToJava

namespace Text

/-- The text with a tab put in after every new line. -/
def shiftLines (text : String) : String :=
  String.ofList (text.toList.flatMap fun c => if c = '\n' then ['\n', '\t'] else [c])

@[simp] theorem shiftLines_empty : shiftLines "" = "" := rfl

theorem shiftLines_append (first second : String) :
    shiftLines (first ++ second) = shiftLines first ++ shiftLines second := by
  simp [shiftLines, String.ofList_append]

theorem shiftLines_of_not_mem {text : String} (absent : '\n' ∉ text.toList) :
    shiftLines text = text := by
  have kept : ∀ c ∈ text.toList, (if c = '\n' then ['\n', '\t'] else [c]) = [c] := by
    intro c member
    have differs : c ≠ '\n' := fun same => absent (same ▸ member)
    exact if_neg differs
  rw [shiftLines, List.flatMap_def, List.map_congr_left kept, ← List.flatMap_def]
  simp

theorem newline_mem_shiftLines {text : String} :
    '\n' ∈ (shiftLines text).toList ↔ '\n' ∈ text.toList := by
  rw [shiftLines, String.toList_ofList, List.mem_flatMap]
  constructor
  · rintro ⟨c, member, copied⟩
    split at copied
    case isTrue same => exact same ▸ member
    case isFalse => exact List.mem_singleton.mp copied ▸ member
  · exact fun member => ⟨'\n', member, by simp⟩

theorem isEmpty_shiftLines (text : String) : (shiftLines text).isEmpty = text.isEmpty := by
  rw [Bool.eq_iff_iff, String.isEmpty_iff, String.isEmpty_iff, ← String.toList_inj,
    ← String.toList_inj, shiftLines, String.toList_ofList]
  cases text.toList with
  | nil => simp
  | cons c rest =>
      simp only [List.flatMap_cons]
      split <;> simp

theorem shiftLines_join (texts : List String) :
    shiftLines (String.join texts) = String.join (texts.map shiftLines) := by
  induction texts with
  | nil => rfl
  | cons text rest ih =>
      rw [List.map_cons, String.join_cons, String.join_cons, shiftLines_append, ih]

theorem shiftLines_intercalate (separator : String) (texts : List String) :
    shiftLines (separator.intercalate texts) =
      (shiftLines separator).intercalate (texts.map shiftLines) := by
  induction texts with
  | nil => rfl
  | cons text rest ih =>
      cases rest with
      | nil => simp
      | cons second rest =>
          rw [String.intercalate_cons_cons, shiftLines_append, shiftLines_append, ih]
          simp only [List.map_cons, String.intercalate_cons_cons]

/-- One level deeper there is one more tab. -/
theorem indentation_succ {depth : Int} (deep : 0 ≤ depth) :
    indentation (depth + 1) = "\t" ++ indentation depth := by
  have count : (depth + 1).toNat = depth.toNat + 1 := by omega
  rw [indentation, indentation, count, List.replicate_succ, ← String.toList_inj]
  simp

theorem shiftLines_indented {depth : Int} (deep : 0 ≤ depth) (lead : String) :
    shiftLines (lead ++ "\n" ++ indentation depth) =
      shiftLines lead ++ "\n" ++ indentation (depth + 1) := by
  have newline : shiftLines "\n" = "\n" ++ "\t" := rfl
  rw [shiftLines_append, shiftLines_append, newline,
    shiftLines_of_not_mem (newline_not_mem_indentation depth), indentation_succ deep]
  simp only [String.append_assoc]

end Text

namespace Idiom

theorem find?_shiftLines (callee : String) : find? (Text.shiftLines callee) = find? callee := by
  by_cases broken : '\n' ∈ callee.toList
  · rw [find?_eq_none_of_mark (by decide) broken,
      find?_eq_none_of_mark (by decide) (Text.newline_mem_shiftLines.mpr broken)]
  · rw [Text.shiftLines_of_not_mem broken]

theorem shiftLines_callee {callee : String} {idiom : Idiom} (found : find? callee = some idiom) :
    Text.shiftLines callee = callee := by
  refine Text.shiftLines_of_not_mem fun broken => ?_
  rw [find?_eq_none_of_mark (by decide) broken] at found
  cases found

variable {idiom : Idiom} {holder : String}

theorem pieceText_shiftLines (listed : idiom ∈ all) (held : '\n' ∉ holder.toList)
    (arguments : List String) {piece : IdiomPiece} (plain : piece.isPlain = true) :
    idiom.pieceText holder (arguments.map Text.shiftLines) piece =
      Text.shiftLines (idiom.pieceText holder arguments piece) := by
  cases piece with
  | text word => exact (Text.shiftLines_of_not_mem (Wording.oneLine.plain _ plain)).symm
  | helper =>
      exact (Text.shiftLines_of_not_mem (Wording.oneLine.plain _ (plain_of_mem listed).2.1)).symm
  | holder => exact (Text.shiftLines_of_not_mem held).symm
  | argument index =>
      simp only [pieceText, List.getElem?_map]
      cases arguments[index]? <;> rfl

theorem expand_shiftLines (listed : idiom ∈ all) (held : '\n' ∉ holder.toList) {depth : Int}
    (deep : 0 ≤ depth) (arguments : List String) :
    idiom.expand (indentation (depth + 1)) holder (arguments.map Text.shiftLines) =
      Text.shiftLines (idiom.expand (indentation depth) holder arguments) := by
  have between : Text.shiftLines (";\n" ++ indentation depth) =
      ";\n" ++ indentation (depth + 1) := Text.shiftLines_indented deep ";"
  have steps : ∀ step ∈ idiom.steps,
      String.join (step.map (idiom.pieceText holder (arguments.map Text.shiftLines))) =
        Text.shiftLines (String.join (step.map (idiom.pieceText holder arguments))) := by
    intro step stepListed
    rw [Text.shiftLines_join, List.map_map]
    refine congrArg String.join (List.map_congr_left fun piece pieceListed => ?_)
    exact pieceText_shiftLines listed held arguments
      ((plain_of_mem listed).2.2 step stepListed piece pieceListed)
  rw [expand, expand, Text.shiftLines_intercalate, between, List.map_map]
  exact congrArg _ (List.map_congr_left steps)

end Idiom

namespace Phrase

variable {profile : Profile} {depth : Int}

theorem callText_shiftLines (deep : 0 ≤ depth) (callee : String) (count : Nat)
    (arguments : RunM (List String)) :
    callText profile (depth + 1) (Text.shiftLines callee) count
        (List.map Text.shiftLines <$> arguments) =
      Text.shiftLines <$> callText profile depth callee count arguments := by
  have plain : ∀ texts : List String,
      Text.shiftLines callee ++ "(" ++ ", ".intercalate (texts.map Text.shiftLines) ++ ")" =
        Text.shiftLines (callee ++ "(" ++ ", ".intercalate texts ++ ")") := by
    intro texts
    have opening : Text.shiftLines "(" = "(" := rfl
    have closing : Text.shiftLines ")" = ")" := rfl
    have comma : Text.shiftLines ", " = ", " := rfl
    simp only [Text.shiftLines_append, Text.shiftLines_intercalate, opening, closing, comma]
  unfold callText
  rw [Idiom.find?_shiftLines]
  cases found : Idiom.find? callee with
  | none => simp only [bind_map_left, map_bind, map_pure, plain]
  | some idiom =>
      have listed : idiom ∈ Idiom.all := List.mem_of_find?_eq_some found
      simp only
      split
      case isTrue =>
        simp only [map_bind, map_pure, bind_map_left]
        congr 1
        funext _
        refine (RunM.meets_nextTemp idiom.tag).gives.bind_congr fun holder named => ?_
        obtain ⟨number, rfl⟩ := named
        have tagged := Wording.oneLine.append
          (Wording.oneLine.plain _ (Idiom.plain_of_mem listed).1)
          (Wording.oneLine.plain "_" (by decide))
        have held := Wording.oneLine.append tagged
          (Wording.oneLine.plain _ (Text.plain_number number))
        congr 1
        funext texts
        rw [Idiom.expand_shiftLines listed held deep]
      case isFalse =>
        simp only [map_bind, map_pure, bind_map_left, plain]
        rw [Idiom.shiftLines_callee found]

theorem writeApart_shiftLines {parts : List Phrase}
    (each : ∀ part ∈ parts,
      part.render profile (depth + 1) = Text.shiftLines <$> part.render profile depth) :
    writeApart profile (depth + 1) parts =
      List.map Text.shiftLines <$> writeApart profile depth parts := by
  induction parts with
  | nil => rfl
  | cons part rest ih =>
      rw [writeApart_cons, writeApart_cons, each part List.mem_cons_self,
        ih fun other member => each other (List.mem_cons_of_mem _ member)]
      simp

theorem render_join_shiftLines {parts : List Phrase}
    (each : ∀ part ∈ parts,
      part.render profile (depth + 1) = Text.shiftLines <$> part.render profile depth) :
    (join parts).render profile (depth + 1) =
      Text.shiftLines <$> (join parts).render profile depth := by
  induction parts with
  | nil => simp
  | cons part rest ih =>
      rw [render_join_cons, render_join_cons, each part List.mem_cons_self,
        ih fun other member => each other (List.mem_cons_of_mem _ member)]
      simp [Text.shiftLines_append]

/-- One level deeper a phrase gets the same text with one more tab after every new line, provided
that neither its words nor the map of types bring a new line. -/
theorem Within.render_shiftLines {phrase : Phrase} (within : phrase.Within Wording.oneLine)
    (brings : profile.types.Brings (· ≠ '\n')) (deep : 0 ≤ depth) :
    phrase.render profile (depth + 1) = Text.shiftLines <$> phrase.render profile depth := by
  have mapped : ∀ {source : String}, Wording.oneLine.holds source →
      Text.shiftLines (profile.types.map .body source) = profile.types.map .body source := by
    intro source absent
    refine Text.shiftLines_of_not_mem fun member => ?_
    exact brings.map (fun c present same => absent (same ▸ present)) _ member rfl
  induction within with
  | text holds => rw [render_text, render_text, map_pure, Text.shiftLines_of_not_mem holds]
  | type holds =>
      rw [render_type, render_type]
      refine ((RunM.meets_mapType _ _ _).gives.weaken fun text same => ?_).map_eq_self.symm
      rw [same, mapped holds]
  | unimportedType holds =>
      rw [render_unimportedType, render_unimportedType, map_pure, mapped holds]
  | discard =>
      rw [render_discard, render_discard]
      refine (RunM.meets_nextDiscard.gives.weaken fun name named => ?_).map_eq_self.symm
      obtain ⟨count, rfl⟩ := named
      exact Text.shiftLines_of_not_mem (Wording.oneLine.numbered (by decide) count)
  | note entry => simp
  | newline =>
      rw [render_newline, render_newline, map_pure]
      exact congrArg pure (Text.shiftLines_indented deep "").symm
  | join each ih => exact render_join_shiftLines ih
  | ledBy holds inner ih =>
      rw [render_ledBy, render_ledBy, ih, Functor.map_map, Functor.map_map]
      refine congrArg (· <$> _) (funext fun text => ?_)
      simp only [Text.isEmpty_shiftLines]
      split
      · rfl
      · rw [Text.shiftLines_append, Text.shiftLines_of_not_mem holds]
  | byConvention first second ihFirst ihSecond =>
      rw [render_byConvention, render_byConvention]
      split
      · exact ihFirst
      · exact ihSecond
  | call called each ihCallee ihArguments =>
      rw [render_call, render_call, ihCallee, writeApart_shiftLines ihArguments, bind_map_left,
        map_bind]
      exact bind_congr fun text => callText_shiftLines deep text _ _
  | memberWithoutName => rfl

end Phrase

end SharpToJava
