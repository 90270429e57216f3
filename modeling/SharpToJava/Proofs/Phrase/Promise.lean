import SharpToJava.Proofs.Phrase.Rendering
import SharpToJava.Proofs.Phrase.Wording
import SharpToJava.Proofs.Run.Meets

/-!
From the words of a phrase to its text. A `Promise` is a wording that lines, braces and the map of
types keep too; what it says of the words of a phrase it then says of the text that a run writes
for it, whatever the run has recorded before.
-/

namespace SharpToJava

/-- A property of texts that everything written between the words keeps. -/
structure Promise (types : TypeMap) extends Wording where
  newline : holds "\n"
  tab : holds "\t"
  braced : ∀ {body : String}, holds body → holds ("\x7b" ++ body ++ "\x7d")
  mapped : ∀ (use : TypeUse) {source : String}, holds source → holds (types.map use source)
  lowered : ∀ {text : String}, holds text → holds (Text.lowerFirst text)

theorem Text.isDigit_of_mem_number {count : Nat} {c : Char} (member : c ∈ (toString count).toList) :
    c.isDigit = true := by
  have digits : (toString count).toList = Nat.toDigits 10 count := by
    simp [toString, Nat.repr]
  rw [digits] at member
  exact Nat.isDigit_of_mem_toDigits (by decide) (by decide) member

theorem Text.plain_number (count : Nat) : (toString count).toList.all Text.isPlain = true := by
  rw [List.all_eq_true]
  intro c member
  simp [Text.isPlain, Char.isAlphanum, Text.isDigit_of_mem_number member]

theorem Wording.numbered (wording : Wording) {stem : String}
    (plain : stem.toList.all Text.isPlain = true) (count : Nat) :
    wording.holds (stem ++ toString count) :=
  wording.append (wording.plain _ plain) (wording.plain _ (Text.plain_number count))

namespace Promise

variable {types : TypeMap} (promise : Promise types)

theorem indentation (depth : Int) : promise.holds (SharpToJava.indentation depth) := by
  unfold SharpToJava.indentation
  induction depth.toNat with
  | zero => exact promise.empty
  | succ count ih =>
      rw [List.replicate_succ, String.ofList_cons]
      exact promise.append promise.tab ih

end Promise

/-- The words that a piece brings by itself are plain. -/
def IdiomPiece.isPlain : IdiomPiece → Bool
  | .text word => word.toList.all Text.isPlain
  | .helper | .holder | .argument _ => true

theorem Idiom.plain_of_mem {idiom : Idiom} (listed : idiom ∈ Idiom.all) :
    idiom.tag.toList.all Text.isPlain = true ∧ idiom.helper.toList.all Text.isPlain = true ∧
      ∀ step ∈ idiom.steps, ∀ piece ∈ step, piece.isPlain = true := by
  have table : ∀ idiom ∈ Idiom.all,
      idiom.tag.toList.all Text.isPlain = true ∧ idiom.helper.toList.all Text.isPlain = true ∧
        ∀ step ∈ idiom.steps, ∀ piece ∈ step, piece.isPlain = true := by decide
  exact table idiom listed

namespace Promise

variable {types : TypeMap} (promise : Promise types)

theorem pieceText {idiom : Idiom} (listed : idiom ∈ Idiom.all) {holder : String}
    {arguments : List String} (held : promise.holds holder)
    (given : ∀ argument ∈ arguments, promise.holds argument) {piece : IdiomPiece}
    (plain : piece.isPlain = true) : promise.holds (idiom.pieceText holder arguments piece) := by
  cases piece with
  | text text => exact promise.plain _ plain
  | helper => exact promise.plain _ (Idiom.plain_of_mem listed).2.1
  | holder => exact held
  | argument index =>
      exact promise.getD fun text found => given text (List.mem_of_getElem? found)

theorem expand {idiom : Idiom} (listed : idiom ∈ Idiom.all) {indent holder : String}
    {arguments : List String} (indented : promise.holds indent) (held : promise.holds holder)
    (given : ∀ argument ∈ arguments, promise.holds argument) :
    promise.holds (idiom.expand indent holder arguments) := by
  have ended : promise.holds (";" ++ "\n" ++ indent) :=
    promise.append (promise.append (promise.plain _ (by decide)) promise.newline) indented
  refine promise.intercalate ended fun text member => ?_
  obtain ⟨step, stepListed, rfl⟩ := List.mem_map.mp member
  refine promise.join fun text member => ?_
  obtain ⟨piece, pieceListed, rfl⟩ := List.mem_map.mp member
  exact promise.pieceText listed held given
    ((Idiom.plain_of_mem listed).2.2 step stepListed piece pieceListed)

theorem meets_callText {profile : Profile} (depth : Int) {callee : String} (count : Nat)
    {arguments : RunM (List String)} (called : promise.holds callee)
    (given : RunM.Meets promise.fails arguments fun texts => ∀ text ∈ texts, promise.holds text) :
    RunM.Meets promise.fails (Phrase.callText profile depth callee count arguments)
      promise.holds := by
  have plain : ∀ texts : List String, (∀ text ∈ texts, promise.holds text) →
      promise.holds (callee ++ "(" ++ ", ".intercalate texts ++ ")") := fun texts each =>
    promise.append (promise.append (promise.append called (promise.plain _ (by decide)))
      (promise.intercalate (promise.plain _ (by decide)) each)) (promise.plain _ (by decide))
  unfold Phrase.callText
  split
  case h_1 => exact given.bind fun texts each => RunM.meets_pure (plain texts each)
  case h_2 idiom found =>
    have listed : idiom ∈ Idiom.all := List.mem_of_find?_eq_some found
    split
    · refine (RunM.meets_touch _).bind fun _ _ => ?_
      refine (RunM.meets_nextTemp _).bind fun holder named => ?_
      obtain ⟨number, rfl⟩ := named
      have tagged := promise.append (promise.plain _ (Idiom.plain_of_mem listed).1)
        (promise.plain "_" (by decide))
      have held := promise.append tagged (promise.plain _ (Text.plain_number number))
      exact given.bind fun texts each =>
        RunM.meets_pure (promise.expand listed (promise.indentation depth) held each)
    · refine (RunM.meets_note _ _).bind fun _ _ => ?_
      exact given.bind fun texts each => RunM.meets_pure (plain texts each)

end Promise

namespace Phrase

variable {profile : Profile} (promise : Promise profile.types)

theorem meets_join {depth : Int} {parts : List Phrase}
    (each : ∀ part ∈ parts, RunM.Meets promise.fails (part.render profile depth) promise.holds) :
    RunM.Meets promise.fails ((join parts).render profile depth) promise.holds := by
  induction parts with
  | nil =>
      rw [render_join_nil]
      exact RunM.meets_pure promise.empty
  | cons part rest ih =>
      rw [render_join_cons]
      refine (each part List.mem_cons_self).bind fun first firstHolds => ?_
      refine (ih fun later member => each later (List.mem_cons_of_mem _ member)).bind ?_
      exact fun others othersHold => RunM.meets_pure (promise.append firstHolds othersHold)

theorem meets_writeApart {depth : Int} {parts : List Phrase}
    (each : ∀ part ∈ parts, RunM.Meets promise.fails (part.render profile depth) promise.holds) :
    RunM.Meets promise.fails (writeApart profile depth parts)
      fun texts => ∀ text ∈ texts, promise.holds text := by
  induction parts with
  | nil => exact RunM.meets_pure (by simp)
  | cons part rest ih =>
      rw [writeApart_cons]
      refine (each part List.mem_cons_self).bind fun first firstHolds => ?_
      refine (ih fun later member => each later (List.mem_cons_of_mem _ member)).bind ?_
      intro others othersHold
      refine RunM.meets_pure fun text member => ?_
      rcases List.mem_cons.mp member with rfl | later
      · exact firstHolds
      · exact othersHold text later

/-- A run keeps the promise for the text of a phrase whose words keep it. -/
theorem Within.render_meets {phrase : Phrase} (within : phrase.Within promise.toWording)
    (depth : Int) : RunM.Meets promise.fails (phrase.render profile depth) promise.holds := by
  induction within with
  | text holds =>
      rw [render_text]
      exact RunM.meets_pure holds
  | type holds =>
      rw [render_type]
      refine (RunM.meets_mapType _ _ _).weaken fun text same => ?_
      rw [same]
      exact promise.mapped _ holds
  | unimportedType holds =>
      rw [render_unimportedType]
      exact RunM.meets_pure (promise.mapped _ holds)
  | discard =>
      rw [render_discard]
      refine RunM.meets_nextDiscard.weaken fun name named => ?_
      obtain ⟨count, rfl⟩ := named
      exact promise.numbered (by decide) count
  | note entry =>
      rw [render_note]
      exact (RunM.meets_note _ _).map fun _ _ => promise.empty
  | newline =>
      rw [render_newline]
      exact RunM.meets_pure (promise.append promise.newline (promise.indentation depth))
  | join each ih => exact meets_join promise ih
  | ledBy holds inner ih =>
      rw [render_ledBy]
      refine ih.map fun text textHolds => ?_
      split
      · exact promise.empty
      · exact promise.append holds textHolds
  | byConvention first second ihFirst ihSecond =>
      rw [render_byConvention]
      split
      · exact ihFirst
      · exact ihSecond
  | call called each ihCallee ihArguments =>
      rw [render_call]
      exact ihCallee.bind fun callee holds =>
        promise.meets_callText depth _ holds (meets_writeApart promise ihArguments)
  | memberWithoutName allowed =>
      rw [render_memberWithoutName]
      exact RunM.meets_throw allowed

end Phrase

end SharpToJava
