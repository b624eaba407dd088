import Mathlib.Data.List.DropRight
import Manuscript.Proofs.Compile.Passes
import Manuscript.Proofs.Tag.Repeat
import Manuscript.Proofs.Text.Split

/-!
# What carrying out instructions changes

Carrying out the instructions of a stream takes its items one by one (`IsCarriedOut`). An
instruction leaves nothing, or one paragraph mark or line break. Every other marker is kept as it is.
An act stays one act with its verb and its flags, and its other texts may change only where an alias
is in force: where one was defined and no scene has started since (`AliasInForce`).

The frame rests on what is remembered of the items before an act: if no alias is in force behind
them, the table of aliases is empty (`aliasInForce_of_after_ne_empty`), and with the empty table an
act is left alone. A stream without instructions never comes to another table, so all of it is left
alone (`run_eq_self`); and since no instruction is left in a stream that was carried out, doing it
once more changes nothing.
-/

namespace Manuscript

/-! ### Aliases -/

/-- An instruction that defines an alias. Its argument is a short form that shows something and an
origin, with the first equals sign between them. -/
structure Instruction.DefinesAlias (i : Instruction) : Prop where
  directive : Directive.ofText? i.name = some .alias
  arg : ∃ short origin, i.arg = some (short ++ "=" ++ origin) ∧ '=' ∉ short.toList ∧
    Text.isBlankText short = false

theorem isSome_aliasOfArg?_iff {arg : String} :
    (aliasOfArg? arg).isSome ↔
      ∃ short origin, arg = short ++ "=" ++ origin ∧ '=' ∉ short.toList ∧
        Text.isBlankText short = false := by
  have hsplit : (aliasOfArg? arg).isSome ↔
      ∃ short origin, Text.splitOnce "=" arg = some (short, origin) ∧
        Text.isBlankText short = false := by
    rw [aliasOfArg?]
    rcases Text.splitOnce "=" arg with - | ⟨short, origin⟩
    · simp
    · cases hblank : Text.isBlankText short <;> simp [hblank]
  have hequals : "=".toList = ['='] := rfl
  simp only [hsplit, Text.splitOnce_eq_some_iff hequals, and_assoc]

/-- Aliases are defined by the instructions that are well formed, and by no other. -/
theorem Instruction.isSome_alias?_iff {i : Instruction} :
    i.alias?.isSome ↔ i.DefinesAlias := by
  have harg : (i.arg.bind aliasOfArg?).isSome ↔ ∃ arg, i.arg = some arg ∧
      (aliasOfArg? arg).isSome := by
    cases i.arg <;> simp
  rw [alias?]
  split
  · rename_i hdirective
    rw [harg]
    simp only [isSome_aliasOfArg?_iff]
    constructor
    · rintro ⟨-, harg, short, origin, rfl, hshort⟩
      exact ⟨hdirective, short, origin, harg, hshort⟩
    · rintro ⟨-, short, origin, harg, hshort⟩
      exact ⟨_, harg, short, origin, rfl, hshort⟩
  · rename_i hdirective
    exact ⟨fun h ↦ (Bool.false_ne_true h).elim, fun h ↦ (hdirective h.directive).elim⟩

/-- An alias is in force behind the items: one is defined behind the latest scene start. -/
def AliasInForce (before : List Action) : Prop :=
  ∃ i, .marker (.instruction i) ∈ before.rtakeWhile (· ≠ .marker .sceneStart) ∧ i.DefinesAlias

theorem aliasInForce_concat {before : List Action} {x : Action} (hx : x ≠ .marker .sceneStart)
    (h : AliasInForce before ∨ ∃ i, x = .marker (.instruction i) ∧ i.DefinesAlias) :
    AliasInForce (before ++ [x]) := by
  have hbehind : (before ++ [x]).rtakeWhile (· ≠ .marker .sceneStart) =
      before.rtakeWhile (· ≠ .marker .sceneStart) ++ [x] :=
    List.rtakeWhile_concat_pos _ _ _ (by simpa using hx)
  rcases h with ⟨i, hi, hdefines⟩ | ⟨i, rfl, hdefines⟩
  · exact ⟨i, hbehind ▸ List.mem_append_left _ hi, hdefines⟩
  · exact ⟨i, hbehind ▸ List.mem_append_right _ List.mem_cons_self, hdefines⟩

/-- **The run**: where the table of aliases is not empty, an alias is in force. -/
theorem aliasInForce_of_after_ne_empty {before : List Action}
    (h : directivePass.after .empty before ≠ .empty) : AliasInForce before := by
  induction before using List.reverseRecOn with
  | nil => exact absurd rfl h
  | append_singleton before x ih =>
    rw [Pass.after_append, Pass.after_singleton] at h
    -- an item that does not touch the table leaves in force what was in force
    have hkept (hx : x ≠ .marker .sceneStart)
        (hnext : directivePass.next (directivePass.after .empty before) x =
          directivePass.after .empty before) : AliasInForce (before ++ [x]) :=
      aliasInForce_concat hx (.inl (ih (hnext ▸ h)))
    rcases x with m | a
    · cases m with
      | sceneStart => exact absurd rfl h
      | instruction i =>
        cases halias : i.alias? with
        | none => exact hkept (by simp) (by simp [directivePass, halias])
        | some a =>
          have hdefines : i.DefinesAlias :=
            Instruction.isSome_alias?_iff.1 (by rw [halias]; rfl)
          exact aliasInForce_concat (by simp) (.inr ⟨i, rfl, hdefines⟩)
      | _ => exact hkept (by simp) rfl
    · exact hkept (by simp) rfl

/-! ### One item -/

theorem Tag.substitute_empty (text : String) : Tag.substitute "" .empty text = text := by
  have hfree : ReferenceFree "".toList (dictionary .empty) text.toList := fun e he ↦ by cases he
  rw [substitute, substituteFrom_of_referenceFree hfree, String.ofList_toList]

/-- Without aliases an act is left alone. -/
theorem Act.applyAliases_empty (a : Act) : a.applyAliases .empty = a := by
  have hsubject : ((Table.empty : Table String).get? a.subject).getD a.subject = a.subject := rfl
  simp only [applyAliases, mapText, Tag.substitute_empty, hsubject]

/-- What may be left of an item that stands behind the given ones. -/
inductive IsCarriedOut (before : List Action) : Action → List Action → Prop
  | nothing (i : Instruction) : IsCarriedOut before (.marker (.instruction i)) []
  | control (i : Instruction) {m : Marker}
      (h : m = .paragraphStart ∨ m = .paragraphEnd ∨ m = .lineBreak) :
    IsCarriedOut before (.marker (.instruction i)) [.marker m]
  | marker {m : Marker} (h : ∀ i, m ≠ .instruction i) :
    IsCarriedOut before (.marker m) [.marker m]
  | act {a b : Act} (hverb : b.verb = a.verb) (hflags : b.flags = a.flags)
      (h : b ≠ a → AliasInForce before) : IsCarriedOut before (.act a) [.act b]

/-- **One item**: what is put out for it is what may be left of it. -/
theorem isCarriedOut_out (before : List Action) (x : Action) :
    IsCarriedOut before x (directivePass.out (directivePass.after .empty before) x) := by
  rcases x with m | a
  · cases m with
    | instruction i =>
      show IsCarriedOut before _ (i.marker?.map Item.marker).toList
      cases hm : i.marker? with
      | none => exact .nothing i
      | some m => exact .control i (Instruction.marker?_eq_some hm)
    | _ => exact .marker (by simp)
  · refine .act rfl rfl fun hne ↦ aliasInForce_of_after_ne_empty fun hempty ↦ hne ?_
    rw [hempty, a.applyAliases_empty]

theorem IsCarriedOut.ne_instruction {before : List Action} {x : Action} {block : List Action}
    (h : IsCarriedOut before x block) (i : Instruction) :
    .marker (.instruction i) ∉ block := by
  intro hmem
  cases h with
  | nothing => cases hmem
  | control _ hm =>
    obtain rfl := Item.marker.inj (List.mem_singleton.1 hmem)
    simp at hm
  | marker hm => exact hm i (Item.marker.inj (List.mem_singleton.1 hmem)).symm
  | act => cases List.mem_singleton.1 hmem

/-- Without aliases, an item that is no instruction is left alone and leaves no alias. -/
theorem directivePass_of_ne_instruction {x : Action} (h : ∀ i, x ≠ .marker (.instruction i)) :
    directivePass.out .empty x = [x] ∧ directivePass.next .empty x = .empty := by
  rcases x with m | a
  · cases m with
    | instruction i => exact absurd rfl (h i)
    | _ => exact ⟨rfl, rfl⟩
  · refine ⟨?_, rfl⟩
    show [Item.act (a.applyAliases .empty)] = [.act a]
    rw [a.applyAliases_empty]

/-! ### The whole stream -/

/-- A stream without instructions is left alone, where no alias was defined before it. -/
theorem run_eq_self {actions : List Action}
    (h : ∀ i, .marker (.instruction i) ∉ actions) : directivePass.run .empty actions = actions := by
  induction actions with
  | nil => rfl
  | cons x rest ih =>
    have hx : ∀ i, x ≠ .marker (.instruction i) :=
      fun i hi ↦ h i (hi ▸ List.mem_cons_self)
    have hrest := ih fun i hi ↦ h i (List.mem_cons_of_mem x hi)
    obtain ⟨hout, hnext⟩ := directivePass_of_ne_instruction hx
    rw [Pass.run_cons, hout, hnext, hrest]
    rfl

/-- **What carrying out instructions may change, and that once is enough.** -/
theorem applyInstructions_frame (actions : List Action) :
    (∃ blocks, applyInstructions actions = blocks.flatten ∧
      List.Forall₂ (fun p block ↦ IsCarriedOut p.1 p.2 block) (actions.inits.zip actions)
        blocks) ∧
    (∀ i, .marker (.instruction i) ∉ applyInstructions actions) ∧
    applyInstructions (applyInstructions actions) = applyInstructions actions := by
  have hblocks : List.Forall₂ (fun p block ↦ IsCarriedOut p.1 p.2 block)
      (actions.inits.zip actions) (directivePass.blocks .empty actions) := by
    rw [Pass.blocks_eq_map_inits]
    exact List.forall₂_map_right_iff.2 (List.forall₂_same.2 fun q _ ↦ isCarriedOut_out q.1 q.2)
  have hrun : applyInstructions actions = directivePass.run .empty actions :=
    applyInstructionsFrom_eq_run .empty actions
  have hnone : ∀ i, .marker (.instruction i) ∉ applyInstructions actions := by
    intro i hmem
    rw [hrun, Pass.run_eq_flatMap_inits, List.mem_flatMap] at hmem
    obtain ⟨q, -, hq⟩ := hmem
    exact (isCarriedOut_out q.1 q.2).ne_instruction i hq
  refine ⟨⟨_, ?_, hblocks⟩, hnone, ?_⟩
  · rw [Pass.flatten_blocks, hrun]
  · rw [applyInstructions, applyInstructionsFrom_eq_run, run_eq_self hnone]

end Manuscript
