import Manuscript.Compile
import Manuscript.Proofs.Pass

/-!
# The passes of compilation

Each of the three passes of compilation as a `Pass`, so that what it does to one item and what an
item does to its state are said once. The raw stream carries the facets of the scene before
(`rawPass`), the resolved stream the act before (`carryPass`), and the cleaned stream the aliases
(`directivePass`).
-/

namespace Manuscript

/-! ### The raw stream -/

/-- Records to their blocks of the raw stream. The state is the facets of the scene before. -/
def rawPass : Pass SceneHead StoryRecord RawAction where
  next previous r :=
    if r.element = .scene then resolveScene previous r.fields.scene else previous
  out previous r :=
    match r.element with
    | .scene => sceneBlock r.fields (resolveScene previous r.fields.scene)
    | e => [.marker (.title e r.fields.title)]

theorem rawActionsFrom_eq_run (head : SceneHead) (story : Story) :
    rawActionsFrom head story = rawPass.run head story := by
  induction story generalizing head with
  | nil => rfl
  | cons r rs ih =>
    rw [rawActionsFrom, Pass.run_cons]
    cases hr : r.element <;> simp [rawPass, hr] at ih ⊢ <;> exact ih _

/-! ### Carrying fields forward -/

/-- Drafts to acts. The state is the act before in the same scene. -/
def carryPass : Pass (Option Act) RawAction Action where
  next
    | previous, .marker m => if m = .sceneStart then none else previous
    | previous, .act d => (d.resolve? previous).or previous
  out
    | _, .marker m => [.marker m]
    | previous, .act d => ((d.resolve? previous).map .act).toList

theorem resolveSameFrom_eq_run (previous : Option Act) (raw : List RawAction) :
    resolveSameFrom previous raw = carryPass.run previous raw := by
  induction raw generalizing previous with
  | nil => rfl
  | cons x rest ih =>
    rw [Pass.run_cons]
    cases x with
    | marker m => rw [resolveSameFrom, ih]; rfl
    | act d =>
      rw [resolveSameFrom]
      cases hd : d.resolve? previous <;> simp [carryPass, hd] at ih ⊢ <;> exact ih _

/-- Markers pass unchanged. -/
theorem carryPass_run_markers (previous : Option Act) (ms : List Marker) :
    carryPass.run previous (ms.map .marker) = ms.map .marker := by
  induction ms generalizing previous with
  | nil => rfl
  | cons m ms ih => rw [List.map_cons, Pass.run_cons, ih]; rfl

/-! ### Carrying out instructions -/

/-- Instructions to markers, and acts to acts without aliases. The state is the aliases defined so
far in the scene. -/
def directivePass : Pass (Table String) Action Action where
  next
    | _, .marker .sceneStart => .empty
    | aliases, .marker (.instruction i) =>
      match i.alias? with
      | some (short, origin) => aliases.insert short origin
      | none => aliases
    | aliases, _ => aliases
  out
    | aliases, .act a => [.act (a.applyAliases aliases)]
    | _, .marker (.instruction i) => (i.marker?.map .marker).toList
    | _, .marker m => [.marker m]

theorem applyInstructionsFrom_eq_run (aliases : Table String) (actions : List Action) :
    applyInstructionsFrom aliases actions = directivePass.run aliases actions := by
  induction actions generalizing aliases with
  | nil => rfl
  | cons x rest ih =>
    rw [Pass.run_cons]
    cases x with
    | act a => rw [applyInstructionsFrom, ih]; rfl
    | marker m => cases m <;> simp only [applyInstructionsFrom, ih] <;> rfl

/-- The marker of an instruction that leaves one is a paragraph mark or a line break. -/
theorem Instruction.marker?_eq_some {i : Instruction} {m : Marker} (h : i.marker? = some m) :
    m = .paragraphStart ∨ m = .paragraphEnd ∨ m = .lineBreak := by
  rw [Instruction.marker?] at h
  cases hd : Directive.ofText? i.name with
  | none => simp [hd] at h
  | some d => cases d <;> simp [hd] at h <;> simp [← h]

end Manuscript
