import Mathlib.Data.List.Forall2
import Mathlib.Data.List.Infix

/-!
# Passes over a stream

A pass reads a stream from left to right. What it puts out for an item may depend on a state, and
every item moves the state on. The passes of compilation and of the formats are of this form, each
with a small state of its own: the facets of the scene, the act before, the aliases, the paragraph.

Two facts carry the rest. A run over two streams in a row is the run over the first, followed by
the run over the second from the state that the first left behind (`run_append`); and where the
output does not depend on the state, a run is a plain flat map (`run_eq_flatMap`).
-/

namespace Manuscript

/-- A pass from items of `α` to items of `β`, with states in `σ`. -/
structure Pass (σ α β : Type) where
  /-- The state after an item. -/
  next : σ → α → σ
  /-- What is put out for an item. -/
  out : σ → α → List β

namespace Pass

variable {σ α β : Type} (p : Pass σ α β)

/-- What is put out for a stream, from a state on. -/
def run : σ → List α → List β
  | _, [] => []
  | s, x :: xs => p.out s x ++ run (p.next s x) xs

/-- What is put out for a stream, with the part of every item on its own. -/
def blocks : σ → List α → List (List β)
  | _, [] => []
  | s, x :: xs => p.out s x :: blocks (p.next s x) xs

/-- The state that a stream leaves behind. -/
def after (s : σ) (xs : List α) : σ :=
  xs.foldl p.next s

@[simp]
theorem run_nil (s : σ) : p.run s [] = [] := rfl

theorem run_cons (s : σ) (x : α) (xs : List α) :
    p.run s (x :: xs) = p.out s x ++ p.run (p.next s x) xs := rfl

@[simp]
theorem run_singleton (s : σ) (x : α) : p.run s [x] = p.out s x :=
  List.append_nil _

@[simp]
theorem after_nil (s : σ) : p.after s [] = s := rfl

theorem after_cons (s : σ) (x : α) (xs : List α) :
    p.after s (x :: xs) = p.after (p.next s x) xs := rfl

@[simp]
theorem after_singleton (s : σ) (x : α) : p.after s [x] = p.next s x := rfl

theorem after_append (s : σ) (xs ys : List α) :
    p.after s (xs ++ ys) = p.after (p.after s xs) ys :=
  List.foldl_append

theorem run_append (s : σ) (xs ys : List α) :
    p.run s (xs ++ ys) = p.run s xs ++ p.run (p.after s xs) ys := by
  induction xs generalizing s with
  | nil => rfl
  | cons x xs ih =>
    rw [List.cons_append, run_cons, ih, run_cons, List.append_assoc]
    rfl

theorem flatten_blocks (s : σ) (xs : List α) : (p.blocks s xs).flatten = p.run s xs := by
  induction xs generalizing s with
  | nil => rfl
  | cons x xs ih => rw [blocks, List.flatten_cons, ih, run_cons]

variable {p}

/-- What relates every item to its output relates a stream to its blocks. -/
theorem forall₂_blocks {R : α → List β → Prop} (h : ∀ s x, R x (p.out s x)) (s : σ)
    (xs : List α) : List.Forall₂ R xs (p.blocks s xs) := by
  induction xs generalizing s with
  | nil => exact .nil
  | cons x xs ih => exact .cons (h s x) (ih _)

/-- Where no item's output depends on the state, the run does not either. -/
theorem run_eq_flatMap {f : α → List β} {xs : List α} (h : ∀ s, ∀ x ∈ xs, p.out s x = f x)
    (s : σ) : p.run s xs = xs.flatMap f := by
  induction xs generalizing s with
  | nil => rfl
  | cons x xs ih =>
    have hx : p.out s x = f x := h s x List.mem_cons_self
    have hxs : ∀ s, ∀ y ∈ xs, p.out s y = f y := fun s y hy ↦ h s y (List.mem_cons_of_mem x hy)
    rw [run_cons, hx, ih hxs, List.flatMap_cons]

/-- What holds of the output for each item, from every state of an invariant, holds of the run's
output. -/
theorem forall_mem_run_of_invariant {I : σ → Prop} {P : β → Prop} {xs : List α}
    (hnext : ∀ s, I s → ∀ x ∈ xs, I (p.next s x))
    (hout : ∀ s, I s → ∀ x ∈ xs, ∀ y ∈ p.out s x, P y) {s : σ} (hs : I s) :
    ∀ y ∈ p.run s xs, P y := by
  induction xs generalizing s with
  | nil => simp
  | cons x xs ih =>
    intro y hy
    rcases List.mem_append.1 hy with hy | hy
    · exact hout s hs x List.mem_cons_self y hy
    · exact ih (fun t ht z hz ↦ hnext t ht z (List.mem_cons_of_mem x hz))
        (fun t ht z hz ↦ hout t ht z (List.mem_cons_of_mem x hz))
        (hnext s hs x List.mem_cons_self) y hy

/-- What holds of the output for each item holds of the run's output. -/
theorem forall_mem_run {P : β → Prop} {xs : List α} (h : ∀ s, ∀ x ∈ xs, ∀ y ∈ p.out s x, P y)
    (s : σ) : ∀ y ∈ p.run s xs, P y :=
  forall_mem_run_of_invariant (I := fun _ ↦ True) (fun _ _ _ _ ↦ trivial)
    (fun s _ ↦ h s) trivial

/-- Where what a map keeps of an item's output does not depend on the state, it can be read off the
items. -/
theorem filterMap_run {γ : Type} {f : β → Option γ} {e : α → Option γ}
    (h : ∀ s x, (p.out s x).filterMap f = (e x).toList) (s : σ) (xs : List α) :
    (p.run s xs).filterMap f = xs.filterMap e := by
  induction xs generalizing s with
  | nil => rfl
  | cons x xs ih =>
    rw [run_cons, List.filterMap_append, h, ih]
    cases hx : e x with
    | none => rw [List.filterMap_cons_none hx]; rfl
    | some y => rw [List.filterMap_cons_some hx]; rfl

/-- What is put out for every item is decided by the items before it. -/
theorem blocks_eq_map_inits (p : Pass σ α β) (s : σ) (xs : List α) :
    p.blocks s xs = (xs.inits.zip xs).map fun q ↦ p.out (p.after s q.1) q.2 := by
  induction xs generalizing s with
  | nil => rfl
  | cons x xs ih =>
    rw [blocks, ih, List.inits_cons, List.zip_cons_cons, List.map_cons, List.zip_map_left,
      List.map_map]
    rfl

theorem run_eq_flatMap_inits (p : Pass σ α β) (s : σ) (xs : List α) :
    p.run s xs = (xs.inits.zip xs).flatMap fun q ↦ p.out (p.after s q.1) q.2 := by
  rw [← flatten_blocks, blocks_eq_map_inits, List.flatMap_def]

/-! ### Items and the states in which they are met -/

variable (p) in
/-- Every item of the stream is met in a state that has the property with it. -/
def Along (P : σ → α → Prop) : σ → List α → Prop
  | _, [] => True
  | s, x :: xs => P s x ∧ Along P (p.next s x) xs

theorem along_append {P : σ → α → Prop} {s : σ} {xs ys : List α} :
    p.Along P s (xs ++ ys) ↔ p.Along P s xs ∧ p.Along P (p.after s xs) ys := by
  induction xs generalizing s with
  | nil => simp [Along]
  | cons x xs ih => rw [List.cons_append, Along, Along, ih, after_cons, and_assoc]

theorem along_of_forall_mem {P : σ → α → Prop} {xs : List α} (h : ∀ s, ∀ x ∈ xs, P s x)
    (s : σ) : p.Along P s xs := by
  induction xs generalizing s with
  | nil => trivial
  | cons x xs ih =>
    exact ⟨h s x List.mem_cons_self, ih (fun t y hy ↦ h t y (List.mem_cons_of_mem x hy)) _⟩

end Pass

end Manuscript
