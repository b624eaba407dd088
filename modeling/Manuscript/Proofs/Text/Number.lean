import Mathlib.Tactic.Common
import Manuscript.Proofs.Text.Trim
import Manuscript.Text.Number

/-!
# Reading written numbers

A whole number that was written is read back (`unsigned?_repr`, `signed?_ofInt`). A written number
consists of digits, with a minus in front if it is negative; none of these is a blank, and so a
number stands in a field as it was written (`isBlank_of_mem_ofInt`).
-/

namespace Manuscript.Text

/-! ### Digits -/

theorem toNat_of_isDigit {c : Char} (h : c.isDigit) : 48 ≤ c.toNat ∧ c.toNat ≤ 57 :=
  Char.isDigit_iff_toNat.1 h

theorem digitValue?_of_isDigit {c : Char} (h : c.isDigit) :
    digitValue? c = some (c.toNat - 48) := by
  refine if_pos ?_
  rw [Char.le_def, Char.le_def, UInt32.le_iff_toNat_le, UInt32.le_iff_toNat_le]
  exact toNat_of_isDigit h

/-- A character with a code between that of `!` and that of `~` is no blank. -/
theorem isBlank_of_toNat {c : Char} (h : 33 ≤ c.toNat ∧ c.toNat ≤ 126) : isBlank c = false := by
  simp only [isBlank, blankRanges, List.any_cons, List.any_nil, Bool.or_false, Bool.or_eq_false_iff,
    Bool.and_eq_false_iff, decide_eq_false_iff_not]
  omega

theorem isBlank_of_isDigit {c : Char} (h : c.isDigit) : isBlank c = false := by
  have := toNat_of_isDigit h
  exact isBlank_of_toNat (by omega)

theorem isDigit_of_mem_repr {n : ℕ} {c : Char} (h : c ∈ (Nat.repr n).toList) : c.isDigit :=
  Nat.isDigit_of_mem_toDigits (by decide) (by decide) (Nat.toList_repr ▸ h)

theorem exists_repr_eq_cons (n : ℕ) : ∃ c cs, (Nat.repr n).toList = c :: cs ∧ c.isDigit := by
  have hne : (Nat.repr n).toList ≠ [] := by
    rw [Nat.toList_repr]
    exact Nat.toDigits_ne_nil
  obtain ⟨c, cs, hcs⟩ := List.exists_cons_of_ne_nil hne
  exact ⟨c, cs, hcs, isDigit_of_mem_repr (hcs ▸ List.mem_cons_self)⟩

theorem digitsFrom?_of_forall_isDigit {cs : List Char} (h : ∀ c ∈ cs, c.isDigit) (n : ℕ) :
    digitsFrom? 10 n cs = some (Nat.ofDigitChars 10 cs n) := by
  induction cs generalizing n with
  | nil => rfl
  | cons c cs ih =>
    obtain ⟨hc, hcs⟩ := List.forall_mem_cons.1 h
    have hlt : c.toNat - 48 < 10 := by
      have := toNat_of_isDigit hc
      omega
    rw [digitsFrom?, digitValue?_of_isDigit hc]
    show (if c.toNat - 48 < 10 then digitsFrom? 10 (10 * n + (c.toNat - 48)) cs else none) = _
    rw [if_pos hlt, ih hcs]
    rfl

theorem digits?_repr (n : ℕ) : digits? 10 (Nat.repr n).toList = some n := by
  obtain ⟨c, cs, hcs, -⟩ := exists_repr_eq_cons n
  have hdigits : ∀ d ∈ c :: cs, d.isDigit := fun d hd ↦ isDigit_of_mem_repr (hcs ▸ hd)
  rw [hcs, digits?, digitsFrom?_of_forall_isDigit hdigits, ← hcs, Nat.toList_repr,
    Nat.ofDigitChars_toDigits (by decide) (by decide)]

theorem repr_injective : Function.Injective Nat.repr := by
  intro m n h
  have hread := digits?_repr m
  rw [h, digits?_repr] at hread
  exact (Option.some.inj hread).symm

theorem repr_ne_empty (n : ℕ) : Nat.repr n ≠ "" := by
  obtain ⟨c, cs, hcs, -⟩ := exists_repr_eq_cons n
  intro h
  rw [h] at hcs
  cases hcs

/-! ### Numbers without and with a sign -/

theorem unsigned?_repr (n : ℕ) : unsigned? 10 (Nat.repr n).toList = some n := by
  obtain ⟨c, cs, hcs, hc⟩ := exists_repr_eq_cons n
  rw [← digits?_repr n, hcs, unsigned?]
  rintro ds heq
  obtain ⟨rfl, -⟩ := List.cons.inj heq
  cases hc

theorem signed?_ofInt (i : ℤ) : signed? 10 (ofInt i).toList = some i := by
  rw [ofInt]
  split
  · rename_i hneg
    rw [String.toList_append]
    show (digits? 10 (Nat.repr i.natAbs).toList).map (fun n ↦ -(n : ℤ)) = some i
    rw [digits?_repr]
    show some (-(i.natAbs : ℤ)) = some i
    exact congrArg some (by omega)
  · rename_i hpos
    obtain ⟨c, cs, hcs, hc⟩ := exists_repr_eq_cons i.natAbs
    have hread := unsigned?_repr i.natAbs
    rw [hcs] at hread ⊢
    rw [signed?, hread]
    · show some (i.natAbs : ℤ) = some i
      exact congrArg some (by omega)
    · rintro ds heq
      obtain ⟨rfl, -⟩ := List.cons.inj heq
      cases hc

/-- A written number has no blanks. -/
theorem isBlank_of_mem_ofInt {i : ℤ} {c : Char} (h : c ∈ (ofInt i).toList) :
    isBlank c = false := by
  rw [ofInt] at h
  split at h
  · rw [String.toList_append] at h
    rcases List.mem_append.1 h with h | h
    · obtain rfl := List.mem_singleton.1 h
      rfl
    · exact isBlank_of_isDigit (isDigit_of_mem_repr h)
  · exact isBlank_of_isDigit (isDigit_of_mem_repr h)

theorem exists_isDigit_mem_ofInt (i : ℤ) : ∃ c ∈ (ofInt i).toList, c.isDigit := by
  obtain ⟨c, cs, hcs, hc⟩ := exists_repr_eq_cons i.natAbs
  have hmem : c ∈ (Nat.repr i.natAbs).toList := hcs ▸ List.mem_cons_self
  refine ⟨c, ?_, hc⟩
  rw [ofInt]
  split
  · rw [String.toList_append]
    exact List.mem_append_right _ hmem
  · exact hmem

end Manuscript.Text
