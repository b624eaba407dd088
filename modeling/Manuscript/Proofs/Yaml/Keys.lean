import Manuscript.Yaml.Read

/-!
# Keys of a mapping

No mapping that is read has a key twice (`hasDuplicateKey_of_read?`). So a key that is set has one
entry afterwards, and all other entries are as they were (`setsKey_put`).
-/

namespace Manuscript

namespace Datum

/-! ### Setting a key -/

/-- The second list of entries is the first one with the value set at a text key: the key has this
one entry, and the entries for other keys are the same, in the same order. -/
structure SetsKey (key : String) (value : Datum) (es out : List (Datum × Datum)) : Prop where
  atKey : (out.filter fun e ↦ e.1.text? = some key) = [(.text key, value)]
  others : (out.filter fun e ↦ e.1.text? ≠ some key) = es.filter fun e ↦ e.1.text? ≠ some key

theorem text?_eq_some_iff {d : Datum} {s : String} : d.text? = some s ↔ d = .text s := by
  cases d <;> simp [text?]

theorem put_cons_of_eq (key : String) (value v : Datum) (es : List (Datum × Datum)) :
    put key value ((.text key, v) :: es) = (.text key, value) :: es := by
  rw [put]
  exact if_pos rfl

theorem put_cons_of_ne {key : String} {k : Datum} (h : k.text? ≠ some key) (value v : Datum)
    (es : List (Datum × Datum)) :
    put key value ((k, v) :: es) = (k, v) :: put key value es := by
  cases k with
  | text s => exact if_neg fun hs ↦ h (congrArg some hs)
  | _ => rfl

/-- **Setting a key** of entries that have no key twice. -/
theorem setsKey_put {es : List (Datum × Datum)} (h : hasDuplicateKey es = false) (key : String)
    (value : Datum) : SetsKey key value es (put key value es) := by
  induction es with
  | nil => constructor <;> simp [put, text?]
  | cons e es ih =>
    obtain ⟨k, v⟩ := e
    obtain ⟨hfirst, hes⟩ := Bool.or_eq_false_iff.1 h
    by_cases hk : k.text? = some key
    · obtain rfl := text?_eq_some_iff.1 hk
      have hnone : (es.filter fun e ↦ e.1.text? = some key) = [] := by
        refine List.filter_eq_nil_iff.2 fun e he hkey ↦ ?_
        have hsame := List.any_eq_false.1 hfirst e he
        rw [text?_eq_some_iff.1 (of_decide_eq_true hkey)] at hsame
        simp [same] at hsame
      rw [put_cons_of_eq]
      constructor
      · rw [List.filter_cons_of_pos (by simpa using hk), hnone]
      · rw [List.filter_cons_of_neg (by simpa using hk),
          List.filter_cons_of_neg (by simpa using hk)]
    · obtain ⟨hatKey, hothers⟩ := ih hes
      rw [put_cons_of_ne hk]
      constructor
      · rw [List.filter_cons_of_neg (by simpa using hk), hatKey]
      · rw [List.filter_cons_of_pos (by simpa using hk),
          List.filter_cons_of_pos (by simpa using hk), hothers]

end Datum

namespace Yaml

/-! ### What is read -/

section

variable {es : List (Datum × Datum)}

/-- A scalar stands for no mapping. -/
theorem scalarDatum?_ne_map (tag : Option String) (plain : Bool) (s : String) :
    scalarDatum? tag plain s ≠ some (.map es) := by
  have hfloat : floatOrText s ≠ .map es := by
    rw [floatOrText]
    split <;> exact nofun
  have huntagged : untaggedDatum? plain s ≠ some (.map es) := by
    simp only [untaggedDatum?, plainDatum?]
    grind
  have hstandard : ∀ name, standardDatum? name s ≠ some (.map es) := by
    intro name
    rw [standardDatum?]
    repeat' split
    all_goals simp
  unfold scalarDatum?
  split
  · exact huntagged
  · split
    · simp
    · exact hstandard _

theorem eq_of_collectionDatum_eq_map {tag : Option String} {d : Datum}
    (h : collectionDatum tag d = .map es) : d = .map es := by
  rw [collectionDatum] at h
  split at h
  · cases h
  · exact h

theorem Resolving.run_bind_eq_some_iff {α β : Type} {x : Resolving α} {f : α → Resolving β}
    {left left' : Nat} {b : β} :
    (x >>= f).run left = some (b, left') ↔
      ∃ a between, x.run left = some (a, between) ∧ (f a).run between = some (b, left') := by
  simp [StateT.run_bind, Option.bind_eq_some_iff]

theorem Resolving.run_liftM_eq_some {α : Type} {x : Option α} {left left' : Nat} {a : α}
    (h : (liftM x : Resolving α).run left = some (a, left')) : x = some a := by
  cases x with
  | none => cases h
  | some b => rw [(Prod.mk.inj (Option.some.inj h)).1]

theorem hasDuplicateKey_of_datumOf {anchors : List (Nat × Node)} {depth left left' : Nat}
    {n : Node} (h : (datumOf anchors depth n).run left = some (.map es, left')) :
    Datum.hasDuplicateKey es = false := by
  rw [datumOf] at h
  obtain ⟨m, between, -, h⟩ := Resolving.run_bind_eq_some_iff.1 h
  split at h
  · exact absurd (Resolving.run_liftM_eq_some h) (scalarDatum?_ne_map _ _ _)
  · split at h
    · cases h
    · -- a sequence is a list, tagged or not
      obtain ⟨ds, later, -, h⟩ := Resolving.run_bind_eq_some_iff.1 h
      cases eq_of_collectionDatum_eq_map (Prod.mk.inj (Option.some.inj h)).1
  · split at h
    · cases h
    · obtain ⟨ds, later, -, h⟩ := Resolving.run_bind_eq_some_iff.1 h
      split at h
      · cases h
      · rename_i hunique
        have hmap := eq_of_collectionDatum_eq_map (Prod.mk.inj (Option.some.inj h)).1
        rw [← Datum.map.inj hmap]
        exact Bool.eq_false_iff.2 hunique
  · cases h

/-- **No mapping that is read has a key twice.** -/
theorem hasDuplicateKey_of_read? {text : String} (h : read? text = some (.map es)) :
    Datum.hasDuplicateKey es = false := by
  obtain ⟨tokens, -, h⟩ := Option.bind_eq_some_iff.1 h
  obtain ⟨node, -, h⟩ := Option.bind_eq_some_iff.1 h
  obtain ⟨⟨d, left⟩, hrun, rfl⟩ := Option.map_eq_some_iff.1 h
  exact hasDuplicateKey_of_datumOf hrun

end

end Yaml

end Manuscript
