/-!
# Tables keyed by text

A table maps texts to values and lists its entries in key order. Texts are ordered by code point,
which is also the order of their UTF-8 bytes. The entries are kept as a list whose keys increase
strictly, so equal tables are equal lists. `get?` is the view: `get?_insert` and
`get?_extend` say what the operations do to it.
-/

namespace Manuscript

/-- A table from texts to values, listed in key order. -/
structure Table (α : Type) where
  /-- The entries, in key order. -/
  entries : List (String × α)
  /-- No key occurs twice, and the keys increase. -/
  increasing : entries.Pairwise fun a b ↦ a.1 < b.1
  deriving DecidableEq

namespace Table

variable {α : Type}

/-- The table without entries. -/
def empty : Table α := ⟨[], .nil⟩

instance : EmptyCollection (Table α) := ⟨empty⟩

instance : Inhabited (Table α) := ⟨empty⟩

/-- Puts an entry at its place in the order, in place of an entry with the same key. -/
def insertEntry (k : String) (v : α) : List (String × α) → List (String × α)
  | [] => [(k, v)]
  | e :: es =>
    if k < e.1 then (k, v) :: e :: es
    else if k = e.1 then (k, v) :: es
    else e :: insertEntry k v es

theorem lt_of_not_lt_of_ne {a b : String} (h : ¬ a < b) (hne : a ≠ b) : b < a :=
  Std.lt_of_le_of_ne (String.not_lt.1 h) hne.symm

theorem mem_insertEntry {k : String} {v : α} {es : List (String × α)} {e : String × α}
    (h : e ∈ insertEntry k v es) : e = (k, v) ∨ e ∈ es := by
  induction es with
  | nil => simpa [insertEntry] using h
  | cons d ds ih =>
    rw [insertEntry] at h
    split at h
    · simpa using h
    · split at h
      · rcases List.mem_cons.1 h with h | h
        · exact .inl h
        · exact .inr (List.mem_cons_of_mem _ h)
      · rcases List.mem_cons.1 h with h | h
        · exact .inr (h ▸ List.mem_cons_self)
        · rcases ih h with h | h
          · exact .inl h
          · exact .inr (List.mem_cons_of_mem _ h)

theorem increasing_insertEntry (k : String) (v : α) {es : List (String × α)}
    (h : es.Pairwise fun a b ↦ a.1 < b.1) :
    (insertEntry k v es).Pairwise fun a b ↦ a.1 < b.1 := by
  induction es with
  | nil => simp [insertEntry]
  | cons e es ih =>
    obtain ⟨he, hes⟩ := List.pairwise_cons.1 h
    rw [insertEntry]
    split
    · rename_i hk
      refine List.pairwise_cons.2 ⟨fun d hd ↦ ?_, h⟩
      rcases List.mem_cons.1 hd with hd | hd
      · exact hd ▸ hk
      · exact String.lt_trans hk (he d hd)
    · split
      · rename_i hk
        exact List.pairwise_cons.2 ⟨fun d hd ↦ hk ▸ he d hd, hes⟩
      · rename_i hk hne
        refine List.pairwise_cons.2 ⟨fun d hd ↦ ?_, ih hes⟩
        rcases mem_insertEntry hd with hd | hd
        · exact hd ▸ lt_of_not_lt_of_ne hk hne
        · exact he d hd

/-- The table with the value at the key; an earlier value there is replaced. -/
def insert (t : Table α) (k : String) (v : α) : Table α :=
  ⟨insertEntry k v t.entries, increasing_insertEntry k v t.increasing⟩

/-- The value at a key. -/
def get? (t : Table α) (k : String) : Option α :=
  t.entries.lookup k

/-- Whether the table has the key. -/
def contains (t : Table α) (k : String) : Bool :=
  (t.get? k).isSome

/-- The number of entries. -/
def size (t : Table α) : Nat :=
  t.entries.length

/-- Whether the table has no entries. -/
def isEmpty (t : Table α) : Bool :=
  t.entries.isEmpty

/-- The entries in key order. -/
def toList (t : Table α) : List (String × α) :=
  t.entries

/-- The table with the entries inserted from left to right, so that a later one wins. -/
def insertMany (t : Table α) (es : List (String × α)) : Table α :=
  es.foldl (fun t e ↦ t.insert e.1 e.2) t

/-- The table of a list of entries, in which a later entry wins. -/
def ofList (es : List (String × α)) : Table α :=
  empty.insertMany es

/-- The table overlaid by another, whose entries win. -/
def extend (t u : Table α) : Table α :=
  t.insertMany u.entries

/-- The table with every value mapped. -/
def map {β : Type} (f : α → β) (t : Table α) : Table β :=
  ⟨t.entries.map fun e ↦ (e.1, f e.2), List.pairwise_map.2 t.increasing⟩

/-! ### The view -/

@[simp]
theorem get?_empty (k : String) : (empty : Table α).get? k = none := rfl

theorem lookup_cons_eq_ite (a : String) (e : String × α) (es : List (String × α)) :
    (e :: es).lookup a = if a = e.1 then some e.2 else es.lookup a := by
  rw [List.lookup_cons]
  by_cases h : a = e.1
  · simp [h]
  · rw [beq_eq_false_iff_ne.2 h, if_neg h]

/-- Where no key has two entries, looking up finds just the entries. -/
theorem lookup_eq_some_iff_mem {κ : Type} [BEq κ] [LawfulBEq κ] {es : List (κ × α)}
    (h : (es.map Prod.fst).Nodup) {k : κ} {v : α} : es.lookup k = some v ↔ (k, v) ∈ es := by
  rw [List.lookup_eq_some_iff]
  constructor
  · rintro ⟨before, after, rfl, -⟩
    exact List.mem_append_right _ List.mem_cons_self
  · intro hmem
    obtain ⟨before, after, rfl⟩ := List.append_of_mem hmem
    refine ⟨before, after, rfl, fun e he ↦ bne_iff_ne.2 fun heq ↦ ?_⟩
    rw [List.map_append, List.nodup_append] at h
    exact h.2.2 e.1 (List.mem_map_of_mem he) k List.mem_cons_self heq.symm

theorem lookup_eq_none_of_lt {k : String} {es : List (String × α)} (h : ∀ e ∈ es, k < e.1) :
    es.lookup k = none := by
  induction es with
  | nil => rfl
  | cons e es ih =>
    have hne : k ≠ e.1 := fun heq ↦ String.lt_irrefl e.1 (heq ▸ h e List.mem_cons_self)
    rw [lookup_cons_eq_ite, if_neg hne]
    exact ih fun d hd ↦ h d (List.mem_cons_of_mem _ hd)

theorem lookup_insertEntry (k : String) (v : α) (a : String) (es : List (String × α)) :
    (insertEntry k v es).lookup a = if a = k then some v else es.lookup a := by
  induction es with
  | nil => rw [insertEntry, lookup_cons_eq_ite]
  | cons e es ih =>
    rw [insertEntry]
    split
    · rw [lookup_cons_eq_ite]
    · split
      · rename_i hk
        rw [lookup_cons_eq_ite, lookup_cons_eq_ite, ← hk]
        by_cases hak : a = k <;> simp [hak]
      · rename_i hk hne
        rw [lookup_cons_eq_ite, lookup_cons_eq_ite, ih]
        by_cases hak : a = k
        · rw [if_neg (hak ▸ hne)]
          simp [hak]
        · simp [hak]

theorem get?_insert (t : Table α) (k : String) (v : α) (a : String) :
    (t.insert k v).get? a = if a = k then some v else t.get? a :=
  lookup_insertEntry k v a t.entries

theorem get?_insertMany (t : Table α) (es : List (String × α)) (a : String) :
    (t.insertMany es).get? a = (es.reverse.lookup a).or (t.get? a) := by
  induction es generalizing t with
  | nil => rfl
  | cons e es ih =>
    have hcons : t.insertMany (e :: es) = (t.insert e.1 e.2).insertMany es := rfl
    rw [hcons, ih, get?_insert, List.reverse_cons, List.lookup_append, lookup_cons_eq_ite]
    by_cases hae : a = e.1 <;> simp [hae]

theorem lookup_reverse {es : List (String × α)} (h : es.Pairwise fun a b ↦ a.1 < b.1)
    (a : String) : es.reverse.lookup a = es.lookup a := by
  induction es with
  | nil => rfl
  | cons e es ih =>
    obtain ⟨he, hes⟩ := List.pairwise_cons.1 h
    rw [List.reverse_cons, List.lookup_append, ih hes, lookup_cons_eq_ite, lookup_cons_eq_ite]
    by_cases hae : a = e.1
    · rw [lookup_eq_none_of_lt (hae ▸ he)]
      simp
    · simp [hae]

/-- An overlaid key has the overlay's value, and every other key the value it had. -/
theorem get?_extend (t u : Table α) (a : String) :
    (t.extend u).get? a = (u.get? a).or (t.get? a) := by
  rw [extend, get?_insertMany, lookup_reverse u.increasing, get?, get?]

theorem get?_ofList (es : List (String × α)) (a : String) :
    (ofList es).get? a = es.reverse.lookup a := by
  rw [ofList, get?_insertMany]
  simp

/-- A mapped table has the mapped value at every key. -/
theorem get?_map {β : Type} (f : α → β) (t : Table α) (a : String) :
    (t.map f).get? a = (t.get? a).map f := by
  show (t.entries.map fun e ↦ (e.1, f e.2)).lookup a = (t.entries.lookup a).map f
  induction t.entries with
  | nil => rfl
  | cons e es ih =>
    rw [List.map_cons, lookup_cons_eq_ite, lookup_cons_eq_ite, ih]
    split <;> rfl

theorem isEmpty_iff {t : Table α} : t.isEmpty = true ↔ t.entries = [] := by
  simp [isEmpty]

end Table

end Manuscript
