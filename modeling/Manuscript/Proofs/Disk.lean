import Manuscript.Project.Build

/-!
# What writing does to a disk, and what is listed

Making a folder adds folders and changes nothing that is there (`Extends`); writing a file changes
what lies at one place (`Wrote`). So a disk only ever gains: folders stay folders and files stay
files, though what a file holds may change (`Keeps`).

A path is followed through folders alone. That is why a path that led to a place goes on to lead
there (`Keeps.locate?_eq`), whatever is made and written afterwards, and why it makes sense to ask
whether two paths lead to the same file.

The files of a folder are listed in the order of their names, each once (`mem_fileNames_iff`,
`pairwise_fileNames`), as long as no place has two entries (`Distinct`).
-/

namespace Manuscript.Disk

variable {d d' d'' : Disk}

/-! ### What stays -/

/-- Nothing that lies on the first disk is changed on the second. -/
structure Extends (d d' : Disk) : Prop where
  here_eq : d'.here = d.here
  get?_eq : ∀ {p e}, d.get? p = some e → d'.get? p = some e

/-- Folders of the first disk are folders of the second, and files are files. -/
structure Keeps (d d' : Disk) : Prop where
  here_eq : d'.here = d.here
  folder : ∀ {p}, d.get? p = some .folder → d'.get? p = some .folder
  file : ∀ {p bytes}, d.get? p = some (.file bytes) → ∃ bytes', d'.get? p = some (.file bytes')

theorem Extends.refl (d : Disk) : d.Extends d := ⟨rfl, id⟩

theorem Extends.trans (h : d.Extends d') (h' : d'.Extends d'') : d.Extends d'' :=
  ⟨h'.here_eq.trans h.here_eq, fun hp ↦ h'.get?_eq (h.get?_eq hp)⟩

theorem Extends.keeps (h : d.Extends d') : d.Keeps d' :=
  ⟨h.here_eq, h.get?_eq, fun hp ↦ ⟨_, h.get?_eq hp⟩⟩

theorem Keeps.refl (d : Disk) : d.Keeps d := (Extends.refl d).keeps

theorem Keeps.trans (h : d.Keeps d') (h' : d'.Keeps d'') : d.Keeps d'' where
  here_eq := h'.here_eq.trans h.here_eq
  folder hp := h'.folder (h.folder hp)
  file hp := by
    obtain ⟨bytes, hbytes⟩ := h.file hp
    exact h'.file hbytes

/-! ### Following a path -/

theorem isFolderAt_iff {p : Place} : d.isFolderAt p ↔ d.get? p = some .folder :=
  decide_eq_true_iff

theorem Keeps.walk_eq (h : d.Keeps d') {p q : Place} {steps : List String}
    (hwalk : d.walk p steps = some q) : d'.walk p steps = some q := by
  induction steps generalizing p with
  | nil => exact hwalk
  | cons s steps ih =>
    rw [walk] at hwalk ⊢
    split at hwalk
    · rename_i hfolder
      rw [if_pos (isFolderAt_iff.2 (h.folder (isFolderAt_iff.1 hfolder)))]
      exact ih hwalk
    · cases hwalk

/-- A path goes on to lead where it led. -/
theorem Keeps.locate?_eq (h : d.Keeps d') {path : String} {q : Place}
    (hpath : d.locate? path = some q) : d'.locate? path = some q := by
  rw [locate?] at hpath ⊢
  split at hpath
  · rename_i husable
    rw [if_pos husable, origin, h.here_eq]
    exact h.walk_eq hpath
  · cases hpath

/-- The bytes read at a path are those of the file at the place that the path leads to. -/
theorem read?_eq_of_locate? {path : String} {q : Place} {bytes : ByteArray}
    (hpath : d.locate? path = some q) (hq : d.get? q = some (.file bytes)) :
    d.read? path = some bytes := by
  rw [read?, find?, hpath, Option.bind_some, hq]

theorem exists_of_read? {path : String} {bytes : ByteArray} (h : d.read? path = some bytes) :
    ∃ q, d.locate? path = some q ∧ d.get? q = some (.file bytes) := by
  rw [read?] at h
  split at h
  · rename_i hfind
    obtain ⟨q, hpath, hq⟩ := Option.bind_eq_some_iff.1 hfind
    obtain rfl := Option.some.inj h
    exact ⟨q, hpath, hq⟩
  · cases h

/-- A path goes on to lead to a file. -/
theorem Keeps.isFile (h : d.Keeps d') {path : String} (hpath : d.isFile path) :
    d'.isFile path := by
  obtain ⟨bytes, hbytes⟩ := Option.isSome_iff_exists.1 hpath
  obtain ⟨q, hlocate, hq⟩ := exists_of_read? hbytes
  obtain ⟨bytes', hq'⟩ := h.file hq
  rw [Disk.isFile, read?_eq_of_locate? (h.locate?_eq hlocate) hq']
  rfl

/-- A text is read from the bytes that it is written in. -/
theorem readText?_eq_some {path text : String} (h : d.read? path = some text.toUTF8) :
    d.readText? path = some text := by
  rw [readText?, h]
  exact dif_pos text.isValidUTF8

/-! ### Making a folder -/

theorem extends_put {p : Place} (h : d.get? p = none) (e : Entry) : d.Extends (d.put p e) := by
  refine ⟨rfl, fun {q x} hq ↦ ?_⟩
  have hne : q ≠ p := by
    rintro rfl
    rw [h] at hq
    cases hq
  rw [get?_put, if_neg fun hp ↦ hne hp.2, hq]

theorem extends_of_makeSteps? {p : Place} {steps : List String}
    (h : d.makeSteps? p steps = some d') : d.Extends d' := by
  induction steps generalizing d p with
  | nil =>
    obtain rfl := Option.some.inj h
    exact .refl d
  | cons s steps ih =>
    rw [makeSteps?] at h
    split at h
    · exact ih h
    · split at h
      · exact ih h
      · split at h
        · exact ih h
        · cases h
        · rename_i hnone
          exact (extends_put hnone .folder).trans (ih h)

/-- Making a folder changes nothing that is there. -/
theorem extends_of_makeFolder? {path : String} (h : d.makeFolder? path = some d') :
    d.Extends d' := by
  rw [makeFolder?] at h
  split at h
  · exact extends_of_makeSteps? h
  · cases h

theorem extends_afterAttempt (d : Disk) (folder : String) : d.Extends (d.afterAttempt folder) := by
  rw [afterAttempt]
  cases hmade : d.makeFolder? folder with
  | none => exact .refl d
  | some made => exact extends_of_makeFolder? hmade

/-! ### Writing a file -/

/-- The text has been written to the file at a place, to which the path leads. At other places
nothing that was there has changed. -/
structure Wrote (d : Disk) (path text : String) (q : Place) (d' : Disk) : Prop where
  keeps : d.Keeps d'
  locate?_eq : d'.locate? path = some q
  get?_eq : d'.get? q = some (.file text.toUTF8)
  others : ∀ {p e}, p ≠ q → d.get? p = some e → d'.get? p = some e

/-- Putting a file where no folder lies takes nothing away. -/
theorem keeps_put_file {q : Place} (h : d.get? q ≠ some .folder) (bytes : ByteArray) :
    d.Keeps (d.put q (.file bytes)) where
  here_eq := rfl
  folder {p} hp := by
    have hne : p ≠ q := by
      rintro rfl
      exact h hp
    rw [get?_put, if_neg fun hpq ↦ hne hpq.2, hp]
  file {p _} hp := by
    rw [get?_put]
    split
    · exact ⟨_, rfl⟩
    · exact ⟨_, hp⟩

theorem exists_wrote_of_write? {path text : String} (h : d.write? path text = some d') :
    ∃ q, d.Wrote path text q d' := by
  rw [write?] at h
  split at h
  · rename_i q hpath
    split at h
    · cases h
    · rename_i hfolder
      obtain rfl := Option.some.inj h
      have hq : d.get? q ≠ some .folder := mt isFolderAt_iff.2 hfolder
      -- the top is a folder, so the file does not lie there
      have hne : q ≠ [] := by
        rintro rfl
        exact hq rfl
      have hkeeps := keeps_put_file hq text.toUTF8
      refine ⟨q, hkeeps, hkeeps.locate?_eq hpath, ?_, fun {p e} hp hpe ↦ ?_⟩
      · rw [get?_put, if_pos ⟨hne, rfl⟩]
      · rw [get?_put, if_neg fun hpq ↦ hp hpq.2, hpe]
  · cases h

/-- What was written is read. -/
theorem Wrote.read?_eq {path text : String} {q : Place} (h : d.Wrote path text q d') :
    d'.read? path = some text.toUTF8 :=
  read?_eq_of_locate? h.locate?_eq h.get?_eq

theorem Extends.trans_wrote (h : d.Extends d') {path text : String} {q : Place}
    (h' : d'.Wrote path text q d'') : d.Wrote path text q d'' :=
  ⟨h.keeps.trans h'.keeps, h'.locate?_eq, h'.get?_eq, fun hp hpe ↦ h'.others hp (h.get?_eq hpe)⟩

/-- Output is written to the file with the given name in the folder. -/
theorem exists_wrote_of_writeOutput {folder file text path : String}
    (h : d.writeOutput folder file text = .ok (path, d')) :
    path = Path.join folder file ∧ ∃ q, d.Wrote path text q d' := by
  rw [writeOutput] at h
  split at h
  · cases h
  · rename_i made hmade
    dsimp only at h
    split at h
    · cases h
    · rename_i written hwritten
      obtain ⟨rfl, rfl⟩ := Prod.mk.inj (Except.ok.inj h)
      obtain ⟨q, hq⟩ := exists_wrote_of_write? hwritten
      exact ⟨rfl, q, (extends_of_makeFolder? hmade).trans_wrote hq⟩

/-! ### Listing a folder -/

/-- No place has two entries. A disk to which entries are put one after the other is so. -/
def Distinct (d : Disk) : Prop :=
  (d.entries.map Prod.fst).Nodup

theorem distinct_empty (here : Place) : (⟨[], here⟩ : Disk).Distinct :=
  List.nodup_nil

/-- Putting an entry at a place takes away the one that was there. -/
theorem Distinct.put (h : d.Distinct) (p : Place) (e : Entry) : (d.put p e).Distinct := by
  refine List.nodup_cons.2 ⟨fun hmem ↦ ?_, h.sublist (List.filter_sublist.map _)⟩
  obtain ⟨x, hx, hplace⟩ := List.mem_map.1 hmem
  exact of_decide_eq_true (List.mem_filter.1 hx).2 hplace

theorem get?_eq_some_iff (h : d.Distinct) {p : Place} (hp : p ≠ []) {e : Entry} :
    d.get? p = some e ↔ (p, e) ∈ d.entries := by
  rw [get?, if_neg hp]
  exact Table.lookup_eq_some_iff_mem h

theorem nameIn?_eq_some_iff {p : Place} {x : Place × Entry} {name : String} :
    nameIn? p x = some name ↔ ∃ bytes, x = (p ++ [name], .file bytes) := by
  obtain ⟨q, - | bytes⟩ := x
  · simp [nameIn?]
  · have hq : q = p ++ [name] ↔ q.dropLast = p ∧ q.getLast? = some name := by
      constructor
      · rintro rfl
        simp
      · rintro ⟨rfl, hlast⟩
        obtain ⟨before, rfl⟩ := List.getLast?_eq_some_iff.1 hlast
        simp
    simp [nameIn?, hq]

/-- **Just the files in a folder are listed.** -/
theorem mem_fileNames_iff (h : d.Distinct) {path name : String} :
    name ∈ d.fileNames path ↔
      ∃ p bytes, d.locate? path = some p ∧ d.get? (p ++ [name]) = some (.file bytes) := by
  rw [fileNames]
  split
  · rename_i p hpath
    rw [List.mem_mergeSort, List.mem_filterMap]
    constructor
    · rintro ⟨x, hx, hname⟩
      obtain ⟨bytes, rfl⟩ := nameIn?_eq_some_iff.1 hname
      exact ⟨p, bytes, hpath, (get?_eq_some_iff h (by simp)).2 hx⟩
    · rintro ⟨q, bytes, hq, hget⟩
      obtain rfl := Option.some.inj (hpath.symm.trans hq)
      exact ⟨_, (get?_eq_some_iff h (by simp)).1 hget, nameIn?_eq_some_iff.2 ⟨bytes, rfl⟩⟩
  · rename_i hpath
    simp [hpath]

/-- **They are listed in their order, each once.** -/
theorem pairwise_fileNames (h : d.Distinct) (path : String) :
    (d.fileNames path).Pairwise (· < ·) := by
  rw [fileNames]
  split
  · rename_i p hpath
    have hsorted : ((d.entries.filterMap (nameIn? p)).mergeSort fun a b ↦ decide (a ≤ b)).Pairwise
        (· ≤ ·) := by
      refine (List.pairwise_mergeSort (fun a b c hab hbc ↦ ?_) (fun a b ↦ ?_) _).imp
        of_decide_eq_true
      · exact decide_eq_true (String.le_trans (of_decide_eq_true hab) (of_decide_eq_true hbc))
      · simpa using String.le_total a b
    have hnodup : ((d.entries.filterMap (nameIn? p)).mergeSort fun a b ↦ decide (a ≤ b)).Nodup := by
      rw [(List.mergeSort_perm _ _).nodup_iff, List.Nodup, List.pairwise_filterMap]
      refine (List.pairwise_map.1 h).imp fun {x y} hxy a ha b hb heq ↦ ?_
      obtain ⟨bytes, rfl⟩ := nameIn?_eq_some_iff.1 ha
      obtain ⟨bytes', rfl⟩ := nameIn?_eq_some_iff.1 hb
      exact hxy (by rw [heq])
    exact (hsorted.and hnodup).imp fun hab ↦ Std.lt_of_le_of_ne hab.1 hab.2
  · exact .nil

end Manuscript.Disk
