import Manuscript.Proofs.Project.Story
import Manuscript.Proofs.Text.Order

/-!
# Reference files in order

Loading the reference files of a kind gives one record for each of them, in the order of their file
names (`names_of_loadNames`). That is the order of the names without their ending unless one of them
goes on from another one with something that comes before the ending: a hyphen comes before the full
stop, so `a-b.md` stands in front of `a.md` but `a` in front of `a-b`
(`basenames_of_hyphenated_file`).
-/

namespace Manuscript

namespace Path

/-- The stem of a file is what stands before the ending, if that is not nothing. -/
theorem stem?_eq_some_iff {ending file stem : String} :
    stem? ending file = some stem ↔ file = stem ++ ending ∧ stem ≠ "" := by
  constructor
  · intro h
    rw [stem?] at h
    split at h
    · cases h
    · rename_i rest hne hrest
      obtain rfl := Option.some.inj h
      have hfile := List.isPrefixOf?_eq_some_iff_append_eq.1 hrest
      refine ⟨?_, fun hempty ↦ hne ?_⟩
      · rw [← String.toList_inj, ← List.reverse_inj, ← hfile]
        simp
      · simpa using hempty
    · cases h
  · rintro ⟨rfl, hne⟩
    have hrest : ending.toList.reverse.isPrefixOf? (stem ++ ending).toList.reverse =
        some stem.toList.reverse := by
      rw [List.isPrefixOf?_eq_some_iff_append_eq]
      simp
    obtain ⟨c, cs, hcs⟩ : ∃ c cs, stem.toList.reverse = c :: cs :=
      List.exists_cons_of_ne_nil (by simpa using hne)
    rw [stem?, hrest, hcs]
    dsimp only
    rw [← hcs, List.reverse_reverse, String.ofList_toList]

end Path

namespace Project

variable {p : Project} {d : Disk} {kind : NameKind} {records : List NameRecord}

/-! ### The files of a kind -/

/-- The folder of the reference files of a kind. -/
def namesFolder (p : Project) (kind : NameKind) : String :=
  Path.join p.root kind.folder

/-- A file of this name lies directly in the folder of the kind. -/
def HasNameFile (p : Project) (d : Disk) (kind : NameKind) (file : String) : Prop :=
  ∃ place bytes, d.locate? (p.namesFolder kind) = some place ∧ d.get? place = some .folder ∧
    d.get? (place ++ [file]) = some (.file bytes)

/-- The record's fields are those that its file reads as. -/
def NameReads (p : Project) (d : Disk) (r : NameRecord) : Prop :=
  let path := Path.join (p.namesFolder r.kind) (r.basename ++ ending)
  ∃ text es, d.readText? path = some text ∧ FrontMatter.read path text = .ok es ∧
    NameFields.ofEntries? es = some r.fields

/-- The names of the reference files of a kind without their ending, in the order in which they are
loaded. -/
def stemsOf (p : Project) (d : Disk) (kind : NameKind) : List String :=
  if d.isFolder (p.namesFolder kind) then
    (d.fileNames (p.namesFolder kind)).filterMap (Path.stem? ending)
  else []

/-- A record is loaded for each of the names. -/
theorem loadNames_eq_ok_iff :
    p.loadNames d kind = .ok records ↔
      records.map NameRecord.basename = p.stemsOf d kind ∧
        ∀ r ∈ records, r.kind = kind ∧ p.NameReads d r := by
  have hone : ∀ name r,
      ((readFields NameFields.ofEntries? d (Path.join (p.namesFolder kind) (name ++ ending))).map
          fun fields ↦ (⟨kind, name, fields⟩ : NameRecord)) = .ok r ↔
        r.basename = name ∧ r.kind = kind ∧ p.NameReads d r := by
    intro name r
    rw [map_eq_ok_iff]
    constructor
    · rintro ⟨fields, hfields, rfl⟩
      exact ⟨rfl, rfl, readFields_eq_ok_iff.1 hfields⟩
    · rintro ⟨rfl, rfl, hreads⟩
      exact ⟨r.fields, readFields_eq_ok_iff.2 hreads, rfl⟩
  rw [loadNames, stemsOf, ← namesFolder]
  split
  · rw [mapM_eq_ok_iff, ← forall₂_eq_iff]
    simp only [hone]
  · constructor
    · rintro ⟨⟩
      exact ⟨rfl, by simp⟩
    · rintro ⟨hnil, -⟩
      rw [List.map_eq_nil_iff.1 hnil]

theorem mem_stemsOf_iff (h : d.Distinct) {name : String} :
    name ∈ p.stemsOf d kind ↔ name ≠ "" ∧ p.HasNameFile d kind (name ++ ending) := by
  rw [stemsOf]
  split
  · rename_i hfolder
    simp only [List.mem_filterMap, Path.stem?_eq_some_iff, Disk.mem_fileNames_iff h]
    obtain ⟨place, hplace, hget⟩ := Option.bind_eq_some_iff.1 (of_decide_eq_true hfolder)
    constructor
    · rintro ⟨_, ⟨q, bytes, hq, hfile⟩, rfl, hne⟩
      obtain rfl := Option.some.inj (hplace.symm.trans hq)
      exact ⟨hne, place, bytes, hplace, hget, hfile⟩
    · rintro ⟨hne, q, bytes, hq, -, hfile⟩
      exact ⟨_, ⟨q, bytes, hq, hfile⟩, rfl, hne⟩
  · rename_i hfolder
    refine iff_of_false List.not_mem_nil ?_
    rintro ⟨-, place, bytes, hplace, hget, -⟩
    exact hfolder (decide_eq_true (Option.bind_eq_some_iff.2 ⟨place, hplace, hget⟩))

/-- The names are in the order of their files. -/
theorem pairwise_stemsOf (h : d.Distinct) :
    (p.stemsOf d kind).Pairwise fun a b ↦ a ++ ending < b ++ ending := by
  rw [stemsOf]
  split
  · refine List.pairwise_filterMap.2 ((Disk.pairwise_fileNames h _).imp ?_)
    intro x y hxy a ha b hb
    rwa [← (Path.stem?_eq_some_iff.1 ha).1, ← (Path.stem?_eq_some_iff.1 hb).1]
  · exact .nil

/-! ### The order without the ending -/

/-- A text comes before the ending in front of the ending exactly if it does alone. -/
theorem append_ending_lt_iff {s : String} (h : s ≠ "") : s ++ ending < ending ↔ s < ending := by
  show List.Lex (· < ·) (s ++ ending).toList ending.toList ↔ List.Lex (· < ·) s.toList ending.toList
  have hne : s.toList ≠ [] := by simpa using h
  have hending : ending.toList = ['.', 'm', 'd'] := rfl
  rw [String.toList_append, hending]
  generalize s.toList = cs at hne
  rcases cs with - | ⟨a, - | ⟨b, - | ⟨c, cs⟩⟩⟩
  · exact absurd rfl hne
  all_goals simp [List.cons_lex_cons_iff]

/-- Where names are in both orders, the orders agree on them. -/
theorem lt_of_append_ending_lt {names : List String}
    (hfiles : names.Pairwise fun a b ↦ a ++ ending < b ++ ending)
    (hnames : names.Pairwise (· < ·)) :
    ∀ a ∈ names, ∀ b ∈ names, a ++ ending < b ++ ending → a < b := by
  refine List.Pairwise.forall_of_forall_of_flip (fun a _ haa ↦ ?_) ?_ ?_
  · exact absurd haa (String.lt_irrefl _)
  · refine hnames.imp fun {a b} hab ↦ ?_
    exact fun _ ↦ hab
  · refine hfiles.imp fun {a b} hab ↦ ?_
    exact fun hba ↦ absurd hba (String.lt_asymm hab)

/-- Names in the order of their files are in their own order exactly if none goes on from another
one with something that comes before the ending. -/
theorem pairwise_lt_iff {names : List String}
    (h : names.Pairwise fun a b ↦ a ++ ending < b ++ ending) :
    names.Pairwise (· < ·) ↔
      ∀ name more, more ≠ "" → name ∈ names → name ++ more ∈ names → ¬ more < ending := by
  constructor
  · intro hnames name more hne hname hmore hlt
    -- the longer name stands in front of the one that it goes on from
    have hfiles : name ++ more ++ ending < name ++ ending := by
      rw [String.append_assoc, Text.append_lt_append_left_iff]
      exact (append_ending_lt_iff hne).2 hlt
    have hback := lt_of_append_ending_lt h hnames _ hmore _ hname hfiles
    have hempty : more < "" :=
      (Text.append_lt_append_left_iff name more "").1 (by rwa [String.append_empty])
    exact List.not_lex_nil hempty
  · intro hnone
    refine h.imp_of_mem fun {a b} ha hb hab ↦ ?_
    rcases Text.lt_or_exists_of_append_lt hab with hlt | ⟨more, rfl, hmore⟩
    · exact hlt
    · have hne : more ≠ "" := by
        rintro rfl
        rw [String.append_empty] at hab
        exact String.lt_irrefl _ hab
      exact absurd ((append_ending_lt_iff hne).1 hmore) (hnone b more hne hb ha)

/-- **Loading reference files.** There is a record for every file with the ending that lies directly
in the folder of the kind, read from that file, and none besides. The file names, with their ending,
increase in the order of their UTF-8 bytes. The names of the records, without it, do so if and only
if none of them goes on from another one with something that comes before the ending. -/
theorem names_of_loadNames (hd : d.Distinct) (h : p.loadNames d kind = .ok records) :
    let names := records.map NameRecord.basename
    (∀ name, name ∈ names ↔ name ≠ "" ∧ p.HasNameFile d kind (name ++ ending)) ∧
      (∀ r ∈ records, r.kind = kind ∧ p.NameReads d r) ∧
      (names.map (· ++ ending)).Pairwise Text.ComesBefore ∧
      (names.Pairwise Text.ComesBefore ↔
        ∀ name more, more ≠ "" → name ∈ names → name ++ more ∈ names →
          ¬ Text.ComesBefore more ending) := by
  intro names
  obtain ⟨hnames, hreads⟩ := loadNames_eq_ok_iff.1 h
  have hbefore : Text.ComesBefore = fun s t ↦ s < t :=
    funext₂ fun _ _ ↦ propext Text.lt_iff_comesBefore.symm
  have hfiles : names.Pairwise fun a b ↦ a ++ ending < b ++ ending := by
    rw [show names = p.stemsOf d kind from hnames]
    exact pairwise_stemsOf hd
  rw [hbefore]
  refine ⟨fun name ↦ ?_, hreads, List.pairwise_map.2 hfiles, pairwise_lt_iff hfiles⟩
  rw [show names = p.stemsOf d kind from hnames]
  exact mem_stemsOf_iff hd

/-! ### Small projects -/

/-- A file with nothing in it is a record with nothing in it. -/
theorem nameReads_of_empty {name : String}
    (h : d.read? (Path.join (p.namesFolder kind) (name ++ ending)) = some "".toUTF8) :
    p.NameReads d ⟨kind, name, .empty⟩ :=
  ⟨"", _, Disk.readText?_eq_some h, rfl, rfl⟩

/-- Where the disk has the files of a folder in their order already, their names are read off it. -/
theorem stemsOf_of_pairwise {place : Place} {files : List String}
    (hplace : d.locate? (p.namesFolder kind) = some place) (hfolder : d.get? place = some .folder)
    (hfiles : d.entries.filterMap (Disk.nameIn? place) = files) (hsorted : files.Pairwise (· ≤ ·)) :
    p.stemsOf d kind = files.filterMap (Path.stem? ending) := by
  have hthere : d.isFolder (p.namesFolder kind) :=
    decide_eq_true (Option.bind_eq_some_iff.2 ⟨place, hplace, hfolder⟩)
  have hlist : d.fileNames (p.namesFolder kind) = files := by
    rw [Disk.fileNames, hplace]
    dsimp only
    rw [hfiles, List.mergeSort_of_pairwise (hsorted.imp decide_eq_true)]
  rw [stemsOf, if_pos hthere, hlist]

/-- Two persons, beside a file with another ending. -/
theorem names_of_loadNames_two_persons :
    let d := ((((⟨[], []⟩ : Disk).put ["persons"] .folder).put ["persons", "taro.md"]
      (.file "".toUTF8)).put ["persons", "notes.txt"] (.file "".toUTF8)).put
      ["persons", "hanako.md"] (.file "".toUTF8)
    let records : List NameRecord := [⟨.person, "hanako", .empty⟩, ⟨.person, "taro", .empty⟩]
    d.Distinct ∧ (mk "").loadNames d .person = .ok records ∧
      (mk "").HasNameFile d .person "taro.md" ∧ ¬ (mk "").HasNameFile d .person "notes.md" ∧
      Text.ComesBefore "hanako.md" "taro.md" := by
  intro d records
  have hdistinct : d.Distinct :=
    ((((Disk.distinct_empty []).put _ _).put _ _).put _ _).put _ _
  have hfiles : d.entries.filterMap (Disk.nameIn? ["persons"]) =
      ["hanako.md", "notes.txt", "taro.md"] := rfl
  have hstems : (mk "").stemsOf d .person = ["hanako", "taro"] :=
    stemsOf_of_pairwise rfl rfl hfiles (by decide)
  have hload : (mk "").loadNames d .person = .ok records :=
    loadNames_eq_ok_iff.2 ⟨hstems.symm, List.forall_mem_cons.2 ⟨⟨rfl, nameReads_of_empty rfl⟩,
      List.forall_mem_singleton.2 ⟨rfl, nameReads_of_empty rfl⟩⟩⟩
  obtain ⟨hnames, -, hfiles, -⟩ := names_of_loadNames hdistinct hload
  refine ⟨hdistinct, hload, ((hnames "taro").1 (by decide)).2, fun hnotes ↦ ?_,
    List.rel_of_pairwise_cons hfiles List.mem_cons_self⟩
  exact absurd ((hnames "notes").2 ⟨by decide, hnotes⟩) (by decide)

/-- A hyphen comes before a full stop: `a-b.md` is loaded before `a.md`, though `a` comes before
`a-b`. -/
theorem basenames_of_hyphenated_file :
    let d := (((⟨[], []⟩ : Disk).put ["persons"] .folder).put ["persons", "a.md"]
      (.file "".toUTF8)).put ["persons", "a-b.md"] (.file "".toUTF8)
    ∃ records, (mk "").loadNames d .person = .ok records ∧
      records.map NameRecord.basename = ["a-b", "a"] ∧
      ¬ (records.map NameRecord.basename).Pairwise Text.ComesBefore := by
  intro d
  have hfiles : d.entries.filterMap (Disk.nameIn? ["persons"]) = ["a-b.md", "a.md"] := rfl
  have hstems : (mk "").stemsOf d .person = ["a-b", "a"] :=
    stemsOf_of_pairwise rfl rfl hfiles (by decide)
  refine ⟨[⟨.person, "a-b", .empty⟩, ⟨.person, "a", .empty⟩],
    loadNames_eq_ok_iff.2 ⟨hstems.symm, List.forall_mem_cons.2 ⟨⟨rfl, nameReads_of_empty rfl⟩,
      List.forall_mem_singleton.2 ⟨rfl, nameReads_of_empty rfl⟩⟩⟩, rfl, fun hnames ↦ ?_⟩
  have hlt : "a-b" < "a" :=
    Text.lt_iff_comesBefore.2 (List.rel_of_pairwise_cons hnames List.mem_cons_self)
  exact absurd hlt (by decide)

end Project

end Manuscript
