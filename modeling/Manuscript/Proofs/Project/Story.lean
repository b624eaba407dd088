import Manuscript.Proofs.Disk
import Manuscript.Proofs.Project.Manifest
import Manuscript.Project.Load
import Mathlib.Data.List.Forall2

/-!
# Loading a story

The files of a story are those of the book and of the references of the manifest, in document order.
They are loaded one after the other until one fails, so a story is loaded exactly if every file is
there and can be read, and otherwise the first file that fails decides the error
(`loadStory_of_tree?`). What makes a file fail is said once, for one file (`ElementFails`).
-/

namespace Manuscript

/-! ### One after the other -/

section OneAfterTheOther

variable {ε α β : Type} {f : α → Except ε β}

theorem bind_eq_ok_iff {x : Except ε α} {b : β} :
    (x >>= f) = .ok b ↔ ∃ a, x = .ok a ∧ f a = .ok b := by
  cases x <;> simp [bind, Except.bind]

theorem bind_eq_error_iff {x : Except ε α} {e : ε} :
    (x >>= f) = .error e ↔ x = .error e ∨ ∃ a, x = .ok a ∧ f a = .error e := by
  cases x <;> simp [bind, Except.bind]

theorem map_eq_ok_iff {g : α → β} {x : Except ε α} {b : β} :
    x.map g = .ok b ↔ ∃ a, x = .ok a ∧ g a = b := by
  cases x <;> simp [Except.map]

theorem map_eq_error_iff {g : α → β} {x : Except ε α} {e : ε} :
    x.map g = .error e ↔ x = .error e := by
  cases x <;> simp [Except.map]

/-- All succeed, each with its result. -/
theorem mapM_eq_ok_iff {xs : List α} {ys : List β} :
    xs.mapM f = .ok ys ↔ List.Forall₂ (fun x y ↦ f x = .ok y) xs ys := by
  induction xs generalizing ys with
  | nil =>
    rw [List.forall₂_nil_left_iff]
    exact ⟨fun h ↦ (Except.ok.inj h).symm, fun h ↦ h ▸ rfl⟩
  | cons x xs ih =>
    rw [List.forall₂_cons_left_iff, List.mapM_cons]
    constructor
    · intro h
      obtain ⟨y, hy, h⟩ := bind_eq_ok_iff.1 h
      obtain ⟨zs, hzs, h⟩ := bind_eq_ok_iff.1 h
      exact ⟨y, zs, hy, ih.1 hzs, (Except.ok.inj h).symm⟩
    · rintro ⟨y, zs, hy, hzs, rfl⟩
      exact bind_eq_ok_iff.2 ⟨y, hy, bind_eq_ok_iff.2 ⟨zs, ih.2 hzs, rfl⟩⟩

/-- The first that fails decides the error. -/
theorem mapM_eq_error_iff {xs : List α} {e : ε} :
    xs.mapM f = .error e ↔ ∃ before x after, xs = before ++ x :: after ∧
      (∀ y ∈ before, ∃ z, f y = .ok z) ∧ f x = .error e := by
  induction xs with
  | nil => simp [pure, Except.pure]
  | cons x xs ih =>
    rw [List.mapM_cons, bind_eq_error_iff]
    constructor
    · rintro (hx | ⟨y, hy, h⟩)
      · exact ⟨[], x, xs, rfl, nofun, hx⟩
      · have hrest : xs.mapM f = .error e := by
          rcases bind_eq_error_iff.1 h with hrest | ⟨zs, -, h⟩
          · exact hrest
          · cases h
        obtain ⟨before, z, after, rfl, hbefore, hz⟩ := ih.1 hrest
        exact ⟨x :: before, z, after, rfl, List.forall_mem_cons.2 ⟨⟨y, hy⟩, hbefore⟩, hz⟩
    · rintro ⟨before, z, after, hsplit, hbefore, hz⟩
      cases before with
      | nil =>
        obtain ⟨rfl, rfl⟩ := List.cons.inj hsplit
        exact .inl hz
      | cons w before =>
        obtain ⟨rfl, rfl⟩ := List.cons.inj hsplit
        obtain ⟨⟨y, hy⟩, hbefore⟩ := List.forall_mem_cons.1 hbefore
        have hrest := ih.2 ⟨before, z, after, rfl, hbefore, hz⟩
        exact .inr ⟨y, hy, bind_eq_error_iff.2 (.inl hrest)⟩

/-- A row can be given results exactly if each of its members can. -/
theorem exists_forall₂_iff {R : α → β → Prop} {xs : List α} :
    (∃ ys, List.Forall₂ R xs ys) ↔ ∀ x ∈ xs, ∃ y, R x y := by
  induction xs with
  | nil => exact iff_of_true ⟨[], .nil⟩ nofun
  | cons x xs ih =>
    rw [List.forall_mem_cons, ← ih]
    constructor
    · rintro ⟨_, hx | ⟨hx, hxs⟩⟩
      exact ⟨⟨_, hx⟩, _, hxs⟩
    · rintro ⟨⟨y, hx⟩, ys, hxs⟩
      exact ⟨y :: ys, .cons hx hxs⟩

/-- Members that each belong to one of a row give back that row. -/
theorem forall₂_eq_iff {g : β → α} {P : β → Prop} {xs : List α} {ys : List β} :
    List.Forall₂ (fun x y ↦ g y = x ∧ P y) xs ys ↔ ys.map g = xs ∧ ∀ y ∈ ys, P y := by
  induction ys generalizing xs with
  | nil => simp [eq_comm]
  | cons y ys ih =>
    rw [List.forall₂_cons_right_iff, List.map_cons, List.forall_mem_cons]
    constructor
    · rintro ⟨x, xs, ⟨rfl, hy⟩, hys, rfl⟩
      obtain ⟨rfl, hall⟩ := ih.1 hys
      exact ⟨rfl, hy, hall⟩
    · rintro ⟨rfl, hy, hys⟩
      exact ⟨_, _, ⟨rfl, hy⟩, ih.2 ⟨rfl, hys⟩, rfl⟩

end OneAfterTheOther

namespace Project

variable {p : Project} {d : Disk} {ref : OrderEntry} {record : StoryRecord} {e : Error}

/-! ### One file -/

/-- The path of the file that a reference leads to. -/
def pathOf (p : Project) (ref : OrderEntry) : String :=
  p.elementPath ref.element ref.name

/-- The file of a reference is there and reads as the record. -/
def ElementReads (p : Project) (d : Disk) (ref : OrderEntry) (record : StoryRecord) : Prop :=
  ∃ text es fields, d.readText? (p.pathOf ref) = some text ∧
    FrontMatter.read (p.pathOf ref) text = .ok es ∧ StoryFields.ofEntries? es = some fields ∧
    record = ⟨ref.element, ref.name, fields⟩

/-- Why the file of a reference is no record: it is missing, its bytes are no text, its front matter
cannot be read, or the fields have the wrong form. -/
inductive ElementFails (p : Project) (d : Disk) (ref : OrderEntry) : Error → Prop
  | missing (h : ¬ d.isFile (p.pathOf ref)) :
    ElementFails p d ref
      (.missingElement (ref.element.name ++ "/" ++ ref.name ++ " (" ++ p.pathOf ref ++ ")"))
  | bytes (h : d.isFile (p.pathOf ref)) (htext : d.readText? (p.pathOf ref) = none) :
    ElementFails p d ref (.fileRead (p.pathOf ref) none)
  | frontMatter {text : String} {e : Error} (htext : d.readText? (p.pathOf ref) = some text)
    (h : FrontMatter.read (p.pathOf ref) text = .error e) : ElementFails p d ref e
  | fields {text : String} {es : List (Datum × Datum)}
    (htext : d.readText? (p.pathOf ref) = some text)
    (hes : FrontMatter.read (p.pathOf ref) text = .ok es)
    (h : StoryFields.ofEntries? es = none) : ElementFails p d ref (.yamlParse (p.pathOf ref) none)

theorem isFile_of_readText? {path text : String} (h : d.readText? path = some text) :
    d.isFile path := by
  obtain ⟨bytes, hbytes, -⟩ := Option.bind_eq_some_iff.1 h
  exact Option.isSome_iff_exists.2 ⟨bytes, hbytes⟩

theorem readFile_eq_ok_iff {path text : String} :
    readFile d path = .ok text ↔ d.readText? path = some text := by
  rw [readFile]
  cases d.readText? path <;> simp

theorem readFile_eq_error_iff {path : String} :
    readFile d path = .error e ↔ d.readText? path = none ∧ e = .fileRead path none := by
  rw [readFile]
  cases d.readText? path <;> simp [eq_comm]

/-- What the fields of a file are read from. -/
theorem readFields_eq_ok_iff {α : Type} {ofEntries? : List (Datum × Datum) → Option α}
    {path : String} {fields : α} :
    readFields ofEntries? d path = .ok fields ↔
      ∃ text es, d.readText? path = some text ∧ FrontMatter.read path text = .ok es ∧
        ofEntries? es = some fields := by
  constructor
  · intro h
    obtain ⟨text, htext, h⟩ := bind_eq_ok_iff.1 h
    obtain ⟨es, hes, h⟩ := bind_eq_ok_iff.1 h
    refine ⟨text, es, readFile_eq_ok_iff.1 htext, hes, ?_⟩
    split at h
    · rename_i hfields
      rw [hfields, Except.ok.inj h]
    · cases h
  · rintro ⟨text, es, htext, hes, hfields⟩
    refine bind_eq_ok_iff.2 ⟨text, readFile_eq_ok_iff.2 htext, bind_eq_ok_iff.2 ⟨es, hes, ?_⟩⟩
    rw [hfields]

/-- Why the fields of a file cannot be read. -/
theorem readFields_eq_error_iff {α : Type} {ofEntries? : List (Datum × Datum) → Option α}
    {path : String} :
    readFields ofEntries? d path = .error e ↔
      d.readText? path = none ∧ e = .fileRead path none ∨
      ∃ text, d.readText? path = some text ∧
        (FrontMatter.read path text = .error e ∨
          ∃ es, FrontMatter.read path text = .ok es ∧ ofEntries? es = none ∧
            e = .yamlParse path none) := by
  rw [readFields, bind_eq_error_iff, readFile_eq_error_iff]
  simp only [bind_eq_error_iff, readFile_eq_ok_iff]
  refine or_congr_right (exists_congr fun text ↦ and_congr_right fun _ ↦ or_congr_right ?_)
  refine exists_congr fun es ↦ and_congr_right fun _ ↦ ?_
  cases ofEntries? es <;> simp [eq_comm]

theorem loadElement_eq_ok_iff :
    p.loadElement d ref.element ref.name = .ok record ↔ p.ElementReads d ref record := by
  rw [loadElement]
  split
  · rw [map_eq_ok_iff]
    constructor
    · rintro ⟨fields, hfields, rfl⟩
      obtain ⟨text, es, htext, hes, hread⟩ := readFields_eq_ok_iff.1 hfields
      exact ⟨text, es, fields, htext, hes, hread, rfl⟩
    · rintro ⟨text, es, fields, htext, hes, hread, rfl⟩
      exact ⟨fields, readFields_eq_ok_iff.2 ⟨text, es, htext, hes, hread⟩, rfl⟩
  · rename_i hmissing
    constructor
    · nofun
    · rintro ⟨text, es, fields, htext, -⟩
      exact absurd (isFile_of_readText? htext) hmissing

theorem loadElement_eq_error_iff :
    p.loadElement d ref.element ref.name = .error e ↔ p.ElementFails d ref e := by
  rw [loadElement]
  split
  · rename_i hfile
    rw [map_eq_error_iff, readFields_eq_error_iff]
    constructor
    · rintro (⟨htext, rfl⟩ | ⟨text, htext, hes | ⟨es, hes, hfields, rfl⟩⟩)
      · exact .bytes hfile htext
      · exact .frontMatter htext hes
      · exact .fields htext hes hfields
    · rintro (hmissing | ⟨-, htext⟩ | ⟨htext, hes⟩ | ⟨htext, hes, hfields⟩)
      · exact absurd hfile hmissing
      · exact .inl ⟨htext, rfl⟩
      · exact .inr ⟨_, htext, .inl hes⟩
      · exact .inr ⟨_, htext, .inr ⟨_, hes, hfields, rfl⟩⟩
  · rename_i hmissing
    constructor
    · intro h
      obtain rfl := Except.error.inj h
      exact .missing hmissing
    · rintro (- | ⟨hfile, -⟩ | ⟨htext, -⟩ | ⟨htext, -, -⟩)
      · rfl
      · exact absurd hfile hmissing
      · exact absurd (isFile_of_readText? htext) hmissing
      · exact absurd (isFile_of_readText? htext) hmissing

/-! ### All files -/

/-- The reference to the book, which every story begins with. -/
def bookReference : OrderEntry := ⟨.book, "book"⟩

/-- A story is made of the book and the references of the manifest, one after the other. -/
theorem loadStory_of_loadOrder {order : List OrderEntry} (h : p.loadOrder d = .ok order) :
    p.loadStory d =
      (bookReference :: order).mapM fun ref ↦ p.loadElement d ref.element ref.name := by
  rw [loadStory, h, List.mapM_cons]
  rfl

/-- A story that is loaded has the book at least. -/
theorem ne_nil_of_loadStory {story : Story} (h : p.loadStory d = .ok story) : story ≠ [] := by
  obtain ⟨order, -, h⟩ := bind_eq_ok_iff.1 h
  obtain ⟨book, -, h⟩ := bind_eq_ok_iff.1 h
  obtain ⟨elements, -, h⟩ := bind_eq_ok_iff.1 h
  rw [← Except.ok.inj h]
  exact List.cons_ne_nil _ _

theorem loadOrder_of_tree? {text : String} {tree : Datum}
    (htext : d.readText? (Path.join p.root orderFile) = some text)
    (htree : Manifest.tree? text = some tree) :
    p.loadOrder d = .ok (Manifest.collect tree) := by
  rw [loadOrder, if_pos (isFile_of_readText? htext)]
  exact bind_eq_ok_iff.2 ⟨text, readFile_eq_ok_iff.2 htext, Manifest.read_of_tree? htree _⟩

/-- **Loading a story.** The references of the manifest are those listed in its tree, each once, in
document order. The story is loaded exactly if the files of the book and of every reference are
there and can be read, and has a record for each of them in this order. Otherwise the error is that
of the first file that fails. -/
theorem loadStory_of_tree? {text : String} {tree : Datum}
    (htext : d.readText? (Path.join p.root orderFile) = some text)
    (htree : Manifest.tree? text = some tree) :
    ∃ listing : List (Position × OrderEntry),
      (listing.Pairwise fun x y ↦ Position.Before x.1 y.1) ∧
      (listing.map Prod.fst).Nodup ∧
      (∀ pos ref, (pos, ref) ∈ listing ↔ Manifest.IsListedAt tree pos ref) ∧
      p.loadOrder d = .ok (listing.map Prod.snd) ∧
      let references := bookReference :: listing.map Prod.snd
      ((∃ story, p.loadStory d = .ok story) ↔
        ∀ ref ∈ references, ∃ record, p.ElementReads d ref record) ∧
      (∀ story, p.loadStory d = .ok story ↔
        List.Forall₂ (p.ElementReads d) references story) ∧
      ∀ e, p.loadStory d = .error e ↔ ∃ before ref after,
        references = before ++ ref :: after ∧
        (∀ r ∈ before, ∃ record, p.ElementReads d r record) ∧ p.ElementFails d ref e := by
  have horder : p.loadOrder d = .ok ((Manifest.listing tree).map Prod.snd) := by
    rw [Manifest.map_snd_listing, loadOrder_of_tree? htext htree]
  refine ⟨Manifest.listing tree, Manifest.pairwise_listing tree,
    Manifest.nodup_map_fst_listing tree, Manifest.mem_listing tree, horder, ?_⟩
  intro references
  have hok : ∀ story, p.loadStory d = .ok story ↔
      List.Forall₂ (p.ElementReads d) references story := by
    intro story
    rw [loadStory_of_loadOrder horder, mapM_eq_ok_iff]
    simp only [loadElement_eq_ok_iff]
    rfl
  refine ⟨?_, hok, ?_⟩
  · simp only [hok, exists_forall₂_iff]
  · intro e
    rw [loadStory_of_loadOrder horder, mapM_eq_error_iff]
    simp only [loadElement_eq_ok_iff, loadElement_eq_error_iff]
    rfl

/-! ### Small projects -/

/-- A file with nothing in it is a record with nothing in it. -/
theorem elementReads_of_empty (h : d.read? (p.pathOf ref) = some "".toUTF8) :
    p.ElementReads d ref ⟨ref.element, ref.name, .empty⟩ :=
  ⟨"", _, .empty, Disk.readText?_eq_some h, rfl, rfl, rfl⟩

/-- A chapter with a scene, whose files have nothing in them. -/
theorem loadStory_of_chapter_with_scene :
    let text := "book:\n  - Chapter/c:\n      - scene/s\n"
    let d : Disk :=
      ⟨[(["order.yml"], .file text.toUTF8), (["book.md"], .file "".toUTF8),
        (["chapters"], .folder), (["chapters", "c.md"], .file "".toUTF8),
        (["scenes"], .folder), (["scenes", "s.md"], .file "".toUTF8)], []⟩
    d.readText? "order.yml" = some text ∧ (∃ tree, Manifest.tree? text = some tree) ∧
      (mk "").loadOrder d = .ok [⟨.chapter, "c"⟩, ⟨.scene, "s"⟩] ∧
      (mk "").loadStory d =
        .ok [⟨.book, "book", .empty⟩, ⟨.chapter, "c", .empty⟩, ⟨.scene, "s", .empty⟩] := by
  intro text d
  have htext : d.readText? (Path.join (mk "").root orderFile) = some text :=
    Disk.readText?_eq_some rfl
  have hcollect : (Manifest.tree? text).map Manifest.collect =
      some [⟨.chapter, "c"⟩, ⟨.scene, "s"⟩] := by decide +kernel
  obtain ⟨tree, htree, hrefs⟩ := Option.map_eq_some_iff.1 hcollect
  obtain ⟨listing, -, -, -, hlisting, -, hok, -⟩ := loadStory_of_tree? htext htree
  have horder := loadOrder_of_tree? htext htree
  rw [hrefs] at horder
  have hsnd : listing.map Prod.snd = _ := Except.ok.inj (hlisting.symm.trans horder)
  rw [hsnd] at hok
  refine ⟨htext, ⟨tree, htree⟩, horder, (hok _).2 ?_⟩
  exact .cons (elementReads_of_empty rfl)
    (.cons (elementReads_of_empty rfl) (.cons (elementReads_of_empty rfl) .nil))

/-- A tag hides what is under it: the scene is a text below the root, under no key at all, and it is
not read. -/
theorem loadOrder_ne_stands_under_tag :
    let text := "book: !draft\n  - scene/s1\n"
    let d : Disk := ⟨[(["order.yml"], .file text.toUTF8)], []⟩
    ∃ tree, d.readText? "order.yml" = some text ∧ Manifest.tree? text = some tree ∧
      Manifest.StandsAt tree [.item 0] ⟨.scene, "s1"⟩ ∧
      Manifest.IsUnderReferences tree [.item 0] ∧ (mk "").loadOrder d = .ok [] := by
  intro text d
  have htext : d.readText? (Path.join (mk "").root orderFile) = some text :=
    Disk.readText?_eq_some rfl
  have hfacts : (Manifest.tree? text).map (fun tree ↦
      (((tree.node? [.item 0]).bind Datum.keyText?), Manifest.collect tree)) =
        some (some "scene/s1", []) := by decide +kernel
  obtain ⟨tree, htree, hpair⟩ := Option.map_eq_some_iff.1 hfacts
  obtain ⟨hnode, hcollect⟩ := Prod.mk.inj hpair
  obtain ⟨node, hnode, hscene⟩ := Option.bind_eq_some_iff.1 hnode
  have hread : Manifest.IsReference "scene/s1" ⟨.scene, "s1"⟩ :=
    Manifest.reference?_eq_some_iff.1 (by decide)
  have horder := loadOrder_of_tree? htext htree
  rw [hcollect] at horder
  refine ⟨tree, htext, htree, ⟨node, _, hnode, hscene, hread⟩, ?_, horder⟩
  -- the one step on the way goes into a list
  rintro before step i hbegins hi -
  obtain rfl := List.mem_singleton.1 (hbegins.subset (List.mem_append_right _ List.mem_cons_self))
  cases hi

end Project

end Manuscript
