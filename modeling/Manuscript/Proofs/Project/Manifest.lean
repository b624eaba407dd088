import Manuscript.Project.Manifest
import Manuscript.Proofs.Text.Split
import Mathlib.Data.List.Lex

/-!
# The references of a manifest

A manifest is read as a tree of nodes. A node is named by its position: the steps that lead to it
from the root, into the item of a list, or into the key or the value of an entry of a mapping. Tags
do not hide what is in a node. Positions are in document order: a node comes before what lies in it,
and a key before its value.

So what it means for a reference to stand somewhere is said without reading the tree through
(`StandsAt`), and so is what keeps a reference from being listed: a key on the way to it that is no
reference, or a tag, other than on a key (`IsListedAt`). The manifest lists these references
(`mem_listing`), each once (`nodup_map_fst_listing`) and in document order (`pairwise_listing`).
-/

namespace Manuscript

/-! ### Positions -/

/-- A step down from a node: into an item of a list, or into the key or the value of an entry of a
mapping. -/
inductive Step where
  | item (i : Nat)
  | key (i : Nat)
  | value (i : Nat)
  deriving DecidableEq, Repr

/-- The steps from the root to a node. -/
abbrev Position := List Step

namespace Step

/-- The entry of a mapping that a step goes into. -/
def entry? : Step → Option Nat
  | item _ => none
  | key i => some i
  | value i => some i

/-- The order of the nodes in one node. -/
def rank : Step → Nat
  | item i => i
  | key i => 2 * i
  | value i => 2 * i + 1

end Step

/-- Document order: what a node holds comes behind it, and it is decided where two positions part.
-/
def Position.Before (p q : Position) : Prop :=
  List.Lex (fun s t ↦ s.rank < t.rank) p q

/-- A position comes before those below it, and what lies below one node before what lies below a
later one. -/
theorem Position.before_iff {p q : Position} :
    p.Before q ↔ (∃ s rest, q = p ++ s :: rest) ∨
      ∃ common s t rest rest', p = common ++ s :: rest ∧ q = common ++ t :: rest' ∧
        s.rank < t.rank := by
  constructor
  · intro h
    induction h with
    | nil => exact .inl ⟨_, _, rfl⟩
    | rel hlt => exact .inr ⟨[], _, _, _, _, rfl, rfl, hlt⟩
    | @cons u _ _ _ ih =>
      rcases ih with ⟨s, rest, rfl⟩ | ⟨common, s, t, rest, rest', rfl, rfl, hlt⟩
      · exact .inl ⟨s, rest, rfl⟩
      · exact .inr ⟨u :: common, s, t, rest, rest', rfl, rfl, hlt⟩
  · rintro (⟨s, rest, rfl⟩ | ⟨common, s, t, rest, rest', rfl, rfl, hlt⟩)
    · induction p with
      | nil => exact List.Lex.nil
      | cons u p ih => exact List.Lex.cons ih
    · induction common with
      | nil => exact List.Lex.rel hlt
      | cons u common ih => exact List.Lex.cons ih

/-- No position comes before itself. -/
theorem Position.Before.ne {p q : Position} (h : p.Before q) : p ≠ q := by
  induction h with
  | nil => exact List.cons_ne_nil _ _ |>.symm
  | cons _ ih => exact fun heq ↦ ih (List.cons.inj heq).2
  | rel hlt =>
    rintro heq
    rw [(List.cons.inj heq).1] at hlt
    exact hlt.false

namespace Datum

/-- The node that a step leads to. -/
def child? (d : Datum) : Step → Option Datum
  | .item i =>
    match d.untag with
    | .list items => items[i]?
    | _ => none
  | .key i =>
    match d.untag with
    | .map es => es[i]?.map Prod.fst
    | _ => none
  | .value i =>
    match d.untag with
    | .map es => es[i]?.map Prod.snd
    | _ => none

/-- The node at a position. -/
def node? : Datum → Position → Option Datum
  | d, [] => some d
  | d, s :: pos => (d.child? s).bind fun c ↦ node? c pos

@[simp]
theorem child?_item (items : List Datum) (i : Nat) :
    (list items).child? (.item i) = items[i]? := rfl

@[simp]
theorem child?_key (es : List (Datum × Datum)) (i : Nat) :
    (map es).child? (.key i) = es[i]?.map Prod.fst := rfl

@[simp]
theorem child?_value (es : List (Datum × Datum)) (i : Nat) :
    (map es).child? (.value i) = es[i]?.map Prod.snd := rfl

/-- Whether the node itself has a tag. -/
def isTagged : Datum → Bool
  | tagged _ _ => true
  | _ => false

end Datum

namespace Manifest

variable {root d : Datum} {pos : Position} {ref : OrderEntry}

/-! ### References by their position -/

/-- A text is a reference if it has the form `kind/name` between blanks, with the kind in any case
of ASCII letters. The book is not referred to, and there must be a name. -/
def IsReference (text : String) (ref : OrderEntry) : Prop :=
  ref.element ≠ .book ∧ ref.name ≠ "" ∧
    ∃ kind, Text.asciiLower kind = ref.element.name ∧ Text.trim text = kind ++ "/" ++ ref.name

/-- A reference stands at a position: the node is a text, and that is the reference. -/
def StandsAt (root : Datum) (pos : Position) (ref : OrderEntry) : Prop :=
  ∃ d text, root.node? pos = some d ∧ d.keyText? = some text ∧ IsReference text ref

/-- References stand at all keys that a position lies under. A position in an entry of a mapping
lies under the entry's key, unless it is that of the key itself. -/
def IsUnderReferences (root : Datum) (pos : Position) : Prop :=
  ∀ before step i, before ++ [step] <+: pos → step.entry? = some i → before ++ [.key i] ≠ pos →
    ∃ ref, StandsAt root (before ++ [.key i]) ref

/-- Neither the node at a position nor a node that it lies in has a tag, apart from keys. -/
def IsUntagged (root : Datum) (pos : Position) : Prop :=
  ∀ before d, before <+: pos → (∀ i, before.getLast? ≠ some (.key i)) →
    root.node? before = some d → d.isTagged = false

/-- A reference is listed that stands under references alone and is not hidden by a tag. -/
structure IsListedAt (root : Datum) (pos : Position) (ref : OrderEntry) : Prop where
  stands : StandsAt root pos ref
  under : IsUnderReferences root pos
  untagged : IsUntagged root pos

/-! ### Reading one reference -/

theorem not_mem_of_asciiLower_eq_name {kind : String} {e : Element}
    (h : Text.asciiLower kind = e.name) : '/' ∉ kind.toList := by
  intro hslash
  have hlower : '/' ∈ (Text.asciiLower kind).toList := by
    rw [Text.asciiLower, String.toList_ofList]
    exact List.mem_map.2 ⟨'/', hslash, by decide⟩
  rw [h] at hlower
  cases e <;> exact absurd hlower (by decide)

theorem ofText?_eq_some_iff {kind : String} {e : Element} :
    Element.ofText? kind = some e ↔ Text.asciiLower kind = e.name := by
  constructor
  · intro h
    have hname := List.find?_some h
    exact (of_decide_eq_true hname).symm
  · intro h
    rw [Element.ofText?, h]
    cases e <;> decide

/-- The reference that is read from a text. -/
theorem reference?_eq_some_iff {text : String} :
    reference? text = some ref ↔ IsReference text ref := by
  have hslash : "/".toList = ['/'] := rfl
  constructor
  · intro h
    rw [reference?] at h
    obtain ⟨⟨kind, name⟩, hsplit, h⟩ := Option.bind_eq_some_iff.1 h
    obtain ⟨e, he, h⟩ := Option.bind_eq_some_iff.1 h
    split at h
    · cases h
    · rename_i hallowed
      obtain rfl := Option.some.inj h
      obtain ⟨hbook, hname⟩ := not_or.1 hallowed
      exact ⟨hbook, hname, kind, ofText?_eq_some_iff.1 he,
        ((Text.splitOnce_eq_some_iff hslash).1 hsplit).1⟩
  · rintro ⟨hbook, hname, kind, hkind, htext⟩
    have hsplit : Text.splitOnce "/" (Text.trim text) = some (kind, ref.name) :=
      (Text.splitOnce_eq_some_iff hslash).2 ⟨htext, not_mem_of_asciiLower_eq_name hkind⟩
    rw [reference?, hsplit, Option.bind_eq_bind, Option.bind_some]
    simp [ofText?_eq_some_iff.2 hkind, hbook, hname]

/-! ### Nodes one step down -/

theorem standsAt_cons {step : Step} (h : root.child? step = some d) :
    StandsAt root (step :: pos) ref ↔ StandsAt d pos ref := by
  simp only [StandsAt, Datum.node?, h, Option.bind_some]

theorem standsAt_nil :
    StandsAt root [] ref ↔ root.keyText?.bind reference? = some ref := by
  rw [Option.bind_eq_some_iff]
  simp only [StandsAt, Datum.node?, Option.some.injEq, reference?_eq_some_iff, exists_and_left,
    exists_eq_left']

theorem exists_child_of_standsAt {step : Step} (h : StandsAt root (step :: pos) ref) :
    ∃ d, root.child? step = some d := by
  obtain ⟨d, text, hd, -⟩ := h
  obtain ⟨c, hc, -⟩ := Option.bind_eq_some_iff.1 hd
  exact ⟨c, hc⟩

/-- Nothing stands below a node that has nothing below it. -/
theorem eq_nil_of_standsAt (hroot : ∀ step, root.child? step = none)
    (h : StandsAt root pos ref) : pos = [] := by
  cases pos with
  | nil => rfl
  | cons step pos =>
    obtain ⟨d, hd⟩ := exists_child_of_standsAt h
    rw [hroot step] at hd
    cases hd

theorem isUnderReferences_nil : IsUnderReferences root [] := by
  intro before step i hbegins
  exact absurd (List.prefix_nil.1 hbegins) (by simp)

theorem isUnderReferences_cons {step : Step} (h : root.child? step = some d) :
    IsUnderReferences root (step :: pos) ↔
      (∀ i, step.entry? = some i → [.key i] ≠ step :: pos →
        ∃ ref, StandsAt root [.key i] ref) ∧ IsUnderReferences d pos := by
  constructor
  · intro hunder
    refine ⟨fun i hi hne ↦ hunder [] step i (List.cons_prefix_cons.2 ⟨rfl, List.nil_prefix⟩) hi hne,
      fun before s i hbegins hi hne ↦ ?_⟩
    obtain ⟨ref, href⟩ := hunder (step :: before) s i (List.cons_prefix_cons.2 ⟨rfl, hbegins⟩) hi
      (fun heq ↦ hne (List.cons.inj heq).2)
    exact ⟨ref, (standsAt_cons h).1 href⟩
  · rintro ⟨hstep, hunder⟩ before s i hbegins hi hne
    cases before with
    | nil =>
      obtain ⟨rfl, -⟩ := List.cons_prefix_cons.1 hbegins
      exact hstep i hi hne
    | cons t before =>
      obtain ⟨rfl, hrest⟩ := List.cons_prefix_cons.1 hbegins
      obtain ⟨ref, href⟩ := hunder before s i hrest hi (fun heq ↦ hne (congrArg (t :: ·) heq))
      exact ⟨ref, (standsAt_cons h).2 href⟩

theorem isUntagged_nil : IsUntagged root [] ↔ root.isTagged = false := by
  constructor
  · intro h
    exact h [] root List.prefix_rfl nofun rfl
  · rintro h before d hbegins - hd
    obtain rfl := List.prefix_nil.1 hbegins
    obtain rfl := Option.some.inj hd
    exact h

theorem isUntagged_cons {step : Step} (h : root.child? step = some d)
    (hroot : root.isTagged = false) (hstep : ∀ i, step ≠ .key i) :
    IsUntagged root (step :: pos) ↔ IsUntagged d pos := by
  -- behind a step that goes into no key, the same positions are those of keys
  have hlast : ∀ before : Position, (∀ i, (step :: before).getLast? ≠ some (.key i)) ↔
      ∀ i, before.getLast? ≠ some (.key i) := by
    intro before
    cases before with
    | nil => simp [hstep]
    | cons t before => rw [List.getLast?_cons_cons]
  constructor
  · intro huntagged before c hbegins hbefore hc
    refine huntagged (step :: before) c (List.cons_prefix_cons.2 ⟨rfl, hbegins⟩)
      ((hlast before).2 hbefore) ?_
    rw [Datum.node?, h, Option.bind_some, hc]
  · intro huntagged before c hbegins hbefore hc
    cases before with
    | nil =>
      obtain rfl := Option.some.inj hc
      exact hroot
    | cons t before =>
      obtain ⟨rfl, hrest⟩ := List.cons_prefix_cons.1 hbegins
      rw [Datum.node?, h, Option.bind_some] at hc
      exact huntagged before c hrest ((hlast before).1 hbefore) hc

/-! ### What is listed in a node -/

/-- Nothing is listed in a node that has a tag. -/
theorem not_isListedAt_tagged {tag : String} : ¬ IsListedAt (.tagged tag d) pos ref := by
  intro h
  have htagged := h.untagged [] _ List.nil_prefix nofun rfl
  cases htagged

/-- Nothing is listed in a scalar that is not a text. -/
theorem not_isListedAt_of_scalar (hchild : ∀ step, root.child? step = none)
    (htext : root.keyText? = none) : ¬ IsListedAt root pos ref := by
  intro h
  obtain rfl := eq_nil_of_standsAt hchild h.stands
  obtain ⟨d, text, hd, hkey, -⟩ := h.stands
  obtain rfl := Option.some.inj hd
  rw [htext] at hkey
  cases hkey

theorem child?_text (text : String) (step : Step) : (Datum.text text).child? step = none := by
  cases step <;> rfl

/-- A text is listed if it is a reference. -/
theorem isListedAt_text {text : String} :
    IsListedAt (.text text) pos ref ↔ pos = [] ∧ IsReference text ref := by
  constructor
  · intro h
    obtain rfl := eq_nil_of_standsAt (child?_text text) h.stands
    obtain ⟨d, text', hd, htext, href⟩ := h.stands
    obtain rfl := Option.some.inj hd
    obtain rfl := Option.some.inj htext
    exact ⟨rfl, href⟩
  · rintro ⟨rfl, href⟩
    exact ⟨⟨_, text, rfl, rfl, href⟩, isUnderReferences_nil, isUntagged_nil.2 rfl⟩

/-- Where a step goes into no key, what is listed below is what is listed in the node there, if the
step is under a reference. -/
theorem isListedAt_cons {step : Step} (h : root.child? step = some d)
    (hroot : root.isTagged = false) (hstep : ∀ i, step ≠ .key i) :
    IsListedAt root (step :: pos) ref ↔
      (∀ i, step.entry? = some i → ∃ kind, StandsAt root [.key i] kind) ∧
        IsListedAt d pos ref := by
  have hne : ∀ i, [.key i] ≠ step :: pos := fun i heq ↦ hstep i (List.cons.inj heq).1.symm
  constructor
  · rintro ⟨hstands, hunder, huntagged⟩
    obtain ⟨hkey, hunder⟩ := (isUnderReferences_cons h).1 hunder
    exact ⟨fun i hi ↦ hkey i hi (hne i), (standsAt_cons h).1 hstands, hunder,
      (isUntagged_cons h hroot hstep).1 huntagged⟩
  · rintro ⟨hkey, hstands, hunder, huntagged⟩
    exact ⟨(standsAt_cons h).2 hstands,
      (isUnderReferences_cons h).2 ⟨fun i hi _ ↦ hkey i hi, hunder⟩,
      (isUntagged_cons h hroot hstep).2 huntagged⟩

/-- In a list is listed what is listed in its items. -/
theorem isListedAt_list {items : List Datum} :
    IsListedAt (.list items) pos ref ↔
      ∃ i d, items[i]? = some d ∧ ∃ rest, pos = .item i :: rest ∧ IsListedAt d rest ref := by
  constructor
  · intro h
    cases pos with
    | nil => cases standsAt_nil.1 h.stands
    | cons step rest =>
      obtain ⟨d, hd⟩ := exists_child_of_standsAt h.stands
      cases step with
      | item i => exact ⟨i, d, hd, rest, rfl, ((isListedAt_cons hd rfl nofun).1 h).2⟩
      | key i => cases hd
      | value i => cases hd
  · rintro ⟨i, d, hd, rest, rfl, h⟩
    have hchild := (Datum.child?_item items i).trans hd
    exact (isListedAt_cons hchild rfl nofun).2 ⟨nofun, h⟩

theorem standsAt_key {es : List (Datum × Datum)} {i : Nat} {k v : Datum}
    (h : es[i]? = some (k, v)) :
    StandsAt (.map es) [.key i] ref ↔ k.keyText?.bind reference? = some ref := by
  have hk : (Datum.map es).child? (.key i) = some k := by rw [Datum.child?_key, h, Option.map_some]
  rw [standsAt_cons hk, standsAt_nil]

/-- A key that is a text has nothing below it. -/
theorem child?_of_keyText? {k : Datum} {text : String} (h : k.keyText? = some text)
    (step : Step) : k.child? step = none := by
  rw [Datum.keyText?] at h
  split at h
  · rename_i hk
    cases step <;> rw [Datum.child?, hk]
  · cases h

theorem isListedAt_value {es : List (Datum × Datum)} {i : Nat} {k v : Datum}
    (h : es[i]? = some (k, v)) :
    IsListedAt (.map es) (.value i :: pos) ref ↔
      (∃ kind, k.keyText?.bind reference? = some kind) ∧ IsListedAt v pos ref := by
  have hv : (Datum.map es).child? (.value i) = some v := by
    rw [Datum.child?_value, h, Option.map_some]
  rw [isListedAt_cons hv rfl nofun]
  refine and_congr_left fun _ ↦ ?_
  constructor
  · intro hkey
    obtain ⟨kind, hkind⟩ := hkey i rfl
    exact ⟨kind, (standsAt_key h).1 hkind⟩
  · rintro ⟨kind, hkind⟩ j hj
    obtain rfl := Option.some.inj hj
    exact ⟨kind, (standsAt_key h).2 hkind⟩

/-- At a key that is a reference, that is listed, and nothing below the key. -/
theorem isListedAt_key {es : List (Datum × Datum)} {i : Nat} {k v : Datum}
    (h : es[i]? = some (k, v)) :
    IsListedAt (.map es) (.key i :: pos) ref ↔
      pos = [] ∧ k.keyText?.bind reference? = some ref := by
  have hk : (Datum.map es).child? (.key i) = some k := by rw [Datum.child?_key, h, Option.map_some]
  constructor
  · rintro ⟨hstands, hunder, -⟩
    cases pos with
    | nil => exact ⟨rfl, (standsAt_key h).1 hstands⟩
    | cons step pos =>
      -- the key would be a reference, so a text
      obtain ⟨kind, hkind⟩ := ((isUnderReferences_cons hk).1 hunder).1 i rfl (by simp)
      obtain ⟨text, htext, -⟩ := Option.bind_eq_some_iff.1 ((standsAt_key h).1 hkind)
      obtain ⟨d, hd⟩ := exists_child_of_standsAt ((standsAt_cons hk).1 hstands)
      rw [child?_of_keyText? htext] at hd
      cases hd
  · rintro ⟨rfl, hkey⟩
    refine ⟨(standsAt_key h).2 hkey, ?_, ?_⟩
    · refine (isUnderReferences_cons hk).2 ⟨fun j hj hne ↦ ?_, isUnderReferences_nil⟩
      obtain rfl := Option.some.inj hj
      exact absurd rfl hne
    · intro before d hbegins hbefore hd
      rcases List.prefix_cons_iff.1 hbegins with rfl | ⟨rest, rfl, hrest⟩
      · obtain rfl := Option.some.inj hd
        rfl
      · obtain rfl := List.prefix_nil.1 hrest
        exact absurd rfl (hbefore i)

/-- In a mapping the keys that are references are listed, and what is listed in their values. -/
theorem isListedAt_map {es : List (Datum × Datum)} :
    IsListedAt (.map es) pos ref ↔
      ∃ i e, es[i]? = some e ∧ ∃ kind, e.1.keyText?.bind reference? = some kind ∧
        (pos = [.key i] ∧ ref = kind ∨
          ∃ rest, pos = .value i :: rest ∧ IsListedAt e.2 rest ref) := by
  constructor
  · intro h
    cases pos with
    | nil => cases standsAt_nil.1 h.stands
    | cons step rest =>
      obtain ⟨d, hd⟩ := exists_child_of_standsAt h.stands
      cases step with
      | item i => cases hd
      | key i =>
        obtain ⟨⟨k, v⟩, he, -⟩ := Option.map_eq_some_iff.1 hd
        obtain ⟨rfl, hkey⟩ := (isListedAt_key he).1 h
        exact ⟨i, (k, v), he, ref, hkey, .inl ⟨rfl, rfl⟩⟩
      | value i =>
        obtain ⟨⟨k, v⟩, he, -⟩ := Option.map_eq_some_iff.1 hd
        obtain ⟨⟨kind, hkind⟩, hv⟩ := (isListedAt_value he).1 h
        exact ⟨i, (k, v), he, kind, hkind, .inr ⟨rest, rfl, hv⟩⟩
  · rintro ⟨i, ⟨k, v⟩, he, kind, hkind, ⟨rfl, rfl⟩ | ⟨rest, rfl, hv⟩⟩
    · exact (isListedAt_key he).2 ⟨rfl, hkind⟩
    · exact (isListedAt_value he).2 ⟨⟨kind, hkind⟩, hv⟩

/-! ### The listing -/

mutual

/-- The references listed in a node, with their positions. -/
def listing : Datum → List (Position × OrderEntry)
  | .list items => listingItems 0 items
  | .text s => (reference? s).toList.map fun ref ↦ ([], ref)
  | .map entries => listingEntries 0 entries
  | .null => []
  | .bool _ => []
  | .int _ => []
  | .float _ => []
  | .tagged _ _ => []

/-- The references listed in the items of a list, from the given place on. -/
def listingItems (i : Nat) : List Datum → List (Position × OrderEntry)
  | [] => []
  | d :: ds => (listing d).map (Prod.map (.item i :: ·) id) ++ listingItems (i + 1) ds

/-- The references listed in the entries of a mapping, from the given place on. -/
def listingEntries (i : Nat) : List (Datum × Datum) → List (Position × OrderEntry)
  | [] => []
  | (k, v) :: es =>
    (match k.keyText?.bind reference? with
      | some ref => ([.key i], ref) :: (listing v).map (Prod.map (.value i :: ·) id)
      | none => []) ++ listingEntries (i + 1) es

end

theorem map_snd_map_id {f : Position → Position} (xs : List (Position × OrderEntry)) :
    (xs.map (Prod.map f id)).map Prod.snd = xs.map Prod.snd := by
  rw [List.map_map]
  rfl

mutual

/-- The listing holds the references of the manifest, in their order. -/
theorem map_snd_listing : ∀ d : Datum, (listing d).map Prod.snd = collect d
  | .list items => by rw [listing, collect, map_snd_listingItems]
  | .text s => by
    rw [listing, collect, List.map_map]
    exact List.map_id _
  | .map entries => by rw [listing, collect, map_snd_listingEntries]
  | .null => rfl
  | .bool _ => rfl
  | .int _ => rfl
  | .float _ => rfl
  | .tagged _ _ => rfl

theorem map_snd_listingItems :
    ∀ (i : Nat) (ds : List Datum), (listingItems i ds).map Prod.snd = collectItems ds
  | _, [] => rfl
  | i, d :: ds => by
    rw [listingItems, collectItems, List.map_append, map_snd_map_id, map_snd_listing,
      map_snd_listingItems]

theorem map_snd_listingEntries :
    ∀ (i : Nat) (es : List (Datum × Datum)),
      (listingEntries i es).map Prod.snd = collectEntries es
  | _, [] => rfl
  | i, (k, v) :: es => by
    rw [listingEntries, collectEntries, List.map_append, map_snd_listingEntries]
    cases k.keyText?.bind reference? with
    | none => rfl
    | some ref =>
      dsimp only
      rw [List.map_cons, map_snd_map_id, map_snd_listing]

end

theorem mem_map_step {step : Step} {xs : List (Position × OrderEntry)} :
    (pos, ref) ∈ xs.map (Prod.map (step :: ·) id) ↔
      ∃ rest, pos = step :: rest ∧ (rest, ref) ∈ xs := by
  rw [List.mem_map]
  constructor
  · rintro ⟨⟨rest, ref'⟩, hmem, heq⟩
    obtain ⟨rfl, rfl⟩ := Prod.mk.inj heq
    exact ⟨rest, rfl, hmem⟩
  · rintro ⟨rest, rfl, hmem⟩
    exact ⟨_, hmem, rfl⟩

/-- Something is so of an element of a list and its place, if it is of the first or of one behind.
-/
theorem exists_getElem?_cons {α : Type} {x : α} {xs : List α} {P : Nat → α → Prop} :
    (∃ j y, (x :: xs)[j]? = some y ∧ P j y) ↔ P 0 x ∨ ∃ j y, xs[j]? = some y ∧ P (j + 1) y := by
  constructor
  · rintro ⟨j, y, hj, hP⟩
    cases j with
    | zero =>
      obtain rfl := Option.some.inj hj
      exact .inl hP
    | succ j => exact .inr ⟨j, y, hj, hP⟩
  · rintro (hP | ⟨j, y, hj, hP⟩)
    · exact ⟨0, x, rfl, hP⟩
    · exact ⟨j + 1, y, hj, hP⟩

mutual

/-- **What the listing holds**: the listed references. -/
theorem mem_listing : ∀ (d : Datum) (pos : Position) (ref : OrderEntry),
    (pos, ref) ∈ listing d ↔ IsListedAt d pos ref
  | .list items, pos, ref => by
    rw [listing, mem_listingItems, isListedAt_list]
    simp only [Nat.zero_add]
  | .text s, pos, ref => by
    rw [listing, isListedAt_text, ← reference?_eq_some_iff]
    cases reference? s <;> simp [eq_comm]
  | .map entries, pos, ref => by
    rw [listing, mem_listingEntries, isListedAt_map]
    simp only [Nat.zero_add]
  | .null, _, _ | .bool _, _, _ | .int _, _, _ | .float _, _, _ =>
    iff_of_false List.not_mem_nil
      (not_isListedAt_of_scalar (fun step ↦ by cases step <;> rfl) rfl)
  | .tagged _ _, _, _ => iff_of_false List.not_mem_nil not_isListedAt_tagged

theorem mem_listingItems : ∀ (i : Nat) (ds : List Datum) (pos : Position) (ref : OrderEntry),
    (pos, ref) ∈ listingItems i ds ↔
      ∃ j d, ds[j]? = some d ∧ ∃ rest, pos = .item (i + j) :: rest ∧ IsListedAt d rest ref
  | _, [], _, _ => by simp [listingItems]
  | i, d :: ds, pos, ref => by
    rw [listingItems, List.mem_append, mem_map_step, mem_listingItems, exists_getElem?_cons]
    simp only [mem_listing, Nat.add_zero, Nat.add_assoc, Nat.add_comm 1]

theorem mem_listingEntries :
    ∀ (i : Nat) (es : List (Datum × Datum)) (pos : Position) (ref : OrderEntry),
    (pos, ref) ∈ listingEntries i es ↔
      ∃ j e, es[j]? = some e ∧ ∃ kind, e.1.keyText?.bind reference? = some kind ∧
        (pos = [.key (i + j)] ∧ ref = kind ∨
          ∃ rest, pos = .value (i + j) :: rest ∧ IsListedAt e.2 rest ref)
  | _, [], _, _ => by simp [listingEntries]
  | i, (k, v) :: es, pos, ref => by
    rw [listingEntries, List.mem_append, mem_listingEntries, exists_getElem?_cons]
    refine or_congr ?_ (by simp only [Nat.add_assoc, Nat.add_comm 1])
    cases k.keyText?.bind reference? with
    | none => simp
    | some kind =>
      simp only [List.mem_cons, Prod.mk.injEq, mem_map_step, mem_listing, Option.some.injEq,
        exists_eq_left', Nat.add_zero]

end

/-! ### Document order -/

theorem pairwise_map_step {step : Step} {xs : List (Position × OrderEntry)}
    (h : xs.Pairwise fun x y ↦ Position.Before x.1 y.1) :
    (xs.map (Prod.map (step :: ·) id)).Pairwise fun x y ↦ Position.Before x.1 y.1 :=
  List.pairwise_map.2 (h.imp fun hxy ↦ List.Lex.cons hxy)

theorem exists_step_of_mem_listingEntries {i : Nat} {es : List (Datum × Datum)}
    (h : (pos, ref) ∈ listingEntries i es) :
    ∃ step rest, pos = step :: rest ∧ 2 * i ≤ step.rank := by
  obtain ⟨j, e, -, kind, -, ⟨rfl, -⟩ | ⟨rest, rfl, -⟩⟩ := (mem_listingEntries _ _ _ _).1 h
  · exact ⟨.key (i + j), [], rfl, show 2 * i ≤ 2 * (i + j) by omega⟩
  · exact ⟨.value (i + j), rest, rfl, show 2 * i ≤ 2 * (i + j) + 1 by omega⟩

mutual

/-- **The listing is in document order.** -/
theorem pairwise_listing : ∀ d : Datum, (listing d).Pairwise fun x y ↦ Position.Before x.1 y.1
  | .list items => by
    rw [listing]
    exact pairwise_listingItems 0 items
  | .text s => by
    rw [listing]
    cases reference? s <;> simp
  | .map entries => by
    rw [listing]
    exact pairwise_listingEntries 0 entries
  | .null | .bool _ | .int _ | .float _ | .tagged _ _ => List.Pairwise.nil

theorem pairwise_listingItems :
    ∀ (i : Nat) (ds : List Datum), (listingItems i ds).Pairwise fun x y ↦ Position.Before x.1 y.1
  | _, [] => List.Pairwise.nil
  | i, d :: ds => by
    rw [listingItems, List.pairwise_append]
    refine ⟨pairwise_map_step (pairwise_listing d), pairwise_listingItems (i + 1) ds, ?_⟩
    rintro ⟨p, a⟩ hp ⟨q, b⟩ hq
    obtain ⟨rest, rfl, -⟩ := mem_map_step.1 hp
    obtain ⟨j, c, -, rest', rfl, -⟩ := (mem_listingItems _ _ _ _).1 hq
    exact List.Lex.rel (show i < i + 1 + j by omega)

theorem pairwise_listingEntries :
    ∀ (i : Nat) (es : List (Datum × Datum)),
      (listingEntries i es).Pairwise fun x y ↦ Position.Before x.1 y.1
  | _, [] => List.Pairwise.nil
  | i, (k, v) :: es => by
    have hrest := pairwise_listingEntries (i + 1) es
    rw [listingEntries]
    cases k.keyText?.bind reference? with
    | none => exact hrest
    | some kind =>
      -- the key, then what lies in the value, then the entries behind
      have hkey : ∀ x ∈ (listing v).map (Prod.map (.value i :: ·) id),
          Position.Before [.key i] x.1 := by
        rintro ⟨p, a⟩ hp
        obtain ⟨rest, rfl, -⟩ := mem_map_step.1 hp
        exact List.Lex.rel (show 2 * i < 2 * i + 1 by omega)
      have hentry : ([.key i], kind) :: (listing v).map (Prod.map (.value i :: ·) id) |>.Pairwise
          fun x y ↦ Position.Before x.1 y.1 :=
        List.pairwise_cons.2 ⟨hkey, pairwise_map_step (pairwise_listing v)⟩
      refine List.pairwise_append.2 ⟨hentry, hrest, ?_⟩
      rintro ⟨p, a⟩ hp ⟨q, b⟩ hq
      obtain ⟨step, rest, rfl, hstep⟩ := exists_step_of_mem_listingEntries hq
      rcases List.mem_cons.1 hp with hp | hp
      · obtain ⟨rfl, -⟩ := Prod.mk.inj hp
        exact List.Lex.rel (show 2 * i < step.rank by omega)
      · obtain ⟨rest', rfl, -⟩ := mem_map_step.1 hp
        exact List.Lex.rel (show 2 * i + 1 < step.rank by omega)

end

/-- Every position is listed once. -/
theorem nodup_map_fst_listing (d : Datum) : ((listing d).map Prod.fst).Nodup :=
  List.pairwise_map.2 ((pairwise_listing d).imp Position.Before.ne)

/-! ### The tree of a manifest -/

/-- The tree that a manifest's text holds: what stands under the root key of a mapping. -/
def tree? (text : String) : Option Datum :=
  match Yaml.read? text with
  | some (.map es) => valueAt? rootKey es
  | _ => none

theorem read_of_tree? {text : String} (h : tree? text = some root) (path : String) :
    read path text = .ok (collect root) := by
  rw [tree?] at h
  split at h
  · rename_i es hes
    rw [read, hes]
    simp only [h]
  · cases h

end Manifest

end Manuscript
