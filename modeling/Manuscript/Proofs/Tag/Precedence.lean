import Mathlib.Data.List.Infix
import Manuscript.Proofs.Tag.Split
import Manuscript.Proofs.Text.Number
import Manuscript.Tag.Names

/-!
# Which name a key stands for

The tag table is filled by registrations that overwrite each other, and the keys they make can
collide: a mob may be called as a numbered copy of another one is, or as a person is. What comes of
it is an order of precedence (`namings`): a declared mob, then a numbered copy of a mob, of several
that of the longest mob, then a fixed term, then a time, then what the other records registered
last. A key stands for the name of the first kind of naming that has one for it (`FirstOf`).

That later registrations win is a fact about one list of things at a time: the last thing that has
the key decides (`lookup_reverse_flatMap_eq_some_iff`). For mobs the last one is also the longest,
because all mobs that have a key, as it is or with a number behind, are beginnings of it, and among
the beginnings of one text the order of the table is the order of length
(`lastGives_entries_iff`).
-/

namespace Manuscript

/-! ### The last to give a name -/

/-- The last of some things that give anything at all gives this. -/
def LastGives {α β : Type} (gives : α → β → Prop) (xs : List α) (v : β) : Prop :=
  ∃ before x after, xs = before ++ x :: after ∧ gives x v ∧ ∀ y ∈ after, ∀ w, ¬ gives y w

theorem lastGives_concat_iff {α β : Type} {gives : α → β → Prop} {xs : List α} {x : α} {v : β} :
    LastGives gives (xs ++ [x]) v ↔ gives x v ∨ (∀ w, ¬ gives x w) ∧ LastGives gives xs v := by
  constructor
  · rintro ⟨before, y, after, heq, hy, hafter⟩
    rcases List.eq_nil_or_concat after with rfl | ⟨after, z, rfl⟩
    · obtain ⟨rfl, hxy⟩ := List.append_inj' heq rfl
      obtain rfl := List.singleton_inj.1 hxy
      exact .inl hy
    · rw [List.concat_eq_append, ← List.cons_append, ← List.append_assoc] at heq
      obtain ⟨rfl, hxz⟩ := List.append_inj' heq rfl
      obtain rfl := List.singleton_inj.1 hxz
      rw [List.concat_eq_append] at hafter
      exact .inr ⟨hafter x (List.mem_append_right _ List.mem_cons_self), before, y, after, rfl, hy,
        fun z hz ↦ hafter z (List.mem_append_left _ hz)⟩
  · rintro (hx | ⟨hx, before, y, after, rfl, hy, hafter⟩)
    · exact ⟨xs, x, [], rfl, hx, by simp⟩
    · refine ⟨before, y, after ++ [x], by simp, hy, fun z hz ↦ ?_⟩
      rcases List.mem_append.1 hz with hz | hz
      · exact hafter z hz
      · exact List.mem_singleton.1 hz ▸ hx

/-- **Overwriting**: of the entries of some things, the last thing that has the key decides. -/
theorem lookup_reverse_flatMap_eq_some_iff {α : Type} {entries : α → List (String × String)}
    {key : String} {gives : α → String → Prop} {xs : List α}
    (h : ∀ x ∈ xs, ∀ v, (entries x).reverse.lookup key = some v ↔ gives x v) (v : String) :
    (xs.flatMap entries).reverse.lookup key = some v ↔ LastGives gives xs v := by
  induction xs using List.reverseRecOn with
  | nil => simp [LastGives]
  | append_singleton xs x ih =>
    have hx := h x (List.mem_append_right _ List.mem_cons_self)
    have hxs := ih fun y hy ↦ h y (List.mem_append_left _ hy)
    rw [List.flatMap_append, List.flatMap_singleton, List.reverse_append, List.lookup_append,
      Option.or_eq_some_iff, Option.eq_none_iff_forall_ne_some, lastGives_concat_iff, hxs]
    simp only [ne_eq, hx]

theorem lookup_reverse_flatMap_congr {α : Type} {f g : α → List (String × String)} {key : String}
    {xs : List α} (h : ∀ x ∈ xs, (f x).reverse.lookup key = (g x).reverse.lookup key) :
    (xs.flatMap f).reverse.lookup key = (xs.flatMap g).reverse.lookup key := by
  induction xs using List.reverseRecOn with
  | nil => rfl
  | append_singleton xs x ih =>
    rw [List.flatMap_append, List.flatMap_append, List.flatMap_singleton, List.flatMap_singleton,
      List.reverse_append, List.reverse_append, List.lookup_append, List.lookup_append,
      h x (List.mem_append_right _ List.mem_cons_self),
      ih fun y hy ↦ h y (List.mem_append_left _ hy)]

/-- Entries without a common key are found wherever they stand. -/
theorem lookup_reverse_eq_some_iff {α : Type} {es : List (String × α)}
    (h : (es.map Prod.fst).Nodup) {key : String} {v : α} :
    es.reverse.lookup key = some v ↔ (key, v) ∈ es := by
  have hkeys : (es.reverse.map Prod.fst).Nodup := by
    rw [List.map_reverse]
    exact List.nodup_reverse.2 h
  rw [Table.lookup_eq_some_iff_mem hkeys, List.mem_reverse]

theorem Table.mem_entries_iff {α : Type} {t : Table α} {k : String} {v : α} :
    (k, v) ∈ t.entries ↔ t.get? k = some v := by
  rw [Table.get?, ← Table.lookup_reverse t.increasing,
    lookup_reverse_eq_some_iff t.nodup_map_fst_entries]

/-- The first kind of naming that has a name decides, and if none has, there is no name. -/
inductive FirstOf : List (String → Prop) → Option String → Prop
  | nil : FirstOf [] none
  | here {P : String → Prop} {Ps : List (String → Prop)} {name : String} (h : P name) :
    FirstOf (P :: Ps) (some name)
  | later {P : String → Prop} {Ps : List (String → Prop)} {name? : Option String}
    (h : ∀ name, ¬ P name) (hlater : FirstOf Ps name?) : FirstOf (P :: Ps) name?

theorem firstOf_nil_iff {name? : Option String} : FirstOf [] name? ↔ name? = none := by
  constructor
  · rintro ⟨⟩
    rfl
  · rintro rfl
    exact .nil

theorem firstOf_cons_iff {P : String → Prop} {Ps : List (String → Prop)}
    {here later : Option String} (hhere : ∀ name, here = some name ↔ P name)
    (hlater : ∀ name?, FirstOf Ps name? ↔ name? = later) (name? : Option String) :
    FirstOf (P :: Ps) name? ↔ name? = here.or later := by
  cases here with
  | none =>
    have hnone : ∀ name, ¬ P name := fun name h ↦ by cases (hhere name).2 h
    rw [Option.none_or, ← hlater]
    constructor
    · rintro (- | h | ⟨-, h⟩)
      · exact absurd h (hnone _)
      · exact h
    · exact .later hnone
  | some found =>
    have hfound : P found := (hhere found).1 rfl
    rw [Option.some_or]
    constructor
    · rintro (- | h | ⟨h, -⟩)
      · exact ((hhere _).2 h).symm
      · exact absurd hfound (h found)
    · rintro rfl
      exact .here hfound

namespace Tag

/-! ### Beginnings of a key -/

theorem isPrefix_of_eq_append {a key t : String} (h : key = a ++ t) : a.toList <+: key.toList :=
  ⟨t.toList, by rw [h, String.toList_append]⟩

/-- Of two beginnings of a text the one that stands first in a table is the shorter one. -/
theorem length_lt_of_lt_of_isPrefix {a b key : String} (ha : a.toList <+: key.toList)
    (hb : b.toList <+: key.toList) (h : a < b) : a.length < b.length := by
  rw [← String.length_toList, ← String.length_toList]
  by_contra hle
  have hba : b.toList <+: a.toList := List.prefix_of_prefix_length_le hb ha (by omega)
  exact hba.le (String.lt_iff.1 h)

/-- **The last is the longest**: this holds of the entries of a table that give something, if their
keys are beginnings of one text. -/
theorem lastGives_entries_iff {t : Table String} {key : String}
    {gives : String × String → String → Prop}
    (hbegins : ∀ {e v}, gives e v → e.1.toList <+: key.toList) {v : String} :
    LastGives gives t.entries v ↔ ∃ e, t.get? e.1 = some e.2 ∧ gives e v ∧
      ∀ d w, t.get? d.1 = some d.2 → gives d w → d.1.length ≤ e.1.length := by
  constructor
  · rintro ⟨before, e, after, hentries, he, hafter⟩
    have hmem : e ∈ t.entries := hentries ▸ List.mem_append_right _ List.mem_cons_self
    refine ⟨e, Table.mem_entries_iff.1 hmem, he, fun d w hd hw ↦ ?_⟩
    have hsorted := t.increasing
    have hmem' : d ∈ t.entries := Table.mem_entries_iff.2 hd
    rw [hentries, List.pairwise_append] at hsorted
    rw [hentries, List.mem_append, List.mem_cons] at hmem'
    rcases hmem' with hd | rfl | hd
    · exact (length_lt_of_lt_of_isPrefix (hbegins hw) (hbegins he)
        (hsorted.2.2 d hd e List.mem_cons_self)).le
    · exact le_rfl
    · exact absurd hw (hafter d hd w)
  · rintro ⟨e, he, hgives, hlongest⟩
    obtain ⟨before, after, hentries⟩ := List.append_of_mem (Table.mem_entries_iff.2 he)
    have hsorted := t.increasing
    rw [hentries, List.pairwise_append, List.pairwise_cons] at hsorted
    refine ⟨before, e, after, hentries, hgives, fun d hd w hw ↦ ?_⟩
    have hmem : d ∈ t.entries :=
      hentries ▸ List.mem_append_right _ (List.mem_cons_of_mem _ hd)
    have hlt := length_lt_of_lt_of_isPrefix (hbegins hgives) (hbegins hw) (hsorted.2.1.1 d hd)
    exact absurd (hlongest d w (Table.mem_entries_iff.1 hmem) hw) (Nat.not_le_of_lt hlt)

/-! ### Numbered copies -/

/-- The numbered copies of a mob. -/
def copies (count : ℕ) (m : String × String) : List (String × String) :=
  (List.range count).map fun i ↦ mobCopy m.1 m.2 (i + 1)

theorem ne_append_repr (mob : String) (n : ℕ) : mob ≠ mob ++ Nat.repr n := by
  intro h
  have hempty : mob ++ "" = mob ++ Nat.repr n := by rwa [String.append_empty]
  exact Text.repr_ne_empty n ((String.append_right_inj mob).1 hempty).symm

theorem nodup_map_fst_copies (count : ℕ) (m : String × String) :
    ((copies count m).map Prod.fst).Nodup := by
  rw [copies, List.map_map]
  refine List.nodup_range.map fun i j h ↦ ?_
  exact Nat.succ.inj (Text.repr_injective ((String.append_right_inj m.1).1 h))

theorem lookup_reverse_copies {count : ℕ} {m : String × String} {key name : String} :
    (copies count m).reverse.lookup key = some name ↔
      ∃ i, 1 ≤ i ∧ i ≤ count ∧ key = m.1 ++ Nat.repr i ∧
        name = m.2 ++ fullWidthDigits (Nat.repr i) := by
  rw [lookup_reverse_eq_some_iff (nodup_map_fst_copies count m), copies, List.mem_map]
  constructor
  · rintro ⟨i, hi, heq⟩
    obtain ⟨rfl, rfl⟩ := Prod.mk.inj heq
    exact ⟨i + 1, by omega, List.mem_range.1 hi, rfl, rfl⟩
  · rintro ⟨i, hpos, hle, rfl, rfl⟩
    obtain ⟨i, rfl⟩ := Nat.exists_eq_succ_of_ne_zero (Nat.one_le_iff_ne_zero.1 hpos)
    exact ⟨i, List.mem_range.2 hle, rfl⟩

/-- A key is that of a numbered copy of a mob with the given name. -/
structure IsCopy (sources : NameSources) (settings : TagSettings) (key mob name : String) (i : ℕ) :
    Prop where
  declared : sources.mobs.get? mob = some name
  pos : 1 ≤ i
  le : i ≤ settings.mobCount
  key_eq : key = mob ++ Nat.repr i

/-- The name of a numbered copy of a mob, the longest of those of which the key is a copy. -/
def NamesCopy (sources : NameSources) (settings : TagSettings) (key name : String) : Prop :=
  ∃ mob mobName i, IsCopy sources settings key mob mobName i ∧
    (∀ mob' name' i', IsCopy sources settings key mob' name' i' → mob'.length ≤ mob.length) ∧
    name = mobName ++ fullWidthDigits (Nat.repr i)

/-- **Numbered copies**: of the mobs that have a copy under a key the longest one counts. -/
theorem lookup_copies_eq_some_iff (sources : NameSources) (settings : TagSettings)
    (key name : String) :
    (sources.mobs.toList.flatMap (copies settings.mobCount)).reverse.lookup key = some name ↔
      NamesCopy sources settings key name := by
  rw [lookup_reverse_flatMap_eq_some_iff fun m _ v ↦ lookup_reverse_copies, Table.toList,
    lastGives_entries_iff fun ⟨i, _, _, hkey, _⟩ ↦ isPrefix_of_eq_append hkey]
  constructor
  · rintro ⟨m, hdeclared, ⟨i, hpos, hle, hkey, hname⟩, hlongest⟩
    refine ⟨m.1, m.2, i, ⟨hdeclared, hpos, hle, hkey⟩, fun mob' name' i' hcopy ↦ ?_, hname⟩
    exact hlongest (mob', name') _ hcopy.declared ⟨i', hcopy.pos, hcopy.le, hcopy.key_eq, rfl⟩
  · rintro ⟨mob, mobName, i, hcopy, hlongest, hname⟩
    refine ⟨(mob, mobName), hcopy.declared, ⟨i, hcopy.pos, hcopy.le, hcopy.key_eq, hname⟩, ?_⟩
    rintro m w hdeclared ⟨i', hpos, hle, hkey, -⟩
    exact hlongest m.1 m.2 i' ⟨hdeclared, hpos, hle, hkey⟩

theorem lookup_reverse_mobEntries (count : ℕ) (m : String × String) (key : String) :
    (mobEntries count m.1 m.2).reverse.lookup key =
      ((copies count m).reverse.lookup key).or (if key = m.1 then some m.2 else none) := by
  have hentries : mobEntries count m.1 m.2 = (m.1, m.2) :: copies count m := rfl
  rw [hentries, List.reverse_cons, List.lookup_append, Table.lookup_cons_eq_ite, List.lookup_nil]

/-- A mob that registers a key is a beginning of it. -/
theorem isPrefix_of_lookup_mobEntries {count : ℕ} {m : String × String} {key name : String}
    (h : (mobEntries count m.1 m.2).reverse.lookup key = some name) :
    m.1.toList <+: key.toList := by
  rw [lookup_reverse_mobEntries, Option.or_eq_some_iff] at h
  rcases h with hcopy | ⟨-, hself⟩
  · obtain ⟨i, -, -, hkey, -⟩ := lookup_reverse_copies.1 hcopy
    exact isPrefix_of_eq_append hkey
  · split at hself
    · rename_i hkey
      exact hkey ▸ List.prefix_rfl
    · cases hself

/-- **Mobs**: a declared mob stands for itself, and where none is declared the copies decide. -/
theorem lookup_mobs (sources : NameSources) (settings : TagSettings) (key : String) :
    (sources.mobs.toList.flatMap fun m ↦
        mobEntries settings.mobCount m.1 m.2).reverse.lookup key =
      (sources.mobs.get? key).or
        ((sources.mobs.toList.flatMap (copies settings.mobCount)).reverse.lookup key) := by
  cases hget : sources.mobs.get? key with
  | none =>
    rw [Option.none_or]
    refine lookup_reverse_flatMap_congr fun m hm ↦ ?_
    have hne : key ≠ m.1 := by
      rintro rfl
      rw [Table.mem_entries_iff.1 hm] at hget
      cases hget
    rw [lookup_reverse_mobEntries, if_neg hne, Option.or_none]
  | some name =>
    rw [Option.some_or, lookup_reverse_flatMap_eq_some_iff fun _ _ _ ↦ Iff.rfl, Table.toList,
      lastGives_entries_iff isPrefix_of_lookup_mobEntries]
    refine ⟨(key, name), hget, ?_, fun m w _ hw ↦ ?_⟩
    · -- no copy of a mob is called as the mob
      have hnone : (copies settings.mobCount (key, name)).reverse.lookup key = none := by
        rw [Option.eq_none_iff_forall_ne_some]
        intro v hv
        obtain ⟨i, -, -, hkey, -⟩ := lookup_reverse_copies.1 hv
        exact ne_append_repr key i hkey
      show (mobEntries settings.mobCount key name).reverse.lookup key = some name
      rw [lookup_reverse_mobEntries settings.mobCount (key, name), hnone, if_pos rfl,
        Option.none_or]
    · show m.1.length ≤ key.length
      rw [← String.length_toList, ← String.length_toList]
      exact (isPrefix_of_lookup_mobEntries hw).length_le

/-! ### Records -/

/-- The names that a record gives to keys: its display name to its own name, as it stands and behind
the mark of its kind, and for a person the parts of the full name behind marks of their own. -/
inductive Registers (r : NameRecord) : String → String → Prop
  | basename : Registers r r.basename (displayName r)
  | marked {mark : String} (h : r.kind.tagMark? = some mark) :
    Registers r (mark ++ r.basename) (displayName r)
  | givenName (h : r.kind = .person) : Registers r ("fn_" ++ r.basename) (familyAndGiven r).2
  | familyName (h : r.kind = .person) : Registers r ("ln_" ++ r.basename) (familyAndGiven r).1
  | fullName (h : r.kind = .person) :
    Registers r ("full_" ++ r.basename) ((familyAndGiven r).1 ++ (familyAndGiven r).2)
  | englishName (h : r.kind = .person) :
    Registers r ("efull_" ++ r.basename)
      (if (familyAndGiven r).1 = "" then (familyAndGiven r).2
        else (familyAndGiven r).2 ++ " " ++ (familyAndGiven r).1)

theorem mem_recordEntries_iff {r : NameRecord} {key name : String} :
    (key, name) ∈ recordEntries r ↔ Registers r key name := by
  constructor
  · intro h
    rw [recordEntries, List.mem_append, List.mem_append, List.mem_singleton] at h
    rcases h with (hmarked | hperson) | hself
    · obtain ⟨mark, hkind, heq⟩ := Option.map_eq_some_iff.1 (Option.mem_toList.1 hmarked)
      obtain ⟨rfl, rfl⟩ := Prod.mk.inj heq
      exact .marked hkind
    · split at hperson
      · rename_i hkind
        simp only [personEntries, List.mem_cons, List.not_mem_nil, or_false, Prod.mk.injEq]
          at hperson
        rcases hperson with ⟨rfl, rfl⟩ | ⟨rfl, rfl⟩ | ⟨rfl, rfl⟩ | ⟨rfl, rfl⟩
        · exact .givenName hkind
        · exact .familyName hkind
        · exact .fullName hkind
        · exact .englishName hkind
      · cases hperson
    · obtain ⟨rfl, rfl⟩ := Prod.mk.inj hself
      exact .basename
  · intro h
    rw [recordEntries, List.mem_append, List.mem_append, List.mem_singleton]
    cases h with
    | basename => exact .inr rfl
    | marked h => exact .inl (.inl (by rw [h]; exact List.mem_singleton.2 rfl))
    | givenName h | familyName h | fullName h | englishName h =>
      exact .inl (.inr (by rw [if_pos h]; simp [personEntries]))

/-- The marks that stand before a record's own name in the keys that it registers. -/
def marksOf (kind : NameKind) : List String :=
  kind.tagMark?.toList ++ (if kind = .person then ["fn_", "ln_", "full_", "efull_"] else []) ++ [""]

theorem nodup_map_fst_recordEntries (r : NameRecord) :
    ((recordEntries r).map Prod.fst).Nodup := by
  have hkeys : (recordEntries r).map Prod.fst = (marksOf r.kind).map (· ++ r.basename) := by
    rw [recordEntries, marksOf]
    cases r.kind <;> simp [NameKind.tagMark?, personEntries]
  have hmarks : (marksOf r.kind).Nodup := by
    cases r.kind <;> decide
  rw [hkeys]
  exact hmarks.map fun a b h ↦ (String.append_left_inj r.basename).1 h

theorem lookup_reverse_recordEntries {r : NameRecord} {key name : String} :
    (recordEntries r).reverse.lookup key = some name ↔ Registers r key name := by
  rw [lookup_reverse_eq_some_iff (nodup_map_fst_recordEntries r), mem_recordEntries_iff]

theorem registers_iff_of_time {r : NameRecord} (h : r.kind = .time) {key name : String} :
    Registers r key name ↔ r.basename = key ∧ displayName r = name := by
  constructor
  · intro hname
    cases hname with
    | basename => exact ⟨rfl, rfl⟩
    | marked hmark => rw [h] at hmark; cases hmark
    | givenName hkind | familyName hkind | fullName hkind | englishName hkind =>
      rw [h] at hkind
      cases hkind
  · rintro ⟨rfl, rfl⟩
    exact .basename

end Tag

/-- The records of a kind, in order. -/
def NameSources.ofKind (sources : NameSources) (kind : NameKind) : List NameRecord :=
  sources.records.filter fun r ↦ r.kind = kind

namespace Tag

/-! ### The table -/

/-- The kinds of naming by which a key may come by a name, in order of precedence. -/
def namings (sources : NameSources) (settings : TagSettings) (key : String) :
    List (String → Prop) :=
  [fun name ↦ sources.mobs.get? key = some name,
   NamesCopy sources settings key,
   fun name ↦ sources.fixtures.get? key = some name,
   LastGives (fun r name ↦ r.basename = key ∧ displayName r = name) (sources.ofKind .time),
   LastGives (fun r name ↦ Registers r key name)
     ([.event, .item, .person, .stage, .word].flatMap sources.ofKind)]

theorem registrations_eq (sources : NameSources) (settings : TagSettings) :
    registrations sources settings =
      ([.event, .item, .person, .stage, .word].flatMap sources.ofKind).flatMap recordEntries
        ++ (sources.ofKind .time).flatMap recordEntries
        ++ sources.fixtures.toList
        ++ sources.mobs.toList.flatMap fun m ↦ mobEntries settings.mobCount m.1 m.2 := by
  have horder : registrationOrder = [.event, .item, .person, .stage, .word] ++ [.time] := rfl
  rw [registrations, horder, List.flatMap_append, List.flatMap_singleton, List.flatMap_assoc]
  rfl

/-- **A key stands for the name of the first kind of naming that has one for it**: of a declared
mob, of a numbered copy, of a fixed term, of a time, of another record. So a declared mob is never
called as a copy of another one. -/
theorem get?_tagTable_eq_iff (sources : NameSources) (settings : TagSettings) (key : String) :
    (∀ name?, (tagTable sources settings).get? key = name? ↔
        FirstOf (namings sources settings key) name?) ∧
      ∀ name, sources.mobs.get? key = some name →
        (tagTable sources settings).get? key = some name := by
  have htimes : ∀ r ∈ sources.ofKind .time, ∀ name,
      (recordEntries r).reverse.lookup key = some name ↔
        r.basename = key ∧ displayName r = name := by
    intro r hr name
    have hkind : r.kind = .time := by simpa using (List.mem_filter.1 hr).2
    rw [lookup_reverse_recordEntries, registers_iff_of_time hkind]
  have hfixtures : sources.fixtures.toList.reverse.lookup key = sources.fixtures.get? key :=
    Table.lookup_reverse sources.fixtures.increasing key
  have hget : (tagTable sources settings).get? key =
      (sources.mobs.get? key).or
        (((sources.mobs.toList.flatMap (copies settings.mobCount)).reverse.lookup key).or
          ((sources.fixtures.get? key).or
            ((((sources.ofKind .time).flatMap recordEntries).reverse.lookup key).or
              (((([.event, .item, .person, .stage, .word].flatMap sources.ofKind).flatMap
                recordEntries).reverse.lookup key).or none)))) := by
    rw [tagTable, Table.get?_ofList, registrations_eq, List.reverse_append, List.reverse_append,
      List.reverse_append, List.lookup_append, List.lookup_append, List.lookup_append, lookup_mobs,
      Option.or_assoc, hfixtures, Option.or_none]
  constructor
  · intro name?
    rw [hget, eq_comm]
    refine (firstOf_cons_iff (fun _ ↦ Iff.rfl) (firstOf_cons_iff
      (lookup_copies_eq_some_iff sources settings key) (firstOf_cons_iff (fun _ ↦ Iff.rfl)
      (firstOf_cons_iff (lookup_reverse_flatMap_eq_some_iff htimes) (firstOf_cons_iff
      (lookup_reverse_flatMap_eq_some_iff fun r _ _ ↦ lookup_reverse_recordEntries)
      fun _ ↦ firstOf_nil_iff)))) name?).symm
  · intro name hname
    rw [hget, hname, Option.some_or]

/-- A mob that is also called as the eleventh copy of one mob and as the first copy of another keeps
its own name, the tenth copy of a mob has its number in full-width digits, and a person stands
behind the mark of persons too. -/
theorem get?_tagTable_declared_mob :
    let mobs : Table String := .ofList [("guard", "番兵"), ("guard1", "門番"), ("guard11", "隊長")]
    let taro : NameRecord := ⟨.person, "taro", { NameFields.empty with name := "太郎" }⟩
    let sources : NameSources := ⟨[taro], mobs, .ofList []⟩
    let settings : TagSettings := ⟨11, "私", "$"⟩
    mobs.get? "guard11" = some "隊長" ∧
      (tagTable sources settings).get? "guard11" = some "隊長" ∧
      (tagTable sources settings).get? "guard10" = some "番兵１０" ∧
      FirstOf (namings sources settings "guard10") (some "番兵１０") ∧
      (tagTable sources settings).get? "n_taro" = some "太郎" ∧
      FirstOf (namings sources settings "n_taro") (some "太郎") := by
  intro mobs taro sources settings
  have hmob : mobs.get? "guard11" = some "隊長" := by decide
  have hcopy : (tagTable sources settings).get? "guard10" = some "番兵１０" := by decide
  have hmarked : (tagTable sources settings).get? "n_taro" = some "太郎" := by decide
  exact ⟨hmob, (get?_tagTable_eq_iff sources settings "guard11").2 _ hmob,
    hcopy, ((get?_tagTable_eq_iff sources settings "guard10").1 _).1 hcopy,
    hmarked, ((get?_tagTable_eq_iff sources settings "n_taro").1 _).1 hmarked⟩

/-- Undeclared, the key is that of a copy of the longer mob. -/
example :
    (tagTable ⟨[], .ofList [("guard", "番兵"), ("guard1", "門番")], .ofList []⟩
      ⟨11, "私", "$"⟩).get? "guard11" = some "門番１" := by
  decide

end Tag

end Manuscript
