import Mathlib.Data.List.DropRight
import Mathlib.Data.List.Nodup
import Manuscript.Proofs.Page.SceneInfo

/-!
# The lists of a scene

At a scene end the scene information says what happened since the scene start or end before it, in
eight lists of names. Of any stream, every list has each name that shows something once, in the
order in which the names appear first.

A name gets into a list in two steps: the keys are collected, each once, and when they are shown by
name, names that have become equal are made one. Both steps keep first appearances, so they are one
step from the keys of all acts to the names (`eraseDups_filterMap_eraseDups`). Which acts count is a
matter of the course: after any items the acts that wait are those behind the latest boundary of a
scene (`acts_after`).
-/

namespace Manuscript

/-! ### First appearances -/

theorem eraseDups_concat (names : List String) (name : String) :
    (names ++ [name]).eraseDups =
      if name ∈ names then names.eraseDups else names.eraseDups ++ [name] := by
  rw [List.eraseDups_append, List.removeAll, List.filter_singleton, List.elem_eq_contains]
  by_cases h : name ∈ names <;> simp [h, List.eraseDups_cons]

theorem nodup_eraseDups (names : List String) : names.eraseDups.Nodup := by
  induction names using List.reverseRecOn with
  | nil => exact List.nodup_nil
  | append_singleton names name ih =>
    rw [eraseDups_concat]
    split
    · exact ih
    · rename_i hnew
      refine List.nodup_append.2 ⟨ih, List.nodup_singleton name, fun a ha b hb hab ↦ hnew ?_⟩
      obtain rfl := List.mem_singleton.1 hb
      exact List.mem_eraseDups.1 (hab ▸ ha)

/-- Names stand in the order in which they appear first. -/
theorem pairwise_idxOf_eraseDups (names : List String) :
    names.eraseDups.Pairwise fun a b ↦ names.idxOf a < names.idxOf b := by
  induction names using List.reverseRecOn with
  | nil => exact .nil
  | append_singleton names name ih =>
    -- the places of earlier names do not change
    have hplace : ∀ a ∈ names.eraseDups, (names ++ [name]).idxOf a = names.idxOf a :=
      fun a ha ↦ List.idxOf_append_of_mem (List.mem_eraseDups.1 ha)
    have hearlier : names.eraseDups.Pairwise fun a b ↦
        (names ++ [name]).idxOf a < (names ++ [name]).idxOf b := by
      refine ih.imp_of_mem fun {a b} ha hb hlt ↦ ?_
      rwa [hplace a ha, hplace b hb]
    rw [eraseDups_concat]
    split
    · exact hearlier
    · rename_i hnew
      refine List.pairwise_append.2 ⟨hearlier, List.pairwise_singleton _ name, fun a ha b hb ↦ ?_⟩
      obtain rfl := List.mem_singleton.1 hb
      rw [hplace a ha, List.idxOf_append_of_notMem hnew]
      exact Nat.lt_add_right _ (List.idxOf_lt_length_of_mem (List.mem_eraseDups.1 ha))

/-- Dropping repetitions before names are mapped changes nothing if they are dropped afterwards
again. -/
theorem eraseDups_filterMap_eraseDups (f : String → Option String) (names : List String) :
    (names.eraseDups.filterMap f).eraseDups = (names.filterMap f).eraseDups := by
  induction names using List.reverseRecOn with
  | nil => rfl
  | append_singleton names name ih =>
    rw [eraseDups_concat, List.filterMap_append]
    cases hname : f name with
    | none =>
      rw [List.filterMap_cons_none hname, List.filterMap_nil, List.append_nil, ← ih]
      split
      · rfl
      · rw [List.filterMap_append, List.filterMap_cons_none hname, List.filterMap_nil,
          List.append_nil]
    | some shown =>
      rw [List.filterMap_cons_some hname, List.filterMap_nil, eraseDups_concat]
      split
      · rename_i hmem
        rw [if_pos (List.mem_filterMap.2 ⟨name, hmem, hname⟩), ih]
      · have hsame : shown ∈ names.eraseDups.filterMap f ↔ shown ∈ names.filterMap f := by
          simp only [List.mem_filterMap, List.mem_eraseDups]
        rw [List.filterMap_append, List.filterMap_cons_some hname, List.filterMap_nil,
          eraseDups_concat, ih]
        simp only [hsame]

namespace SceneInfo

/-! ### Names -/

/-- A text without blanks around, if it shows something. -/
def visible? (s : String) : Option String :=
  if Text.trim s = "" then none else some (Text.trim s)

theorem distinct_eq (names : List String) :
    distinct names = (names.filterMap visible?).eraseDups := by
  rw [distinct, List.filter_map, ← List.filterMap_eq_filter, List.map_filterMap]
  congr 2
  funext name
  by_cases h : Text.trim name = "" <;> simp [visible?, h, Option.guard]

/-- The names that keys are shown by, without blanks around, less those that show nothing. A key
that shows nothing has no name. -/
def namesOf (r : Resolver) (keys : List String) : List String :=
  (keys.filterMap visible?).filterMap fun key ↦ visible? (r.subject key)

/-- A list of names for keys: every name that shows something is in it once, in order of first
appearance. -/
structure Lists (r : Resolver) (keys list : List String) : Prop where
  nodup : list.Nodup
  not_blank : ∀ name ∈ list, Text.isBlankText name = false
  mem_iff : ∀ name, name ∈ list ↔ name ∈ namesOf r keys
  order : list.Pairwise fun a b ↦ (namesOf r keys).idxOf a < (namesOf r keys).idxOf b

theorem isBlankText_of_mem_namesOf {r : Resolver} {keys : List String} {name : String}
    (h : name ∈ namesOf r keys) : Text.isBlankText name = false := by
  obtain ⟨key, -, hname⟩ := List.mem_filterMap.1 h
  rw [visible?] at hname
  split at hname
  · cases hname
  · rename_i hne
    obtain rfl := Option.some.inj hname
    rw [← Bool.not_eq_true, ← Text.trim_eq_empty_iff, Text.trim_trim]
    exact hne

/-- **One list**: dropping repetitions among the keys and again among the names leaves every name at
its first appearance. -/
theorem lists_distinct (r : Resolver) (keys : List String) :
    Lists r keys (distinct ((distinct keys).map r.subject)) := by
  have hnames : distinct ((distinct keys).map r.subject) = (namesOf r keys).eraseDups := by
    rw [distinct_eq, distinct_eq, List.filterMap_map, eraseDups_filterMap_eraseDups]
    rfl
  rw [hnames]
  exact
    { nodup := nodup_eraseDups _
      not_blank := fun name h ↦ isBlankText_of_mem_namesOf (List.mem_eraseDups.1 h)
      mem_iff := fun name ↦ List.mem_eraseDups
      order := pairwise_idxOf_eraseDups _ }

/-! ### The lists of some acts -/

/-- What happened in a scene with the given acts. -/
structure Tells (r : Resolver) (acts : List Act) (i : SceneInfo) : Prop where
  persons : Lists r
    ((acts.filter fun a ↦ r.isPerson a.subject ∨ a.verb = .be).map Act.subject) i.persons
  entering : Lists r ((acts.filter fun a ↦ a.verb = .come).map Act.subject) i.entering
  leaving : Lists r ((acts.filter fun a ↦ a.verb = .go).map Act.subject) i.leaving
  gained : Lists r
    ((acts.filter fun a ↦ a.verb = .have ∨ a.verb = .wear).map Act.outline) i.gained
  lost : Lists r ((acts.filter fun a ↦ a.verb = .rid).map Act.outline) i.lost
  placed : Lists r ((acts.filter fun a ↦ a.verb = .put).map Act.outline) i.placed
  removed : Lists r ((acts.filter fun a ↦ a.verb = .draw).map Act.outline) i.removed
  events : Lists r ((acts.filter fun a ↦ a.verb = .occur).map fun a ↦
    if Text.isBlankText a.outline then a.description else a.outline) i.events

theorem tells_retag_ofActs (r : Resolver) (acts : List Act) :
    Tells r acts ((ofActs r.isPerson acts).retag r) := by
  have hone : ∀ v w : Verb, (w ∈ [v]) = (w = v) := fun v w ↦ propext List.mem_singleton
  have htwo : ∀ u v w : Verb, (w ∈ [u, v]) = (w = u ∨ w = v) := fun u v w ↦ by simp
  have hpersons : ∀ a : Act, (r.isPerson a.subject || decide (a.verb = .be)) =
      decide (r.isPerson a.subject ∨ a.verb = .be) := fun a ↦ by simp
  constructor <;>
    simp only [retag, ofActs, subjectsOf, outlinesOf, hone, htwo, hpersons] <;>
    exact lists_distinct r _

/-! ### Scene ends -/

/-- The acts behind the latest scene start or end. -/
def actsSince (before : List Action) : List Act :=
  (before.rtakeWhile fun x ↦ x ≠ .marker .sceneStart ∧ x ≠ .marker .sceneEnd).filterMap Item.act?

/-- **The run**: after any items, the acts that wait are those behind the latest scene start or
end. -/
theorem acts_after (isPerson : String → Bool) (before : List Action) :
    ((coursePass isPerson).after .start before).acts = actsSince before := by
  induction before using List.reverseRecOn with
  | nil => rfl
  | append_singleton before x ih =>
    rw [Pass.after_append, Pass.after_singleton, actsSince, List.rtakeWhile_concat]
    cases x with
    | act a =>
      rw [if_pos (by simp), List.filterMap_append, ← actsSince, ← ih]
      rfl
    | marker m =>
      cases m with
      | sceneStart | sceneEnd => rfl
      | _ =>
        rw [if_pos (by simp), List.filterMap_append, ← actsSince, ← ih]
        exact (List.append_nil _).symm

/-- What the scene information has for an item behind others: what happened, for a scene end, and
nothing of that kind for any other item. -/
structure MakesInfo (r : Resolver) (before : List Action) (x : Action)
    (block : List InfoRecord) : Prop where
  sceneEnd : x = .marker .sceneEnd → ∃ i, block = [.info i] ∧ i.Tells r (actsSince before)
  other : x ≠ .marker .sceneEnd → ∀ i, .info i ∉ block

theorem info_notMem_out {isPerson : String → Bool} {x : Action} (h : x ≠ .marker .sceneEnd)
    (c : Course) (i : SceneInfo) : .info i ∉ (coursePass isPerson).out c x := by
  rcases x with m | a
  · cases m with
    | sceneEnd => exact absurd rfl h
    | _ => simp [coursePass, markerRecords]
  · simp [coursePass]

theorem shown_flatten (r : Resolver) (blocks : List (List InfoRecord)) :
    shown r blocks.flatten = (blocks.map (shown r)).flatten := by
  rw [shown, List.map_flatten, List.filter_flatten, List.map_map]
  rfl

theorem makesInfo_shown_out (r : Resolver) (before : List Action) (x : Action) :
    MakesInfo r before x (shown r ((coursePass r.isPerson).out
      ((coursePass r.isPerson).after .start before) x)) where
  sceneEnd := by
    rintro rfl
    refine ⟨_, rfl, ?_⟩
    rw [acts_after]
    exact tells_retag_ofActs r (actsSince before)
  other := by
    intro hx i hmem
    obtain ⟨record, hrecord, hretag⟩ := List.mem_map.1 (List.mem_filter.1 hmem).1
    cases record with
    | info i' => exact info_notMem_out hx _ i' hrecord
    | _ => cases hretag

/-- **The lists of every scene are exact**: the scene information is made item by item, and what it
has for a scene end is one record, of what the acts behind the scene start or end before it tell. -/
theorem lists_of_project {r : Resolver} {actions : List Action} {records : List InfoRecord}
    (h : project r actions = .ok records) :
    ∃ blocks, records = blocks.flatten ∧
      List.Forall₂ (fun p block ↦ MakesInfo r p.1 p.2 block) (actions.inits.zip actions)
        blocks := by
  refine ⟨((coursePass r.isPerson).blocks .start actions).map (shown r), ?_, ?_⟩
  · rw [eq_shown_of_project_eq_ok h, ← Pass.flatten_blocks, shown_flatten]
  · rw [Pass.blocks_eq_map_inits, List.map_map]
    exact List.forall₂_map_right_iff.2 (List.forall₂_same.2 fun q _ ↦ makesInfo_shown_out r q.1 q.2)

/-- Two persons of one name, one who is known and one who is not, and what is put on behind a scene
end. -/
theorem lists_of_project_two_names :
    let r : Resolver :=
      ⟨.ofList [("hanako", "Hanako"), ("jiro", "Taro"), ("ken", "Ken"), ("taro", "Taro ")],
        .ofList [("hanako", .empty), ("jiro", .empty)], "$"⟩
    let actions : List Action :=
      [.marker .sceneStart, .act ⟨.be, "taro", "", "", [], ""⟩,
       .act ⟨.come, "jiro", "", "", [], ""⟩, .act ⟨.talk, "hanako", "", "", [], ""⟩,
       .act ⟨.talk, "ken", "", "", [], ""⟩, .marker .sceneEnd,
       .act ⟨.wear, "taro", " hat", "", [], ""⟩, .marker .sceneEnd]
    let records : List InfoRecord :=
      [.transition .blank (.replicate .unchanged), .act .be "Taro " "", .act .come "Taro" "",
       .act .talk "Hanako" "", .act .talk "Ken" "",
       .info ⟨["Taro", "Hanako"], ["Taro"], [], [], [], [], [], []⟩, .act .wear "Taro " " hat",
       .info ⟨[], [], [], ["hat"], [], [], [], []⟩]
    project r actions = .ok records ∧
      ∃ blocks, records = blocks.flatten ∧
        List.Forall₂ (fun p block ↦ MakesInfo r p.1 p.2 block) (actions.inits.zip actions)
          blocks := by
  intro r actions records
  have hproject : project r actions = .ok records := by decide
  exact ⟨hproject, lists_of_project hproject⟩

end SceneInfo

end Manuscript
