import Mathlib.Data.List.DropRight
import Manuscript.Proofs.Compile.Passes

/-!
# What an act takes from the acts before it

Carrying fields forward, step by step, is remembering the act before. This says what comes of it
without the steps. A segment is what stands between one scene start and the next; an act of a
segment is kept unless its verb is the same as that of no act before it. A kept act takes its verb,
its subject and its outline each from the latest draft of the segment that gives one, and it takes
its note from the act before it if it gives neither a verb nor a note (`Draft.behind?`).

The two agree because of what the memory holds after the drafts of a segment (`IsAntecedent`): in
every field the latest that was given, where only the verb also looks at the drafts that were not
kept, which give none. One draft keeps that up (`IsAntecedent.concat`), and a scene start empties
the segment and the memory alike.
-/

namespace Manuscript

/-! ### Segments -/

/-- The drafts behind the latest scene start. -/
def segment (before : List RawAction) : List Draft :=
  (before.rtakeWhile (· ≠ .marker .sceneStart)).filterMap Item.act?

theorem segment_concat_act (before : List RawAction) (d : Draft) :
    segment (before ++ [.act d]) = segment before ++ [d] := by
  rw [segment, List.rtakeWhile_concat, if_pos (by simp), List.filterMap_append]
  rfl

theorem segment_concat_marker (before : List RawAction) (m : Marker) :
    segment (before ++ [.marker m]) = if m = .sceneStart then [] else segment before := by
  rw [segment, List.rtakeWhile_concat]
  by_cases hm : m = .sceneStart
  · rw [if_neg (by simp [hm]), if_pos hm]
    rfl
  · rw [if_pos (by simp [hm]), if_neg hm, List.filterMap_append]
    exact List.append_nil _

/-- The latest value that is given for a field. -/
def latest? {α : Type} (field : Draft → Slot α) (ds : List Draft) : Option α :=
  ds.reverse.findSome? fun d ↦ (field d).given?

theorem latest?_concat {α : Type} (field : Draft → Slot α) (ds : List Draft) (d : Draft) :
    latest? field (ds ++ [d]) = (field d).given?.or (latest? field ds) := by
  rw [latest?, List.reverse_append, List.findSome?_append, List.reverse_singleton,
    List.findSome?_singleton]
  rfl

theorem latest?_verb_eq_none_iff {ds : List Draft} :
    latest? Draft.verb ds = none ↔ ∀ d ∈ ds, d.verb = .same := by
  have hgiven : ∀ slot : Slot Verb, slot.given? = none ↔ slot = .same := by
    rintro (- | v) <;> simp [Slot.given?]
  simp only [latest?, List.findSome?_eq_none_iff, List.mem_reverse, hgiven]

/-- The drafts of a segment that are kept: those from the first that gives a verb. -/
def kept (ds : List Draft) : List Draft :=
  ds.dropWhile fun d ↦ d.verb = .same

theorem kept_eq_nil_iff {ds : List Draft} : kept ds = [] ↔ latest? Draft.verb ds = none := by
  rw [kept, List.dropWhile_eq_nil_iff, latest?_verb_eq_none_iff]
  simp only [decide_eq_true_eq]

/-- The note that the latest of some kept drafts comes to have, the latest of them first: its own,
or that of the draft before it if it gives neither a verb nor a note. -/
def noteOf : List Draft → String
  | [] => ""
  | d :: earlier => if d.verb = .same ∧ d.note = "" then noteOf earlier else d.note

/-! ### One act -/

/-- The act that a draft becomes behind the earlier drafts of its segment. It becomes none if
neither it nor any of them gives a verb. -/
def Draft.behind? (earlier : List Draft) (d : Draft) : Option Act :=
  (d.verb.given?.or (latest? Draft.verb earlier)).map fun verb ↦
    { verb := verb
      subject := (d.subject.given?.or (latest? Draft.subject (kept earlier))).getD ""
      outline := (d.outline.given?.or (latest? Draft.outline (kept earlier))).getD ""
      description := d.description
      flags := d.flags
      note := if d.verb = .same ∧ d.note = "" then noteOf (kept earlier).reverse else d.note }

/-- What an item becomes behind the earlier drafts of its segment. -/
def Item.behind? (earlier : List Draft) : RawAction → Option Action
  | .marker m => some (.marker m)
  | .act d => (d.behind? earlier).map .act

theorem Draft.behind?_eq_none_iff {earlier : List Draft} {d : Draft} :
    d.behind? earlier = none ↔ d.verb = .same ∧ ∀ e ∈ earlier, e.verb = .same := by
  rw [behind?, Option.map_eq_none_iff, ← latest?_concat, latest?_verb_eq_none_iff,
    List.forall_mem_append, and_comm, List.forall_mem_singleton]

/-- The drafts of a segment that are kept are those that become acts. -/
theorem kept_concat (ds : List Draft) (d : Draft) :
    kept (ds ++ [d]) = if (d.behind? ds).isSome then kept ds ++ [d] else kept ds := by
  rcases eq_or_ne (kept ds) [] with hds | hds
  · -- no draft before this one gives a verb, so it is kept if it does
    have hkept : kept (ds ++ [d]) = kept [d] := by
      rw [kept, List.dropWhile_append, ← kept, hds]
      rfl
    rw [hkept, hds, Draft.behind?, kept_eq_nil_iff.1 hds]
    cases hverb : d.verb <;> simp [kept, hverb, Slot.given?]
  · have hverb : (latest? Draft.verb ds).isSome :=
      Option.isSome_iff_ne_none.2 (mt kept_eq_nil_iff.2 hds)
    have hsome : (d.behind? ds).isSome := by
      rw [Draft.behind?, Option.isSome_map, Option.isSome_or, hverb, Bool.or_true]
    rw [if_pos hsome, kept, List.dropWhile_append, ← kept, if_neg (by simpa using hds)]

/-- The note of an act is that of the latest of the kept drafts up to its own. -/
theorem Draft.noteOf_kept {earlier : List Draft} {d : Draft} {a : Act}
    (h : d.behind? earlier = some a) : noteOf (kept (earlier ++ [d])).reverse = a.note := by
  rw [kept_concat, h, Option.isSome_some, if_pos rfl, List.reverse_append]
  obtain ⟨-, -, rfl⟩ := Option.map_eq_some_iff.1 h
  rfl

/-- What is remembered of the act before, after the drafts of a segment. -/
structure IsAntecedent (ds : List Draft) (previous : Option Act) : Prop where
  verb : previous.map Act.verb = latest? Draft.verb ds
  subject : (previous.map Act.subject).getD "" = (latest? Draft.subject (kept ds)).getD ""
  outline : (previous.map Act.outline).getD "" = (latest? Draft.outline (kept ds)).getD ""
  note : (previous.map Act.note).getD "" = noteOf (kept ds).reverse

theorem isAntecedent_none : IsAntecedent [] none := ⟨rfl, rfl, rfl, rfl⟩

theorem Slot.resolve_getD (slot : Slot String) (previous : Option String) :
    slot.resolve (previous.getD "") = (slot.given?.or previous).getD "" := by
  cases slot <;> rfl

namespace IsAntecedent

variable {ds : List Draft} {previous : Option Act}

/-- **One act**: what is remembered is all that a draft needs of the drafts before it. -/
theorem resolve?_eq (h : IsAntecedent ds previous) (d : Draft) :
    d.resolve? previous = d.behind? ds := by
  have hsubject := d.subject.resolve_getD (latest? Draft.subject (kept ds))
  have houtline := d.outline.resolve_getD (latest? Draft.outline (kept ds))
  rw [Draft.behind?, ← h.verb, ← hsubject, ← houtline, ← h.subject, ← h.outline, ← h.note]
  obtain ⟨verb, subject, outline, description, flags, note⟩ := d
  cases verb with
  | given v => simp [Draft.resolve?, Slot.given?]
  | same => rcases previous with - | p <;> simp [Draft.resolve?, Slot.given?]

/-- A draft is remembered as the act that it becomes, and not at all if it becomes none. -/
theorem concat (h : IsAntecedent ds previous) (d : Draft) :
    IsAntecedent (ds ++ [d]) ((d.resolve? previous).or previous) := by
  rw [h.resolve?_eq d]
  have hkept := kept_concat ds d
  have hlatest := latest?_concat Draft.verb ds d
  cases hact : d.behind? ds with
  | none =>
    -- no draft has given a verb so far
    have hverb := Option.map_eq_none_iff.1 hact
    rw [hact, Option.isSome_none, if_neg Bool.false_ne_true] at hkept
    rw [Option.none_or]
    refine ⟨?_, hkept ▸ h.subject, hkept ▸ h.outline, hkept ▸ h.note⟩
    rw [h.verb, hlatest, hverb]
    exact (Option.or_eq_none_iff.1 hverb).2
  | some a =>
    rw [hact, Option.isSome_some, if_pos rfl] at hkept
    have hnote := Draft.noteOf_kept hact
    obtain ⟨verb, hverb, rfl⟩ := Option.map_eq_some_iff.1 hact
    refine ⟨(hlatest.trans hverb).symm, ?_, ?_, hnote.symm⟩
    · rw [hkept, latest?_concat]
      rfl
    · rw [hkept, latest?_concat]
      rfl

end IsAntecedent

/-! ### The whole stream -/

/-- **The run**: after any items, what is remembered is the antecedent for the segment. -/
theorem isAntecedent_after (before : List RawAction) :
    IsAntecedent (segment before) (carryPass.after none before) := by
  induction before using List.reverseRecOn with
  | nil => exact isAntecedent_none
  | append_singleton before x ih =>
    rw [Pass.after_append, Pass.after_singleton]
    cases x with
    | marker m =>
      rw [segment_concat_marker]
      show IsAntecedent _ (if m = .sceneStart then none else carryPass.after none before)
      split
      · exact isAntecedent_none
      · exact ih
    | act d =>
      rw [segment_concat_act]
      exact ih.concat d

/-- **Carrying fields forward, without the steps**: every marker stands as it stood, and every draft
becomes the act that it is behind the earlier drafts of its segment. It is dropped exactly if
neither it nor any of them gives a verb, the kept drafts are the others, and the note of an act is
that of the latest kept draft up to its own. -/
theorem resolveSame_eq_behind (raw : List RawAction) :
    resolveSame raw = (raw.inits.zip raw).filterMap (fun p ↦ p.2.behind? (segment p.1)) ∧
      ∀ earlier d,
        (Draft.behind? earlier d = none ↔ d.verb = .same ∧ ∀ e ∈ earlier, e.verb = .same) ∧
        kept (earlier ++ [d]) =
          (if (d.behind? earlier).isSome then kept earlier ++ [d] else kept earlier) ∧
        ∀ a, d.behind? earlier = some a → noteOf (kept (earlier ++ [d])).reverse = a.note := by
  refine ⟨?_, fun earlier d ↦
    ⟨Draft.behind?_eq_none_iff, kept_concat earlier d, fun _ ↦ Draft.noteOf_kept⟩⟩
  have hout : ∀ (before : List RawAction) (x : RawAction),
      carryPass.out (carryPass.after none before) x =
        (x.behind? (segment before)).toList := by
    intro before x
    cases x with
    | marker m => rfl
    | act d =>
      show ((d.resolve? (carryPass.after none before)).map Item.act).toList = _
      rw [(isAntecedent_after before).resolve?_eq d]
      rfl
  rw [resolveSame, resolveSameFrom_eq_run, Pass.run_eq_flatMap_inits,
    List.filterMap_eq_flatMap_toList]
  exact List.flatMap_congr fun q _ ↦ hout q.1 q.2

/-- The subject of an act that is dropped is not taken; the note of an act that is kept is. -/
theorem resolveSame_eq_behind_dropped :
    let dropped : Draft := ⟨.same, .given "Mia", .same, "waits", [], ""⟩
    let said : Draft := ⟨.given .talk, .same, .same, "Hi", [], "low"⟩
    let repeated : Draft := ⟨.same, .same, .same, "Bye", [], ""⟩
    let act : Act := ⟨.talk, "", "", "Bye", [], "low"⟩
    resolveSame [.act dropped, .act said, .act repeated] =
        [.act ⟨.talk, "", "", "Hi", [], "low"⟩, .act act] ∧
      repeated.behind? [dropped, said] = some act ∧
      noteOf (kept ([dropped, said] ++ [repeated])).reverse = act.note := by
  intro dropped said repeated act
  obtain ⟨hraw, hdrafts⟩ := resolveSame_eq_behind [.act dropped, .act said, .act repeated]
  obtain ⟨-, -, hnote⟩ := hdrafts [dropped, said] repeated
  have hact : repeated.behind? [dropped, said] = some act := by decide
  refine ⟨?_, hact, hnote act hact⟩
  rw [hraw]
  decide

end Manuscript
