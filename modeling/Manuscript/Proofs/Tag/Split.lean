import Mathlib.Data.List.Nodup
import Manuscript.Proofs.Tag.Segments
import Manuscript.Tag.Resolver

/-!
# The one way to split a text

A text splits from left to right into segments: where a key that is not empty stands behind the
sigil, the next segment is the reference to the longest such key, and elsewhere it is one character.
`Splits` says this of a text and a row of segments without the reader that finds them, so it can be
asked how many such rows a text has. It has exactly one.

That there is one is what the reader shows (`Reads.splits`). That there is no other rests on two
facts: a reference and a character exclude each other at every place, and no two entries of a table
have the same key, so of the keys that stand at one place only one entry has the longest
(`IsLongestMatch.eq`).

The table by which a resolver substitutes in a text of a subject holds every key of the tag table,
whether the subject calls it otherwise or not. So where a key of the tag table stands, the reference
that is read there is at least as long (`exists_reference_of_prefix`): a short term of address does
not cut it.
-/

namespace Manuscript

namespace Table

variable {α : Type}

theorem mem_entries_of_get? {t : Table α} {k : String} {v : α} (h : t.get? k = some v) :
    (k, v) ∈ t.entries := by
  obtain ⟨before, after, hentries, -⟩ := List.lookup_eq_some_iff.1 h
  rw [hentries]
  exact List.mem_append_right before List.mem_cons_self

theorem nodup_map_fst_entries (t : Table α) : (t.entries.map Prod.fst).Nodup := by
  have hne : ∀ {d e : String × α}, d.1 < e.1 → d.1 ≠ e.1 := fun hlt heq ↦
    String.lt_irrefl _ (heq ▸ hlt)
  exact List.pairwise_map.2 (t.increasing.imp hne)

/-- No two entries have the same key. -/
theorem eq_of_mem_entries {t : Table α} {d e : String × α} (hd : d ∈ t.entries)
    (he : e ∈ t.entries) (h : d.1 = e.1) : d = e :=
  List.inj_on_of_nodup_map t.nodup_map_fst_entries hd he h

end Table

namespace Tag

/-! ### Keys of a dictionary -/

theorem mem_dictionary_of_get? {table : Table String} {k v : String} (h : table.get? k = some v) :
    (k.toList, v.toList) ∈ dictionary table :=
  List.mem_map_of_mem (Table.mem_entries_of_get? h)

/-- No two entries of a table's dictionary have the same key. -/
theorem eq_of_mem_dictionary {table : Table String} {d e : List Char × List Char}
    (hd : d ∈ dictionary table) (he : e ∈ dictionary table) (h : d.1 = e.1) : d = e := by
  obtain ⟨d', hd', rfl⟩ := List.mem_map.1 hd
  obtain ⟨e', he', rfl⟩ := List.mem_map.1 he
  rw [Table.eq_of_mem_entries hd' he' (String.toList_inj.1 h)]

/-! ### Splitting a text -/

/-- The text splits into the segments: a reference is to the entry with the longest key that stands
behind the sigil there, and a single character is a segment only where no key does. -/
inductive Splits (sigil : List Char) (dict : List (List Char × List Char)) :
    List Char → List Segment → Prop
  | nil : Splits sigil dict [] []
  | char {c : Char} {cs : List Char} {ss : List Segment}
      (h : ∀ d ∈ dict, d.1 ≠ [] → ¬ sigil ++ d.1 <+: c :: cs) (hss : Splits sigil dict cs ss) :
      Splits sigil dict (c :: cs) (.char c :: ss)
  | reference {e : List Char × List Char} {cs : List Char} {ss : List Segment}
      (h : IsLongestMatch dict (e.1 ++ cs) e) (hss : Splits sigil dict cs ss) :
      Splits sigil dict (sigil ++ (e.1 ++ cs)) (.reference e :: ss)

variable {sigil : List Char} {dict : List (List Char × List Char)}

/-- What a reader meets is a way to split the text. -/
theorem Reads.splits {ss : List Segment} (h : Reads sigil dict ss) :
    Splits sigil dict (sourceOf sigil ss) ss := by
  induction h with
  | nil => exact .nil
  | char hnone _ ih => exact .char (reference?_eq_none_iff.1 hnone) ih
  | @reference e ss hfound _ ih =>
    obtain ⟨rest, hrest, hlongest⟩ := reference?_eq_some hfound
    obtain rfl : sourceOf sigil ss = rest :=
      List.append_cancel_left (List.append_cancel_left hrest)
    rw [sourceOf_reference]
    exact .reference hlongest ih

namespace Splits

/-- The segments, as they are written, are the text. -/
theorem sourceOf_eq {text : List Char} {ss : List Segment} (h : Splits sigil dict text ss) :
    sourceOf sigil ss = text := by
  induction h with
  | nil => rfl
  | char _ _ ih => rw [sourceOf_char, ih]
  | reference _ _ ih => rw [sourceOf_reference, ih]

/-- What is left of the row behind some of its segments splits what is left of the text. -/
theorem of_append {text : List Char} {before after : List Segment}
    (h : Splits sigil dict text (before ++ after)) :
    Splits sigil dict (sourceOf sigil after) after := by
  induction before generalizing text with
  | nil =>
    rw [List.nil_append] at h
    rw [h.sourceOf_eq]
    exact h
  | cons s before ih =>
    rw [List.cons_append] at h
    cases h with
    | char _ hss => exact ih hss
    | reference _ hss => exact ih hss

/-- Where a key stands behind the sigil, a reference with a key at least as long is read. -/
theorem exists_reference_of_prefix {s : Segment} {ss : List Segment}
    (h : Splits sigil dict (sourceOf sigil (s :: ss)) (s :: ss)) {d : List Char × List Char}
    (hd : d ∈ dict) (hne : d.1 ≠ []) (hstands : sigil ++ d.1 <+: sourceOf sigil (s :: ss)) :
    ∃ e, s = .reference e ∧ d.1.length ≤ e.1.length := by
  generalize htext : sourceOf sigil (s :: ss) = text at h hstands
  cases h with
  | char hnone _ => exact absurd hstands (hnone d hd hne)
  | @reference e cs _ hlongest _ =>
    have hkey : d.1 <+: e.1 ++ cs := (List.prefix_append_right_inj sigil).1 hstands
    exact ⟨e, rfl, hlongest.longest d hd hne hkey⟩

end Splits

/-- A reference takes up a part of the text. -/
theorem IsLongestMatch.source_ne_nil {e : List Char × List Char} {cs : List Char}
    (h : IsLongestMatch dict (e.1 ++ cs) e) : sigil ++ (e.1 ++ cs) ≠ [] := fun hnil ↦
  h.ne_nil (List.append_eq_nil_iff.1 (List.append_eq_nil_iff.1 hnil).2).1

/-- Where a reference is read, there is no single character. -/
theorem IsLongestMatch.not_char {e : List Char × List Char} {cs text : List Char}
    (h : IsLongestMatch dict (e.1 ++ cs) e) (htext : sigil ++ (e.1 ++ cs) = text) :
    ¬ ∀ d ∈ dict, d.1 ≠ [] → ¬ sigil ++ d.1 <+: text := by
  intro hnone
  have hkey : sigil ++ e.1 <+: sigil ++ (e.1 ++ cs) :=
    (List.prefix_append_right_inj sigil).2 (List.prefix_append e.1 cs)
  exact hnone e h.mem h.ne_nil (htext ▸ hkey)

section Unique

variable (hkeys : ∀ d ∈ dict, ∀ e ∈ dict, d.1 = e.1 → d = e)
include hkeys

/-- Only one entry has the longest key that a text begins with. -/
theorem IsLongestMatch.eq {cs : List Char} {d e : List Char × List Char}
    (hd : IsLongestMatch dict cs d) (he : IsLongestMatch dict cs e) : d = e := by
  have hle : d.1.length ≤ e.1.length := he.longest d hd.mem hd.ne_nil hd.isPrefix
  have hge : e.1.length ≤ d.1.length := hd.longest e he.mem he.ne_nil he.isPrefix
  have hstands : d.1 <+: e.1 := List.prefix_of_prefix_length_le hd.isPrefix he.isPrefix hle
  exact hkeys d hd.mem e he.mem (hstands.eq_of_length (le_antisymm hle hge))

/-- **A text splits in no two ways.** -/
theorem Splits.eq {text : List Char} {ss ts : List Segment} (hss : Splits sigil dict text ss)
    (hts : Splits sigil dict text ts) : ss = ts := by
  induction hss generalizing ts with
  | nil =>
    generalize htext : ([] : List Char) = text at hts
    cases hts with
    | nil => rfl
    | char _ _ => cases htext
    | reference hlongest _ => exact absurd htext.symm hlongest.source_ne_nil
  | @char c cs ss hnone _ ih =>
    generalize htext : c :: cs = text at hts
    cases hts with
    | nil => cases htext
    | char _ hts =>
      obtain ⟨rfl, rfl⟩ := List.cons.inj htext
      rw [ih hts]
    | reference hlongest _ => exact absurd hnone (hlongest.not_char htext.symm)
  | @reference e cs ss hlongest _ ih =>
    generalize htext : sigil ++ (e.1 ++ cs) = text at hts
    cases hts with
    | nil => exact absurd htext hlongest.source_ne_nil
    | char hnone _ => exact absurd hnone (hlongest.not_char htext)
    | @reference d rest _ hlongest' hts =>
      -- behind the sigil both rows read the same text, which has one longest key
      have hbehind : e.1 ++ cs = d.1 ++ rest := List.append_cancel_left htext
      obtain rfl : e = d := IsLongestMatch.eq hkeys (hbehind ▸ hlongest) hlongest'
      obtain rfl : cs = rest := List.append_cancel_left hbehind
      rw [ih hts]

end Unique

/-- Every text splits by a table in exactly one way, and what the segments show is the substituted
text. -/
theorem exists_splits (sigil : String) (table : Table String) (text : String) :
    ∃ ss, Splits sigil.toList (dictionary table) text.toList ss ∧
      (∀ ts, Splits sigil.toList (dictionary table) text.toList ts → ts = ss) ∧
      substitute sigil table text = String.ofList (shownOf ss) := by
  obtain ⟨ss, hreads, hsource, hshown⟩ :=
    exists_reads sigil.toList (dictionary table) text.toList
  have hsplits : Splits sigil.toList (dictionary table) text.toList ss :=
    hsource ▸ hreads.splits
  refine ⟨ss, hsplits, fun ts hts ↦ ?_, by rw [substitute, hshown]⟩
  exact Splits.eq (fun _ hd _ he ↦ eq_of_mem_dictionary hd he) hts hsplits

end Tag

namespace Resolver

/-- The table for texts of a subject has the subject's term of address for a key, itself
substituted by the tag table, or else the name that the tag table has. -/
theorem get?_tableFor (r : Resolver) (subject key : String) :
    (r.tableFor subject).get? key =
      (((r.callings.get? subject).bind fun calling ↦ calling.get? key).map
        (Tag.substitute r.sigil r.tags)).or (r.tags.get? key) := by
  rw [tableFor]
  cases r.callings.get? subject with
  | none => rfl
  | some calling =>
    show (r.tags.extend (calling.map r.plain)).get? key = _
    rw [Table.get?_extend, Table.get?_map]
    rfl

/-- Whoever speaks, every key of the tag table is a key. -/
theorem isSome_get?_tableFor (r : Resolver) (subject : String) {key : String}
    (h : (r.tags.get? key).isSome) : ((r.tableFor subject).get? key).isSome := by
  rw [get?_tableFor, Option.isSome_or, h, Bool.or_true]

end Resolver

/-- **Substitution is leftmost-longest**: a text splits in exactly one way into references by the
longest key and single characters, and is shown as the values of the references and the characters.
In a text of a subject the keys are those of the tag table and of the subject's calling table, whose
values win and are themselves substituted by the tag table; so wherever a key of the tag table
stands, a reference at least as long is read. -/
theorem substitute_splits :
    (∀ (sigil : String) (table : Table String) (text : String),
      ∃ ss, Tag.Splits sigil.toList (Tag.dictionary table) text.toList ss ∧
        (∀ ts, Tag.Splits sigil.toList (Tag.dictionary table) text.toList ts → ts = ss) ∧
        Tag.substitute sigil table text = String.ofList (Tag.shownOf ss)) ∧
    ∀ (r : Resolver) (subject text : String),
      r.text subject text = Tag.substitute r.sigil (r.tableFor subject) text ∧
      (∀ key, (r.tableFor subject).get? key =
        (((r.callings.get? subject).bind fun calling ↦ calling.get? key).map
          (Tag.substitute r.sigil r.tags)).or (r.tags.get? key)) ∧
      ∀ before s after,
        Tag.Splits r.sigil.toList (Tag.dictionary (r.tableFor subject)) text.toList
          (before ++ s :: after) →
        ∀ key, (r.tags.get? key).isSome → key ≠ "" →
          r.sigil.toList ++ key.toList <+: Tag.sourceOf r.sigil.toList (s :: after) →
          ∃ e, s = .reference e ∧ key.length ≤ e.1.length := by
  refine ⟨Tag.exists_splits, fun r subject text ↦ ⟨rfl, r.get?_tableFor subject, ?_⟩⟩
  intro before s after hsplits key hkey hne hstands
  obtain ⟨value, hvalue⟩ := Option.isSome_iff_exists.1 (r.isSome_get?_tableFor subject hkey)
  have hmem := Tag.mem_dictionary_of_get? hvalue
  have hne' : key.toList ≠ [] := by simpa using hne
  obtain ⟨e, he, hlength⟩ := hsplits.of_append.exists_reference_of_prefix hmem hne' hstands
  exact ⟨e, he, by rwa [← String.length_toList]⟩

/-- The term of address for `S` does not cut the longer key of the tag table. -/
theorem substitute_splits_school :
    let r : Resolver :=
      ⟨.ofList [("School", "High School")], .ofList [("taro", .ofList [("S", "Taro")])], "$"⟩
    let entry := ("School".toList, "High School".toList)
    let school := Tag.Segment.reference entry
    (r.tableFor "taro").get? "S" = some "Taro" ∧ r.text "taro" "$School" = "High School" ∧
      Tag.Splits r.sigil.toList (Tag.dictionary (r.tableFor "taro")) "$School".toList [school] ∧
      (r.tags.get? "School").isSome ∧ "School" ≠ "" ∧
      r.sigil.toList ++ "School".toList <+: Tag.sourceOf r.sigil.toList [school] ∧
      ∃ e, school = .reference e ∧ "School".length ≤ e.1.length := by
  intro r entry school
  have hlongest : Tag.IsLongestMatch (Tag.dictionary (r.tableFor "taro")) (entry.1 ++ []) entry :=
    ⟨by decide, by decide, by decide, by decide⟩
  have hsplits : Tag.Splits r.sigil.toList (Tag.dictionary (r.tableFor "taro")) "$School".toList
      ([] ++ school :: []) := by
    have htext : "$School".toList = r.sigil.toList ++ (entry.1 ++ []) := by decide
    rw [htext]
    exact .reference (e := entry) hlongest .nil
  have hkey : (r.tags.get? "School").isSome := by decide
  have hstands : r.sigil.toList ++ "School".toList <+: Tag.sourceOf r.sigil.toList [school] := by
    decide
  obtain ⟨htext, hget, hreference⟩ := substitute_splits.2 r "taro" "$School"
  refine ⟨?_, ?_, hsplits, hkey, by decide, hstands,
    hreference [] school [] hsplits "School" hkey (by decide) hstands⟩
  · rw [hget]
    decide
  · rw [htext]
    decide

end Manuscript
