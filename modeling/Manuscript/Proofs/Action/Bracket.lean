import Mathlib.Tactic.MkIffOfInductiveProp
import Manuscript.Action.Line
import Manuscript.Proofs.Text.Number
import Manuscript.Proofs.Text.Split
import Manuscript.Proofs.Text.Trim

/-!
# Acts on a line

An act is written on one line: its subject, verb, outline and flags in a bracket, between colons,
the description behind it, and the note, if there is one, behind `# `. Read back, the line gives the
act (`parseLine?_line`), provided that each text leaves its end to be found (`Act.IsWritable`). The
ends are not the same everywhere. A cell of the bracket ends at a colon and the bracket at its first
`]`, but in the description and the note these are characters like any other. The description ends
at its first `# `, which the note may hold again. A note is written with a blank in front of its
mark, and so a `#` that the description closes with would be taken for the mark.

What the reader finds is said part by part: the verb (`Slot.verbOfText?_of_isSpelled`), the cells of
the bracket (`Draft.ofBracket?_cells`) and the texts behind it (`descriptionAndNote_remarks`).
-/

namespace Manuscript

/-! ### The fields of an act -/

namespace Text

/-- A letter lies in one of two ranges. -/
theorem toNat_of_isAlpha {c : Char} (h : c.isAlpha) :
    65 ≤ c.toNat ∧ c.toNat ≤ 90 ∨ 97 ≤ c.toNat ∧ c.toNat ≤ 122 := by
  rcases Bool.or_eq_true_iff.1 h with hupper | hlower
  · obtain ⟨hfirst, hlast⟩ := of_decide_eq_true hupper
    exact .inl ⟨UInt32.le_iff_toNat_le.1 hfirst, UInt32.le_iff_toNat_le.1 hlast⟩
  · obtain ⟨hfirst, hlast⟩ := Bool.and_eq_true_iff.1 hlower
    exact .inr ⟨UInt32.le_iff_toNat_le.1 (of_decide_eq_true hfirst),
      UInt32.le_iff_toNat_le.1 (of_decide_eq_true hlast)⟩

theorem isBlank_of_isAlpha {c : Char} (h : c.isAlpha) : isBlank c = false := by
  have hcode := toNat_of_isAlpha h
  exact isBlank_of_toNat (by omega)

/-- Only letters have a small form that is a small letter. -/
theorem isAlpha_of_isLower_toLower {c : Char} (h : c.toLower.isLower) : c.isAlpha := by
  by_cases hupper : c.isUpper
  · exact Bool.or_eq_true_iff.2 (.inl hupper)
  · have hsame : c.toLower = c := dif_neg fun hrange ↦ hupper (decide_eq_true hrange)
    rw [hsame] at h
    exact Bool.or_eq_true_iff.2 (.inr h)

end Text

namespace Verb

/-- The ways of writing a verb in small letters. -/
def spellings (v : Verb) : List String :=
  v.name :: v.shortName?.toList

/-- The token is the name of the verb or its short form, in any case of ASCII letters. -/
def IsSpelled (v : Verb) (token : String) : Prop :=
  Text.asciiLower token ∈ v.spellings

theorem isSpelled_name (v : Verb) : v.IsSpelled v.name := by
  have hname : Text.asciiLower v.name = v.name := by cases v <;> decide
  rw [IsSpelled, hname]
  exact List.mem_cons_self

variable {v : Verb} {token : String}

/-- **A verb that is spelled is read**: no two verbs are spelled alike. -/
theorem ofText?_of_isSpelled (h : v.IsSpelled token) : ofText? token = some v := by
  have hspellings : ∀ s ∈ v.spellings,
      (all.find? fun w ↦ w.name = s || w.shortName? = some s) = some v := by
    cases v <;> decide
  exact hspellings _ h

/-- A verb is spelled with letters. -/
theorem isAlpha_of_isSpelled (h : v.IsSpelled token) {c : Char} (hc : c ∈ token.toList) :
    c.isAlpha := by
  have hspellings : ∀ s ∈ v.spellings, s.toList.all Char.isLower := by
    cases v <;> decide
  have hlower : c.toLower ∈ (Text.asciiLower token).toList := by
    rw [Text.asciiLower, String.toList_ofList]
    exact List.mem_map_of_mem hc
  exact Text.isAlpha_of_isLower_toLower (List.all_eq_true.1 (hspellings _ h) _ hlower)

theorem trim_of_isSpelled (h : v.IsSpelled token) : Text.trim token = token :=
  Text.trim_of_isTrimmed <| Text.isTrimmed_of_forall fun _ hc ↦
    Text.isBlank_of_isAlpha (isAlpha_of_isSpelled h hc)

end Verb

namespace Slot

/-- A verb that is spelled is neither left out nor left to be the one before. -/
theorem verbOfText?_of_isSpelled {v : Verb} {token : String} (h : v.IsSpelled token) :
    verbOfText? token = some (given v) := by
  have hwords : ∀ s ∈ ["", "-", "同", "same"], s ∉ v.spellings := by
    cases v <;> decide
  have hempty : token ≠ "" := by
    rintro rfl
    exact hwords "" (by decide) h
  have hsame : ¬ isSameToken token := by
    rw [isSameToken, Bool.or_eq_true, Bool.or_eq_true, decide_eq_true_iff, decide_eq_true_iff,
      decide_eq_true_iff]
    rintro ((rfl | rfl) | hlower)
    · exact hwords "-" (by decide) h
    · exact hwords "同" (by decide) h
    · exact hwords "same" (by decide) (hlower ▸ h)
  rw [verbOfText?, Verb.trim_of_isSpelled h]
  simp only [if_neg hempty, if_neg hsame, Verb.ofText?_of_isSpelled h, Option.map_some]

theorem ofText_eq_given {s : String} (h : Text.trim s = s) (hsame : isSameToken s = false) :
    ofText s = given s := by
  simp only [ofText, h, hsame, Bool.false_eq_true, if_false]

end Slot

/-! ### The bracket -/

/-- A text that fills a cell of a bracket: no blanks around it, and nothing in it ends the cell. -/
@[mk_iff]
structure Text.IsCell (s : String) : Prop where
  trim_eq : trim s = s
  colon : ':' ∉ s.toList
  close : ']' ∉ s.toList

instance : DecidablePred Text.IsCell := fun s ↦
  decidable_of_iff' _ (Text.isCell_iff s)

theorem Verb.isCell_of_isSpelled {v : Verb} {token : String} (h : v.IsSpelled token) :
    Text.IsCell token where
  trim_eq := trim_of_isSpelled h
  colon := fun hmem ↦ absurd (isAlpha_of_isSpelled h hmem) (by decide)
  close := fun hmem ↦ absurd (isAlpha_of_isSpelled h hmem) (by decide)

/-- A bracket is read where its first `]` stands. -/
theorem readLine?_bracket {head tail : String} (hhead : ']' ∉ head.toList)
    (htail : '\n' ∉ tail.toList) :
    readLine? ("[" ++ head ++ "]" ++ tail) = (Draft.ofBracket? head tail).map .act := by
  have hline :
      ("[" ++ head ++ "]" ++ tail).toList = '[' :: (head.toList ++ ']' :: tail.toList) := by
    rw [String.toList_append, String.toList_append, String.toList_append, List.append_assoc]
    rfl
  have hbracket :
      bracket? ("[" ++ head ++ "]" ++ tail).toList = some (head.toList, tail.toList) := by
    rw [hline, bracket?, Text.cutAt_append_cons hhead]
    exact if_neg htail
  have hmark : ∀ pre ∈ ["# ", "## ", "#! "],
      Text.afterPrefix? pre ("[" ++ head ++ "]" ++ tail) = none := by
    intro pre hpre
    rw [Text.afterPrefix?, hline]
    simp only [List.mem_cons, List.not_mem_nil, or_false] at hpre
    rcases hpre with rfl | rfl | rfl <;> rfl
  rw [readLine?, hmark "# " (by decide), hmark "## " (by decide), hmark "#! " (by decide), hbracket]
  simp only [String.ofList_toList]

/-- The cells of a bracket are read one by one. -/
theorem Draft.ofBracket?_cells {subject token outline : String} {flags : List String}
    (h : ∀ cell ∈ subject :: token :: outline :: flags, Text.IsCell cell) (tail : String) :
    Draft.ofBracket? (":".intercalate (subject :: token :: outline :: flags)) tail =
      (Slot.verbOfText? token).map fun verb ↦
        ⟨verb, .ofText subject, .ofText outline, (descriptionAndNote tail).1,
          flags.filter (· ≠ ""), (descriptionAndNote tail).2⟩ := by
  have hcells : Text.fields ':' (":".intercalate (subject :: token :: outline :: flags)) =
      subject :: token :: outline :: flags :=
    Text.fields_intercalate (List.cons_ne_nil _ _) fun cell hcell ↦ (h cell hcell).colon
  have hflags : flags.map Text.trim = flags := by
    refine (List.map_congr_left fun flag hflag ↦ ?_).trans (List.map_id flags)
    exact (h flag (by simp [hflag])).trim_eq
  rw [ofBracket?, hcells]
  simp only [List.getD_cons_zero, List.getD_cons_succ, List.drop_succ_cons, List.drop_zero, hflags]

/-! ### The texts behind the bracket -/

/-- What stands behind the bracket of an act. -/
def Act.remarks (a : Act) : String :=
  if a.note = "" then a.description else a.description ++ " # " ++ a.note

/-- The line that an act is written on, its verb by the given token. -/
def Act.line (a : Act) (token : String) : String :=
  "[" ++ ":".intercalate (a.subject :: token :: a.outline :: a.flags) ++ "]" ++ a.remarks

/-- The act with all its fields given. -/
def Act.draft (a : Act) : Draft :=
  ⟨.given a.verb, .given a.subject, .given a.outline, a.description, a.flags, a.note⟩

/-- A text that stands behind a bracket, or behind the mark of a note. -/
@[mk_iff]
structure Text.IsRemark (s : String) : Prop where
  trim_eq : trim s = s
  lineFeed : '\n' ∉ s.toList

instance : DecidablePred Text.IsRemark := fun s ↦
  decidable_of_iff' _ (Text.isRemark_iff s)

/-- An act whose texts are told apart on a line: those in the bracket fill its cells and are no
words for a text from before, and of those behind it the first shows no mark before its end. -/
@[mk_iff]
structure Act.IsWritable (a : Act) : Prop where
  subject : Text.IsCell a.subject
  subject_not_same : Slot.isSameToken a.subject = false
  outline : Text.IsCell a.outline
  outline_not_same : Slot.isSameToken a.outline = false
  flags : ∀ flag ∈ a.flags, Text.IsCell flag ∧ flag ≠ ""
  description : Text.IsRemark a.description
  note : Text.IsRemark a.note
  mark : ¬ "# ".toList <:+: a.description.toList
  sign : a.note ≠ "" → a.description.toList.getLast? ≠ some '#'

instance : DecidablePred Act.IsWritable := fun a ↦
  decidable_of_iff' _ (Act.isWritable_iff a)

/-- A mark behind a blank does not begin to occur earlier than in the text or at its end. -/
theorem Text.not_infix_mark {cs : List Char} (h : ¬ "# ".toList <:+: cs)
    (hlast : cs.getLast? ≠ some '#') : ¬ "# ".toList <:+: cs ++ [' '] ++ ['#'] := by
  have hmark : "# ".toList = ['#'] ++ [' '] := rfl
  have hends {ds : List Char} {c : Char} (hsuffix : ['#'] ++ [' '] <:+ ds ++ [c]) :
      ' ' = c ∧ ['#'] <:+ ds := by
    obtain hnil | ⟨start, heq, hstart⟩ := List.suffix_concat_iff.1 hsuffix
    · cases hnil
    · obtain ⟨rfl, hc⟩ := List.append_inj' heq rfl
      exact ⟨List.head_eq_of_cons_eq hc, hstart⟩
  rw [hmark, List.infix_concat_iff, List.infix_concat_iff]
  rintro (hsuffix | hsuffix | hinfix)
  · exact absurd (hends hsuffix).1 (by decide)
  · obtain ⟨start, rfl⟩ := (hends hsuffix).2
    exact hlast List.getLast?_concat
  · exact h hinfix

variable {a : Act}

/-- **The description and the note are told apart.** -/
theorem descriptionAndNote_remarks (ha : a.IsWritable) :
    descriptionAndNote a.remarks = (a.description, a.note) := by
  rw [descriptionAndNote, Act.remarks]
  split_ifs with hnote
  · rw [Text.splitOnce_eq_none_iff.2 ha.mark, ha.description.trim_eq, hnote]
  · have hsplit : Text.splitOnce "# " (a.description ++ " # " ++ a.note) =
        some (a.description ++ " ", a.note) := by
      have hmark : a.description ++ " # " = a.description ++ " " ++ "# " := by
        rw [String.append_assoc]
        rfl
      rw [hmark]
      refine Text.splitOnce_append (by decide) ?_ a.note
      rw [String.toList_append]
      exact Text.not_infix_mark ha.mark (ha.sign hnote)
    have hdescription : Text.trim (a.description ++ " ") = a.description := by
      rw [← Text.trim_trimEnd, Text.trimEnd_append, if_pos (by decide), Text.trim_trimEnd,
        ha.description.trim_eq]
    rw [hsplit]
    simp only [hdescription, ha.note.trim_eq]

theorem Act.lineFeed_not_mem_remarks (ha : a.IsWritable) : '\n' ∉ a.remarks.toList := by
  rw [remarks]
  split_ifs
  · exact ha.description.lineFeed
  · rw [String.toList_append, String.toList_append, List.mem_append, List.mem_append]
    rintro ((hmem | hmem) | hmem)
    · exact ha.description.lineFeed hmem
    · exact absurd hmem (by decide)
    · exact ha.note.lineFeed hmem

theorem Act.trimEnd_remarks (ha : a.IsWritable) : Text.trimEnd a.remarks = a.remarks := by
  rw [remarks]
  split_ifs with hnote
  · exact Text.trimEnd_of_trim_eq ha.description.trim_eq
  · have hshows : ¬ Text.isBlankText a.note := by
      rwa [← Text.trim_eq_empty_iff, ha.note.trim_eq]
    rw [Text.trimEnd_append, if_neg hshows, Text.trimEnd_of_trim_eq ha.note.trim_eq]

/-! ### Whole lines -/

/-- A line with a bracket is read as it stands, if nothing is trimmed from the text behind it. -/
theorem parseLine?_bracket {head tail : String} (hhead : ']' ∉ head.toList)
    (htail : '\n' ∉ tail.toList) (htrim : Text.trimEnd tail = tail) :
    parseLine? ("[" ++ head ++ "]" ++ tail) = (Draft.ofBracket? head tail).map .act := by
  have hclosed : Text.trimEnd ("[" ++ head ++ "]") = "[" ++ head ++ "]" := by
    rw [Text.trimEnd_append, if_neg (by decide)]
    rfl
  have hshows : ¬ Text.isBlankText ("[" ++ head ++ "]" ++ tail) := by
    have hopen : Text.isBlankText "[" = false := by decide
    simp [Text.isBlankText_append, hopen]
  rw [parseLine?, if_neg hshows, Text.trimEnd_append_of_trimEnd hclosed htrim,
    readLine?_bracket hhead htail]

/-- **An act that is written on a line is read back from it.** -/
theorem parseLine?_line (ha : a.IsWritable) {token : String} (htoken : a.verb.IsSpelled token) :
    parseLine? (a.line token) = some (.act a.draft) := by
  have hcells : ∀ cell ∈ a.subject :: token :: a.outline :: a.flags, Text.IsCell cell := by
    simp only [List.forall_mem_cons]
    exact ⟨ha.subject, Verb.isCell_of_isSpelled htoken, ha.outline, fun f hf ↦ (ha.flags f hf).1⟩
  have hclose : ']' ∉ (":".intercalate (a.subject :: token :: a.outline :: a.flags)).toList :=
    Text.not_mem_intercalate (show ']' ≠ ':' by decide) fun cell hcell ↦ (hcells cell hcell).close
  have hflags : a.flags.filter (· ≠ "") = a.flags :=
    List.filter_eq_self.2 fun f hf ↦ decide_eq_true (ha.flags f hf).2
  have hsubject : Slot.ofText a.subject = .given a.subject :=
    Slot.ofText_eq_given ha.subject.trim_eq ha.subject_not_same
  have houtline : Slot.ofText a.outline = .given a.outline :=
    Slot.ofText_eq_given ha.outline.trim_eq ha.outline_not_same
  rw [Act.line,
    parseLine?_bracket hclose (Act.lineFeed_not_mem_remarks ha) (Act.trimEnd_remarks ha),
    Draft.ofBracket?_cells hcells, Slot.verbOfText?_of_isSpelled htoken,
    descriptionAndNote_remarks ha, hflags, hsubject, houtline]
  rfl

/-- Colons and brackets behind the bracket, a mark in the note, and a `#` where no note follows. -/
theorem parseLine?_line_two_acts :
    let a : Act := ⟨.talk, "花子", "", "[go]: wait", ["key", "left hand"], "see # 2: ]"⟩
    let b : Act := ⟨.go, "", "pier", "gate 4#", [], ""⟩
    a.line "T" = "[花子:T::key:left hand][go]: wait # see # 2: ]" ∧
      b.line "go" = "[:go:pier]gate 4#" ∧
      parseLine? (a.line "T") = some (.act a.draft) ∧
      parseLine? (b.line "go") = some (.act b.draft) := by
  intro a b
  have ha : a.IsWritable := by decide
  have hb : b.IsWritable := by decide
  have htoken : a.verb.IsSpelled "T" := List.mem_cons_of_mem _ (List.mem_singleton.2 (by decide))
  exact ⟨by decide, by decide, parseLine?_line ha htoken, parseLine?_line hb b.verb.isSpelled_name⟩

end Manuscript
