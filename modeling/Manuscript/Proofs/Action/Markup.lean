import Manuscript.Action.Line
import Manuscript.Proofs.Text.Split
import Manuscript.Proofs.Text.Trim

/-!
# Marked lines

A line that begins with `# `, `## ` or `#! ` is a comment, a heading or an instruction, with the
text behind the mark. That is so where the text shows something. A line is read without the blanks
at its end, and where nothing but blanks follows the mark, these take the blank of the mark with
them: what is left of the line is no longer marked, and is read as prose (`parseLine?_marked`).

So there are two ways through the reader, told apart by what stands behind the mark: either the
blanks at the end of that are taken off and the mark stays as it is (`parseLine?_append`), or the
line ends with the bare sign (`parseLine?_append_of_blank`).
-/

namespace Manuscript

/-! ### Instructions -/

/-- An instruction as it is spelled. Its name goes up to the first space; if there is one, what
follows it, without blanks around, is the argument. -/
inductive Instruction.IsSpelled : Instruction → String → Prop
  | name {name : String} (h : ' ' ∉ name.toList) : IsSpelled ⟨name, none⟩ name
  | arg {name : String} (h : ' ' ∉ name.toList) (rest : String) :
    IsSpelled ⟨name, some (Text.trim rest)⟩ (name ++ " " ++ rest)

/-- **An instruction is read as it is spelled**, and in no other way. -/
theorem Instruction.isSpelled_iff {i : Instruction} {text : String} :
    i.IsSpelled text ↔ i = .ofText text := by
  have hspace : " ".toList = [' '] := rfl
  have hnone : Text.splitOnce " " text = none ↔ ' ' ∉ text.toList := by
    rw [Text.splitOnce_eq_none_iff, hspace, List.singleton_infix_iff]
  have hsome {name rest : String} : Text.splitOnce " " text = some (name, rest) ↔
      text = name ++ " " ++ rest ∧ ' ' ∉ name.toList := Text.splitOnce_eq_some_iff hspace
  constructor
  · rintro (⟨hname⟩ | ⟨hname, rest⟩)
    · rw [ofText, hnone.2 hname]
    · rw [ofText, hsome.2 ⟨rfl, hname⟩]
  · rintro rfl
    rw [ofText]
    rcases h : Text.splitOnce " " text with - | ⟨name, rest⟩
    · exact .name (hnone.1 h)
    · obtain ⟨rfl, hname⟩ := hsome.1 h
      exact .arg hname rest

/-! ### Marks -/

theorem readLine?_comment (rest : String) :
    readLine? ("# " ++ rest) = some (.marker (.comment (Text.trim rest))) := by
  rw [readLine?, Text.afterPrefix?_append]

theorem readLine?_heading (rest : String) :
    readLine? ("## " ++ rest) = some (.marker (.heading (Text.trim rest))) := by
  have hcomment : Text.afterPrefix? "# " ("## " ++ rest) = none := by
    rw [Text.afterPrefix?, String.toList_append]
    rfl
  rw [readLine?, hcomment, Text.afterPrefix?_append]

theorem readLine?_instruction (rest : String) :
    readLine? ("#! " ++ rest) = some (.marker (.instruction (.ofText (Text.trim rest)))) := by
  have hcomment : Text.afterPrefix? "# " ("#! " ++ rest) = none := by
    rw [Text.afterPrefix?, String.toList_append]
    rfl
  have hheading : Text.afterPrefix? "## " ("#! " ++ rest) = none := by
    rw [Text.afterPrefix?, String.toList_append]
    rfl
  rw [readLine?, hcomment, hheading, Text.afterPrefix?_append]

/-! ### Whole lines -/

/-- Where the end of a line shows something, only blanks behind that are taken off. -/
theorem parseLine?_append (s : String) {rest : String} (h : Text.isBlankText rest = false) :
    parseLine? (s ++ rest) = readLine? (s ++ Text.trimEnd rest) := by
  have hblank : ¬ Text.isBlankText (s ++ rest) := by simp [Text.isBlankText_append, h]
  have hend : ¬ Text.isBlankText rest := by simp [h]
  rw [parseLine?, if_neg hblank, Text.trimEnd_append, if_neg hend]

/-- Blanks at the end of a line are not read. -/
theorem parseLine?_append_of_blank {s : String} (hs : Text.trim s = s) (hne : s ≠ "")
    {rest : String} (h : Text.isBlankText rest) : parseLine? (s ++ rest) = readLine? s := by
  have hblank : ¬ Text.isBlankText (s ++ rest) := by
    rw [Text.isBlankText_append, Bool.and_eq_true, ← Text.trim_eq_empty_iff, hs]
    exact fun hboth ↦ hne hboth.1
  rw [parseLine?, if_neg hblank, Text.trimEnd_append, if_pos h, Text.trimEnd_of_trim_eq hs]

/-- Where nothing but blanks follows a mark, its sign is read as prose. -/
theorem parseLine?_bare (sign : String) (hs : Text.trim sign = sign) (hne : sign ≠ "")
    (hread : readLine? sign = some (.act (.prose sign))) {rest : String}
    (h : Text.isBlankText rest) :
    parseLine? (sign ++ " " ++ rest) = some (.act (.prose sign)) := by
  have hrest : Text.isBlankText (" " ++ rest) := by
    rw [Text.isBlankText_append, h]
    rfl
  rw [String.append_assoc, parseLine?_append_of_blank hs hne hrest, hread]

/-- **A marked line is a comment, a heading or an instruction** if text follows the mark, and the
sign of the mark is prose if none does. -/
theorem parseLine?_marked (rest : String) :
    (Text.isBlankText rest = false →
      parseLine? ("# " ++ rest) = some (.marker (.comment (Text.trim rest))) ∧
      parseLine? ("## " ++ rest) = some (.marker (.heading (Text.trim rest))) ∧
      ∃ i : Instruction, i.IsSpelled (Text.trim rest) ∧
        parseLine? ("#! " ++ rest) = some (.marker (.instruction i))) ∧
    (Text.isBlankText rest = true →
      parseLine? ("# " ++ rest) = some (.act (.prose "#")) ∧
      parseLine? ("## " ++ rest) = some (.act (.prose "##")) ∧
      parseLine? ("#! " ++ rest) = some (.act (.prose "#!"))) := by
  constructor
  · intro h
    refine ⟨?_, ?_, .ofText (Text.trim rest), Instruction.isSpelled_iff.2 rfl, ?_⟩
    · rw [parseLine?_append _ h, readLine?_comment, Text.trim_trimEnd]
    · rw [parseLine?_append _ h, readLine?_heading, Text.trim_trimEnd]
    · rw [parseLine?_append _ h, readLine?_instruction, Text.trim_trimEnd]
  · intro h
    exact ⟨parseLine?_bare "#" (by decide) (by decide) (by decide) h,
      parseLine?_bare "##" (by decide) (by decide) (by decide) h,
      parseLine?_bare "#!" (by decide) (by decide) (by decide) h⟩

/-- Blanks around an alias are not read, and a blank alone marks nothing. -/
theorem parseLine?_marked_alias :
    let text := " A  T=taro "
    let blank := "\u3000"
    Text.isBlankText text = false ∧ Text.isBlankText blank = true ∧
      (parseLine? ("# " ++ text) = some (.marker (.comment "A  T=taro")) ∧
        parseLine? ("## " ++ text) = some (.marker (.heading "A  T=taro")) ∧
        ∃ i : Instruction, i.IsSpelled "A  T=taro" ∧
          parseLine? ("#! " ++ text) = some (.marker (.instruction i))) ∧
      parseLine? ("# " ++ blank) = some (.act (.prose "#")) ∧
      parseLine? ("## " ++ blank) = some (.act (.prose "##")) ∧
      parseLine? ("#! " ++ blank) = some (.act (.prose "#!")) := by
  intro text blank
  have htext : Text.isBlankText text = false := by decide
  have hblank : Text.isBlankText blank = true := by decide
  have htrim : Text.trim text = "A  T=taro" := by decide
  have hmarked := (parseLine?_marked text).1 htext
  rw [htrim] at hmarked
  exact ⟨htext, hblank, hmarked, (parseLine?_marked blank).2 hblank⟩

/-- The sign of a comment without text is prose, and no comment that is empty. -/
theorem parseLine?_comment_without_text :
    parseLine? ("# " ++ "") = some (.act (.prose "#")) ∧
      parseLine? ("# " ++ "") ≠ some (.marker (.comment (Text.trim ""))) := by
  decide

example : Instruction.ofText "A  T=taro" = ⟨"A", some "T=taro"⟩ := by decide

end Manuscript
