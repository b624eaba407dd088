import Manuscript.Story.Element

/-!
# Markdown fragments

The pieces of text that the formats share: headings, comments, quotation brackets and the rule
between sections. A page is the text of its fragments without line feeds in front and with one at
the end.
-/

namespace Manuscript.Markdown

/-- The rule between the sections of a report. -/
def rule : String :=
  "----------------------------------------------------------------"

/-- The heading of an element, between empty lines. -/
def heading : Element → String → String
  | .book, t => "\n# " ++ t ++ "\n\n"
  | .chapter, t => "\n## " ++ t ++ "\n\n"
  | .episode, t => "\n### " ++ t ++ "\n\n"
  | .scene, t => "\n**" ++ t ++ "**\n\n"

/-- A comment that readers of the page do not see. -/
def comment (text : String) : String :=
  "<!-- " ++ text ++ " -->\n"

/-- Spoken text in brackets. -/
def speech (text : String) : String :=
  "「" ++ text ++ "」"

/-- Thought text in brackets. -/
def thought (text : String) : String :=
  "『" ++ text ++ "』"

/-- A list item. -/
def bullet (text : String) : String :=
  "- " ++ text ++ "\n"

/-- The text of fragments, one after the other. -/
def concat (fragments : List String) : String :=
  String.join fragments

/-- The characters with a line feed at the end, if there are any. -/
def endLine (cs : List Char) : List Char :=
  if cs = [] ∨ cs.getLast? = some '\n' then cs else cs ++ ['\n']

/-- A page made of fragments. -/
def page (fragments : List String) : String :=
  String.ofList (endLine ((concat fragments).toList.dropWhile (· = '\n')))

end Manuscript.Markdown
