import Manuscript.Page.Script

/-!
# Scene information

For every scene a table shows which facets changed since the scene before, followed by its acts and
by lists of what happened in it: who was there, who came and went, what was gained and lost, and
which events took place. A list is made from the acts since the last scene start or end; it holds
every name once, in order of first appearance.
-/

namespace Manuscript

/-- Whether a facet differs from that of the scene before. -/
inductive Mark where
  | changed
  | unchanged
  deriving DecidableEq, Repr

/-- The sign of a mark in a transition table. -/
def Mark.sign : Mark → String
  | .changed => "↓"
  | .unchanged => "…"

/-- The marks of a scene after the scene before. -/
def transitionMarks (previous current : SceneHead) : SceneSheet Mark :=
  previous.zipWith (fun p c ↦ if p = c then .unchanged else .changed) current

/-- What happened in one scene. -/
structure SceneInfo where
  persons : List String
  entering : List String
  leaving : List String
  gained : List String
  lost : List String
  placed : List String
  removed : List String
  events : List String
  deriving DecidableEq, Repr

/-- The gist of an act: its outline, or its description if the outline is blank. -/
def Act.gist (a : Act) : String :=
  if Text.isBlankText a.outline then a.description else a.outline

namespace SceneInfo

/-- The names that show something, trimmed, each once and in order of first appearance. -/
def distinct (names : List String) : List String :=
  ((names.map Text.trim).filter (· ≠ "")).eraseDups

/-- The subjects of the acts with one of the given verbs. -/
def subjectsOf (verbs : List Verb) (acts : List Act) : List String :=
  (acts.filter fun a ↦ a.verb ∈ verbs).map Act.subject

/-- The outlines of the acts with one of the given verbs. -/
def outlinesOf (verbs : List Verb) (acts : List Act) : List String :=
  (acts.filter fun a ↦ a.verb ∈ verbs).map Act.outline

/-- What happened in a scene with the given acts, under keys. -/
def ofActs (isPerson : String → Bool) (acts : List Act) : SceneInfo where
  persons := distinct
    ((acts.filter fun a ↦ isPerson a.subject || a.verb = .be).map Act.subject)
  entering := distinct (subjectsOf [.come] acts)
  leaving := distinct (subjectsOf [.go] acts)
  gained := distinct (outlinesOf [.have, .wear] acts)
  lost := distinct (outlinesOf [.rid] acts)
  placed := distinct (outlinesOf [.put] acts)
  removed := distinct (outlinesOf [.draw] acts)
  events := distinct ((acts.filter fun a ↦ a.verb = .occur).map Act.gist)

/-- The lists with their labels, in the order of the report. -/
def sections (i : SceneInfo) : List (String × List String) :=
  [("persons", i.persons), ("entering", i.entering), ("leaving", i.leaving), ("gained", i.gained),
   ("lost", i.lost), ("placed", i.placed), ("removed", i.removed), ("events", i.events)]

/-- The lists with keys shown by name. Keys with one name become one entry. -/
def retag (r : Resolver) (i : SceneInfo) : SceneInfo :=
  let names := fun keys : List String ↦ distinct (keys.map r.subject)
  { persons := names i.persons, entering := names i.entering, leaving := names i.leaving
    gained := names i.gained, lost := names i.lost, placed := names i.placed
    removed := names i.removed, events := names i.events }

end SceneInfo

/-- A record of the scene information. -/
inductive InfoRecord where
  | title (element : Element) (text : String)
  | transition (head : SceneHead) (marks : SceneSheet Mark)
  | comment (text : String)
  | act (verb : Verb) (subject text : String)
  | info (info : SceneInfo)
  deriving DecidableEq, Repr

namespace InfoRecord

/-- The record with its tags resolved. Comments are left as they are. -/
def retag (r : Resolver) : InfoRecord → InfoRecord
  | title e t => title e (r.text "" t)
  | transition head marks => transition (head.retag r) marks
  | comment t => comment t
  | act v s t => act v (r.subject s) (r.text s t)
  | info i => info (i.retag r)

/-- Whether a record is a comment or an act that shows nothing. -/
def isBlank : InfoRecord → Bool
  | comment t => Text.isBlankText t
  | act _ s t => Text.isBlankText s && Text.isBlankText t
  | _ => false

/-- A row of a table. -/
def row (cells : List String) : String :=
  "| " ++ String.intercalate " | " cells ++ " |\n"

/-- The text of a record. -/
def render : InfoRecord → String
  | title e t => Markdown.heading e t
  | transition head marks =>
    row ["camera", "stage", "year", "date", "time"] ++ row (List.replicate 5 "---")
      ++ row ((marks.map Mark.sign).toList) ++ row head.toList ++ "\n"
  | comment t => Markdown.comment t
  | act v s t => Markdown.bullet ("[" ++ v.name ++ "] " ++ s ++ ": " ++ t)
  | info i =>
    "\n" ++ Markdown.concat ((i.sections.filter fun section_ ↦ !section_.2.isEmpty).map
      fun section_ ↦ Markdown.bullet (section_.1 ++ ": " ++ String.intercalate ", " section_.2))

end InfoRecord

namespace SceneInfo

/-- What is known in the course of a stream: the facets as last set, the facets of the scene before,
and the acts since the last scene start or end. -/
structure Course where
  head : SceneHead
  previous : SceneHead
  acts : List Act
  deriving DecidableEq, Repr

/-- The course before the first item. -/
def Course.start : Course := ⟨.blank, .blank, []⟩

/-- The records that a marker makes, and the course after it. -/
def markerRecords (isPerson : String → Bool) (c : Course) : Marker → List InfoRecord × Course
  | .title e t => ([.title e t], c)
  | .heading t => ([.comment t], c)
  | .comment t => ([.comment t], c)
  | .facet f t => ([], { c with head := c.head.set f t })
  | .sceneStart =>
    ([.transition c.head (transitionMarks c.previous c.head)], ⟨c.head, c.head, []⟩)
  | .sceneEnd => ([.info (ofActs isPerson c.acts)], { c with acts := [] })
  | .instruction _ => ([], c)
  | .lineBreak => ([], c)
  | .paragraphStart => ([], c)
  | .paragraphEnd => ([], c)
  | .text _ => ([], c)

/-- The records of a stream from a course on, with tags not yet resolved. -/
def recordsFrom (isPerson : String → Bool) : Course → List Action → List InfoRecord
  | _, [] => []
  | c, .act a :: rest =>
    .act a.verb a.subject a.gist
      :: recordsFrom isPerson { c with acts := c.acts ++ [a] } rest
  | c, .marker m :: rest =>
    let (records, c') := markerRecords isPerson c m
    records ++ recordsFrom isPerson c' rest

/-- The scene information of a stream. -/
def project (r : Resolver) (actions : List Action) : Except Error (List InfoRecord) :=
  if actions.isEmpty then .error (.emptyInput Format.info.name)
  else
    Format.info.nonEmpty
      (((recordsFrom r.isPerson .start actions).map (InfoRecord.retag r)).filter
        fun record ↦ !record.isBlank)

/-- The page of the scene information. -/
def render (records : List InfoRecord) : String :=
  Markdown.page (records.map InfoRecord.render)

end SceneInfo

end Manuscript
