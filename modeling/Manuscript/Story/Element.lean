import Manuscript.Text.Split

/-!
# Kinds of documents

A manuscript is made of a book, chapters, episodes and scenes; reference material describes
persons, stages, items, words, events and times. Each kind has a name, and a folder of the project
where its files are kept.
-/

namespace Manuscript

/-- The elements of a manuscript, from the outermost to the innermost. -/
inductive Element where
  | book
  | chapter
  | episode
  | scene
  deriving DecidableEq, Repr

namespace Element

/-- All elements, from the outermost to the innermost. -/
def all : List Element := [book, chapter, episode, scene]

def name : Element → String
  | book => "book"
  | chapter => "chapter"
  | episode => "episode"
  | scene => "scene"

/-- The nesting depth, which is also the order of groups in an outline. -/
def depth : Element → Nat
  | book => 0
  | chapter => 1
  | episode => 2
  | scene => 3

/-- The folder of the element's files. The book lies at the top of the project. -/
def folder? : Element → Option String
  | book => none
  | chapter => some "chapters"
  | episode => some "episodes"
  | scene => some "scenes"

/-- Reads an element's name, in any case of ASCII letters. -/
def ofText? (s : String) : Option Element :=
  all.find? fun e ↦ e.name = Text.asciiLower s

end Element

/-- The kinds of reference material. -/
inductive NameKind where
  | person
  | stage
  | item
  | word
  | event
  | time
  deriving DecidableEq, Repr

namespace NameKind

/-- All kinds of reference material, in the order in which they are loaded. -/
def all : List NameKind := [person, stage, item, word, event, time]

def name : NameKind → String
  | person => "person"
  | stage => "stage"
  | item => "item"
  | word => "word"
  | event => "event"
  | time => "time"

/-- The folder of the kind's files. -/
def folder : NameKind → String
  | person => "persons"
  | stage => "stages"
  | item => "items"
  | word => "words"
  | event => "events"
  | time => "times"

/-- The letter mark in front of a tag that names a record of this kind. Times have none. -/
def tagMark? : NameKind → Option String
  | person => some "n_"
  | stage => some "t_"
  | item => some "i_"
  | word => some "w_"
  | event => some "e_"
  | time => none

end NameKind

end Manuscript
