import Manuscript.Text.Blank
import Manuscript.Text.Split

/-!
# Verbs

Every act of a scene has one of seventeen verbs. Three of them have short forms. In a scene body the
verb may also be left to be the one of the act before; a `Slot` is a field that is either given or
to be carried over.
-/

namespace Manuscript

/-- The verbs, in the order of reports. -/
inductive Verb where
  /-- Someone is present. -/
  | be
  /-- Someone enters. -/
  | come
  /-- Something is done; the verb of plain prose. -/
  | «do»
  /-- Something is taken out. -/
  | draw
  /-- Something is explained. -/
  | explain
  /-- Someone leaves. -/
  | go
  /-- Something is obtained. -/
  | «have»
  /-- Someone learns something. -/
  | know
  /-- Something becomes known. -/
  | known
  /-- An event happens. -/
  | occur
  /-- Something is put down. -/
  | put
  /-- Someone recalls something. -/
  | remember
  /-- Something is lost. -/
  | rid
  /-- Someone speaks. -/
  | talk
  /-- Someone thinks. -/
  | think
  /-- A voice is heard from off the scene. -/
  | voice
  /-- Something is worn. -/
  | wear
  deriving DecidableEq, Repr

namespace Verb

/-- All verbs, in the order of reports. -/
def all : List Verb :=
  [be, come, «do», draw, explain, go, «have», know, known, occur, put, remember, rid, talk, think,
   voice, wear]

def name : Verb → String
  | be => "be"
  | come => "come"
  | «do» => "do"
  | draw => "draw"
  | explain => "explain"
  | go => "go"
  | «have» => "have"
  | know => "know"
  | known => "known"
  | occur => "occur"
  | put => "put"
  | remember => "remember"
  | rid => "rid"
  | talk => "talk"
  | think => "think"
  | voice => "voice"
  | wear => "wear"

/-- The short form of a verb, if it has one. -/
def shortName? : Verb → Option String
  | talk => some "t"
  | think => some "th"
  | voice => some "v"
  | _ => none

/-- Reads a verb by its name or short form, in any case of ASCII letters. -/
def ofText? (s : String) : Option Verb :=
  let token := Text.asciiLower s
  all.find? fun v ↦ v.name = token || v.shortName? = some token

end Verb

/-- A field of an act that is given, or the same as in the act before. -/
inductive Slot (α : Type) where
  | same
  | given (value : α)
  deriving DecidableEq, Repr

namespace Slot

variable {α : Type}

/-- The value of a field after an act with the given previous value. -/
def resolve (previous : α) : Slot α → α
  | same => previous
  | given a => a

/-- The value, if one is given. -/
def given? : Slot α → Option α
  | same => none
  | given a => some a

/-- Whether a trimmed token asks for the value of the act before. -/
def isSameToken (token : String) : Bool :=
  token = "-" || token = "同" || Text.asciiLower token = "same"

/-- Reads a text field, blanks around it aside. -/
def ofText (raw : String) : Slot String :=
  let token := Text.trim raw
  if isSameToken token then same else given token

/-- Reads the verb field, blanks around it aside. An empty field is the verb of plain prose. -/
def verbOfText? (raw : String) : Option (Slot Verb) :=
  let token := Text.trim raw
  if token = "" then some (given .do)
  else if isSameToken token then some same
  else (Verb.ofText? token).map given

end Slot

end Manuscript
