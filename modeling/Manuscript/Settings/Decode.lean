import Manuscript.Decimal.Fixed
import Manuscript.Settings.Basic
import Manuscript.Settings.Layer

/-!
# Settings from data

Settings are read generously: a number may be given as a number, a truth value or a text, and a text
as any scalar. A section is a table, or a list of its settings in order. A setting that is not given
has its default, and unknown ones are passed over.
-/

namespace Manuscript

namespace Setting

/-- A double as a word of 64 bits: the nearest whole number, where a half goes up, or the nearest
word if it is beyond them. -/
def wordOfFloat (x : Float) : Nat :=
  match Decimal.Binary.ofFloat x with
  | .notANumber => 0
  | .infinite negative => if negative then 0 else Word.count 64 - 1
  | .finite negative m q =>
    let num := Decimal.scaled m q
    let den := Decimal.denominatorOf q
    if negative then 0 else min ((2 * num + den) / (2 * den)) (Word.count 64 - 1)

/-- A text as a word of 64 bits, where the words for truth values are one and zero. -/
def wordOfText? (s : String) : Option Nat :=
  let word := Text.asciiLower s
  if word ∈ ["true", "on", "yes"] then some 1
  else if word ∈ ["false", "off", "no"] then some 0
  else (Text.unsigned? 10 s.toList).filter fun n ↦ Word.fitsUnsigned 64 n

/-- A datum as a word of 64 bits. -/
def word? : Datum → Option Nat
  | .int i => if i < 0 then none else some i.toNat
  | .bool b => some (if b then 1 else 0)
  | .float x => some (wordOfFloat x)
  | .text s => wordOfText? s
  | _ => none

/-- A datum as a text. -/
def text? : Datum → Option String
  | .text s => some s
  | .bool b => some (Datum.boolText b)
  | .int i => some (Text.ofInt i)
  | .float x => some (Decimal.plain.write x)
  | _ => none

/-- The values of a section's settings, given their names in order. A section that is absent gives
none. -/
def section? (names : List String) : Option Datum → Option (String → Option Datum)
  | none => some fun _ ↦ none
  | some (.map es) => some fun name ↦ Layer.valueAt? (.text name) es
  | some (.list ds) => some fun name ↦ (names.zip ds).lookup name
  | some _ => none

/-- A setting read from its value, or its default if it has none. -/
def orDefault {α : Type} (read? : Datum → Option α) (default : α) : Option Datum → Option α
  | some d => read? d
  | none => some default

end Setting

/-- The names of the settings of the output. -/
def BuildSettings.names : List String :=
  ["output_dir", "outline_file", "plot_file", "script_file", "novel_file", "info_file", "data_file"]

/-- Reads the settings of the output. -/
def BuildSettings.ofDatum? (d : Option Datum) : Option BuildSettings := do
  let value ← Setting.section? names d
  let text := fun (name : String) (field : BuildSettings → String) ↦
    Setting.orDefault Setting.text? (field .default) (value name)
  some
    { outputFolder := ← text "output_dir" BuildSettings.outputFolder
      outlineFile := ← text "outline_file" BuildSettings.outlineFile
      plotFile := ← text "plot_file" BuildSettings.plotFile
      scriptFile := ← text "script_file" BuildSettings.scriptFile
      novelFile := ← text "novel_file" BuildSettings.novelFile
      infoFile := ← text "info_file" BuildSettings.infoFile
      dataFile := ← text "data_file" BuildSettings.dataFile }

/-- The names of the settings of the paper. -/
def PaperSettings.names : List String := ["columns", "rows"]

/-- Reads the settings of the paper. -/
def PaperSettings.ofDatum? (d : Option Datum) : Option PaperSettings := do
  let value ← Setting.section? names d
  some
    { columns := ← Setting.orDefault Setting.word? PaperSettings.default.columns (value "columns")
      rows := ← Setting.orDefault Setting.word? PaperSettings.default.rows (value "rows") }

/-- The names of the settings of tags. -/
def TagSettings.names : List String := ["mob_count", "self_reference", "tag_prefix"]

/-- Reads the settings of tags. Of the number of copies only the last 32 bits count. -/
def TagSettings.ofDatum? (d : Option Datum) : Option TagSettings := do
  let value ← Setting.section? names d
  let base := TagSettings.default
  let count ← Setting.orDefault Setting.word? base.mobCount (value "mob_count")
  some
    { mobCount := count % Word.count 32
      selfReference := ← Setting.orDefault Setting.text? base.selfReference (value "self_reference")
      sigil := ← Setting.orDefault Setting.text? base.sigil (value "tag_prefix") }

/-- Reads all settings. -/
def Settings.ofDatum? (d : Datum) : Option Settings := do
  let at? := fun name : String ↦ Layer.valueAt? (.text name) (Layer.entriesOf d)
  some ⟨← BuildSettings.ofDatum? (at? "build"), ← PaperSettings.ofDatum? (at? "count"),
    ← TagSettings.ofDatum? (at? "tags")⟩

end Manuscript
