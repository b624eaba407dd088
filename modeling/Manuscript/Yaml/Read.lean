import Manuscript.Yaml.Node
import Manuscript.Yaml.Plain
import Manuscript.Yaml.Scan

/-!
# Reading YAML

A text is read in three steps: tokens, the node of its only document, and the datum that the node
stands for, with aliases replaced by what they refer to. Collections may be nested 128 deep, which
also ends an alias that stands inside its own node, and aliases may be followed a hundred times as
often as the document has parts. No mapping has a key twice.
-/

namespace Manuscript.Yaml

mutual

/-- The anchored nodes with their numbers, in the order of the text. -/
def Node.anchors : Node → List (Nat × Node)
  | .alias _ => []
  | .anchored number content => (number, content) :: content.anchors
  | .scalar _ _ _ => []
  | .sequence _ items => anchorsOfItems items
  | .mapping _ entries => anchorsOfEntries entries

/-- The anchored nodes in items. -/
def anchorsOfItems : List Node → List (Nat × Node)
  | [] => []
  | n :: ns => n.anchors ++ anchorsOfItems ns

/-- The anchored nodes in entries. -/
def anchorsOfEntries : List (Node × Node) → List (Nat × Node)
  | [] => []
  | (k, v) :: es => k.anchors ++ v.anchors ++ anchorsOfEntries es

end

mutual

/-- The number of parts of a node, where a collection has a beginning and an end. -/
def Node.partCount : Node → Nat
  | .alias _ => 1
  | .anchored _ content => content.partCount
  | .scalar _ _ _ => 1
  | .sequence _ items => 2 + partCountOfItems items
  | .mapping _ entries => 2 + partCountOfEntries entries

/-- The number of parts of items. -/
def partCountOfItems : List Node → Nat
  | [] => 0
  | n :: ns => n.partCount + partCountOfItems ns

/-- The number of parts of entries. -/
def partCountOfEntries : List (Node × Node) → Nat
  | [] => 0
  | (k, v) :: es => k.partCount + v.partCount + partCountOfEntries es

end

/-- The node without the numbers of its anchors. -/
def Node.bare : Node → Node
  | .anchored _ content => content.bare
  | n => n

/-- The number of aliases that may still be followed. -/
abbrev Resolving := StateT Nat Option

/-- The node that a node stands for: what an alias refers to, and any other node itself. -/
def target (anchors : List (Nat × Node)) (n : Node) : Resolving Node := do
  match n.bare with
  | .alias number =>
    match ← get with
    | 0 => failure
    | left + 1 =>
      set left
      return (← anchors.lookup number).bare
  | n => return n

/-- The datum under a tag of a collection. Only local tags are kept. -/
def collectionDatum (tag : Option String) (d : Datum) : Datum :=
  match tag.bind localTag? with
  | some shown => .tagged shown d
  | none => d

/-- The datum that a node stands for, where collections may be nested so deep. The anchors are
listed from the last one to the first. -/
def datumOf (anchors : List (Nat × Node)) : Nat → Node → Resolving Datum
  | depth, n => do
    match ← target anchors n with
    | .scalar tag plain text => scalarDatum? tag plain text
    | .sequence tag items =>
      match depth with
      | 0 => failure
      | depth + 1 => return collectionDatum tag (.list (← items.mapM (datumOf anchors depth)))
    | .mapping tag entries =>
      match depth with
      | 0 => failure
      | depth + 1 =>
        let es ← entries.mapM fun e ↦ do
          let key ← datumOf anchors depth e.1
          return (key, ← datumOf anchors depth e.2)
        if Datum.hasDuplicateKey es then failure else return collectionDatum tag (.map es)
    | _ => failure

/-- The datum that the node of a document stands for. -/
def datumOfNode? (n : Node) : Option Datum :=
  ((datumOf n.anchors.reverse 128 n).run (100 * n.partCount)).map Prod.fst

/-- Reads a YAML text. -/
def read? (text : String) : Option Datum := do
  datumOfNode? (← nodeOfTokens? (← tokens? text.toList))

end Manuscript.Yaml
