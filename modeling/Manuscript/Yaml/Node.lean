import Manuscript.Yaml.Token

/-!
# From tokens to nodes

A document is a tree of nodes. The parser goes down the tokens with one function for each kind of
collection; a part that may be left out, such as the value of a key, is an empty plain scalar.

Anchors are numbered by the number of different names so far. Every anchored node carries its
number, and an alias the number that its name has at that place. Which node a number stands for is
settled for the whole document: the last one that carries it.
-/

namespace Manuscript.Yaml

/-- A node of a document. -/
inductive Node where
  | alias (anchor : Nat)
  | anchored (anchor : Nat) (content : Node)
  | scalar (tag : Option String) (plain : Bool) (text : String)
  | sequence (tag : Option String) (items : List Node)
  | mapping (tag : Option String) (entries : List (Node × Node))
  deriving Inhabited

/-- What stands for a part that is left out. -/
def Node.absent (tag : Option String) : Node :=
  .scalar tag true ""

/-- What the parser still has to read, and the numbers of the anchors so far. -/
structure Progress where
  tokens : List Token
  anchors : List (String × Nat)
  deriving Repr

namespace Progress

/-- Behind the next token. -/
def advance (s : Progress) : Progress :=
  { s with tokens := s.tokens.drop 1 }

/-- Whether the next token is one of those given. -/
def isAt (s : Progress) (ts : List Token) : Bool :=
  s.tokens.head?.any ts.contains

/-- The number of different anchor names. -/
def anchorCount (s : Progress) : Nat :=
  (s.anchors.map Prod.fst).eraseDups.length

/-- The number that a new anchor of the given name gets, which later aliases refer to. -/
def addAnchor (s : Progress) (name : String) : Nat × Progress :=
  let number := s.anchorCount
  (number, { s with anchors := (name, number) :: s.anchors })

end Progress

/-- The tag and the anchor in front of a node. -/
structure Property where
  tag : Option (String × String)
  anchor : Option String
  deriving DecidableEq, Repr

/-- Reads the tag and the anchor in front of a node, in any order. -/
def properties (s : Progress) : Property × Progress :=
  match s.tokens with
  | .anchor a :: .tag h x :: rest => (⟨some (h, x), some a⟩, { s with tokens := rest })
  | .tag h x :: .anchor a :: rest => (⟨some (h, x), some a⟩, { s with tokens := rest })
  | .anchor a :: rest => (⟨none, some a⟩, { s with tokens := rest })
  | .tag h x :: rest => (⟨some (h, x), none⟩, { s with tokens := rest })
  | _ => (⟨none, none⟩, s)

/-- The expansions of the handles that every document has. -/
def standardHandles : List (String × String) :=
  [("!", "!"), ("!!", "tag:yaml.org,2002:")]

/-- A tag with its handle expanded. -/
def expandTag? (handles : List (String × String)) (tag : Option (String × String)) :
    Option (Option String) :=
  match tag with
  | none => some none
  | some (handle, suffix) =>
    if handle = "" then some (some suffix)
    else (handles.lookup handle).map fun expansion ↦ some (expansion ++ suffix)

/-- The node with the number of its anchor. -/
def Node.withAnchor (n : Node) : Option Nat → Node
  | some number => .anchored number n
  | none => n

/-- The tag of a scalar that is written out. The tag that is nothing but a mark asks for no
tag. -/
def scalarTag (tag : Option String) : Option String :=
  if tag = some "!" then none else tag

/-- Where a node may stand. -/
structure NodePlace where
  /-- Block collections may stand here. -/
  block : Bool
  /-- A block sequence may stand here without being further in. -/
  dashes : Bool
  deriving DecidableEq, Repr

mutual

/-- Reads a node. -/
def node? (handles : List (String × String)) (place : NodePlace) :
    Nat → Progress → Option (Node × Progress)
  | 0, _ => none
  | fuel + 1, s => do
    if let .alias name :: _ := s.tokens then
      return (.alias (← s.anchors.lookup name), s.advance)
    let (property, s) := properties s
    let tag ← expandTag? handles property.tag
    let (number, s) := match property.anchor with
      | some name => ((s.addAnchor name).map some id)
      | none => (none, s)
    let (content, s) ← match s.tokens with
      | .scalar plain text :: _ => some (Node.scalar (scalarTag tag) plain text, s.advance)
      | .flowSequenceStart :: _ => flowSequence? handles tag true [] fuel s.advance
      | .flowMappingStart :: _ => flowMapping? handles tag true [] fuel s.advance
      | .blockEntry :: _ =>
        if place.dashes then dashes? handles tag [] fuel s
        else if property = ⟨none, none⟩ then none
        else some (.absent tag, s)
      | .blockSequenceStart :: _ =>
        if place.block then blockSequence? handles tag [] fuel s.advance
        else if property = ⟨none, none⟩ then none
        else some (.absent tag, s)
      | .blockMappingStart :: _ =>
        if place.block then blockMapping? handles tag [] fuel s.advance
        else if property = ⟨none, none⟩ then none
        else some (.absent tag, s)
      | _ => if property = ⟨none, none⟩ then none else some (.absent tag, s)
    some (content.withAnchor number, s)

/-- Reads a node, unless one of the given tokens shows that it is left out. -/
def nodeUnless? (handles : List (String × String)) (place : NodePlace) (ends : List Token) :
    Nat → Progress → Option (Node × Progress)
  | 0, _ => none
  | fuel + 1, s =>
    if s.isAt ends then some (.absent none, s) else node? handles place fuel s

/-- Reads the entries of a block sequence, up to its end. -/
def blockSequence? (handles : List (String × String)) (tag : Option String) (items : List Node) :
    Nat → Progress → Option (Node × Progress)
  | 0, _ => none
  | fuel + 1, s =>
    match s.tokens with
    | .blockEntry :: _ => do
      let (item, s) ← nodeUnless? handles ⟨true, false⟩ [.blockEntry, .blockEnd] fuel s.advance
      blockSequence? handles tag (item :: items) fuel s
    | .blockEnd :: _ => some (.sequence tag items.reverse, s.advance)
    | _ => none

/-- Reads the entries of a block sequence that is no further in than its mapping. -/
def dashes? (handles : List (String × String)) (tag : Option String) (items : List Node) :
    Nat → Progress → Option (Node × Progress)
  | 0, _ => none
  | fuel + 1, s =>
    match s.tokens with
    | .blockEntry :: _ => do
      let (item, s) ←
        nodeUnless? handles ⟨true, false⟩ [.blockEntry, .key, .value, .blockEnd] fuel s.advance
      dashes? handles tag (item :: items) fuel s
    | _ => some (.sequence tag items.reverse, s)

/-- Reads the entries of a block mapping, up to its end. -/
def blockMapping? (handles : List (String × String)) (tag : Option String)
    (entries : List (Node × Node)) : Nat → Progress → Option (Node × Progress)
  | 0, _ => none
  | fuel + 1, s =>
    match s.tokens with
    | .blockEnd :: _ => some (.mapping tag entries.reverse, s.advance)
    | .key :: _ => do
      let (key, s) ← nodeUnless? handles ⟨true, true⟩ [.key, .value, .blockEnd] fuel s.advance
      let (value, s) ← blockValue? handles fuel s
      blockMapping? handles tag ((key, value) :: entries) fuel s
    | _ => none

/-- Reads the value of an entry of a block mapping. -/
def blockValue? (handles : List (String × String)) :
    Nat → Progress → Option (Node × Progress)
  | 0, _ => none
  | fuel + 1, s =>
    match s.tokens with
    | .value :: _ => nodeUnless? handles ⟨true, true⟩ [.key, .value, .blockEnd] fuel s.advance
    | _ => some (.absent none, s)

/-- Reads the items of a flow sequence, up to its end. An item with a key is a mapping of one
entry. -/
def flowSequence? (handles : List (String × String)) (tag : Option String) (first : Bool)
    (items : List Node) : Nat → Progress → Option (Node × Progress)
  | 0, _ => none
  | fuel + 1, s =>
    if s.isAt [.flowSequenceEnd] then some (.sequence tag items.reverse, s.advance)
    else if !first && !s.isAt [.flowEntry] then none
    else
      let s := if first then s else s.advance
      match s.tokens with
      | .flowSequenceEnd :: _ => some (.sequence tag items.reverse, s.advance)
      | .key :: _ => do
        let (key, s) ← pairKey? handles fuel s.advance
        let (value, s) ← flowValue? handles [.flowEntry, .flowSequenceEnd] fuel s
        flowSequence? handles tag false (.mapping none [(key, value)] :: items) fuel s
      | _ => do
        let (item, s) ← node? handles ⟨false, false⟩ fuel s
        flowSequence? handles tag false (item :: items) fuel s

/-- Reads the key of an item of a flow sequence. Where it is left out, the token that shows it is
passed over. -/
def pairKey? (handles : List (String × String)) : Nat → Progress → Option (Node × Progress)
  | 0, _ => none
  | fuel + 1, s =>
    if s.isAt [.value, .flowEntry, .flowSequenceEnd] then some (.absent none, s.advance)
    else node? handles ⟨false, false⟩ fuel s

/-- Reads the value of an entry in a flow collection, which may be left out. -/
def flowValue? (handles : List (String × String)) (ends : List Token) :
    Nat → Progress → Option (Node × Progress)
  | 0, _ => none
  | fuel + 1, s =>
    match s.tokens with
    | .value :: _ => nodeUnless? handles ⟨false, false⟩ ends fuel s.advance
    | _ => some (.absent none, s)

/-- Reads the entries of a flow mapping, up to its end. An entry without a colon is a key. -/
def flowMapping? (handles : List (String × String)) (tag : Option String) (first : Bool)
    (entries : List (Node × Node)) : Nat → Progress → Option (Node × Progress)
  | 0, _ => none
  | fuel + 1, s =>
    if s.isAt [.flowMappingEnd] then some (.mapping tag entries.reverse, s.advance)
    else if !first && !s.isAt [.flowEntry] then none
    else
      let s := if first then s else s.advance
      match s.tokens with
      | .flowMappingEnd :: _ => some (.mapping tag entries.reverse, s.advance)
      | .key :: _ => do
        let (key, s) ←
          nodeUnless? handles ⟨false, false⟩ [.value, .flowEntry, .flowMappingEnd] fuel s.advance
        let (value, s) ← flowValue? handles [.flowEntry, .flowMappingEnd] fuel s
        flowMapping? handles tag false ((key, value) :: entries) fuel s
      | _ => do
        let (key, s) ← node? handles ⟨false, false⟩ fuel s
        flowMapping? handles tag false ((key, .absent none) :: entries) fuel s

end

/-! ### Documents -/

/-- Reads the directives in front of a document. A version is given once, and so is a handle. -/
def directives? (version : Bool) (handles : List (String × String)) :
    List Token → Option (List (String × String) × List Token)
  | .version major minor :: rest =>
    if version || major ≠ 1 || (minor ≠ 1 && minor ≠ 2) then none
    else directives? true handles rest
  | .tagHandle handle expansion :: rest =>
    if (handles.lookup handle).isSome then none
    else directives? version ((handle, expansion) :: handles) rest
  | rest => some (handles, rest)

/-- Whether tokens hold no further document. -/
def isOver : List Token → Bool
  | .documentEnd :: rest => isOver rest
  | [.streamEnd] => true
  | _ => false

/-- Reads the content of a document and requires that it is the last one. -/
def documentNode? (handles : List (String × String)) (tokens : List Token) : Option Node := do
  let (node, s) ← node? (handles ++ standardHandles) ⟨true, false⟩ (3 * tokens.length + 3)
    ⟨tokens, []⟩
  if isOver s.tokens then some node else none

/-- The node of the only document that the tokens hold. Without a document it is left out. -/
def nodeOfTokens? (tokens : List Token) : Option Node :=
  match tokens with
  | [.streamEnd] => some (.absent none)
  | _ => do
    let (handles, rest) ← directives? false [] tokens
    match rest with
    | .documentStart :: content =>
      match content with
      | .documentStart :: _ => none
      | .version _ _ :: _ => none
      | .tagHandle _ _ :: _ => none
      | .documentEnd :: _ => if isOver content then some (.absent none) else none
      | .streamEnd :: _ => some (.absent none)
      | _ => documentNode? handles content
    | _ => if handles.isEmpty && rest.length = tokens.length then documentNode? [] tokens else none

end Manuscript.Yaml
