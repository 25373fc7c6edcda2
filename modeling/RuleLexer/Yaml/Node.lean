import RuleLexer.Yaml.Token

/-!
# Nodes of a YAML document

A document is a tree of scalars, sequences and mappings, in which a node may be a reference to an
anchored one. References are kept as such, since what they stand for may contain them.

The tree is read off the tokens. Each reader takes the tokens that are left and gives back those
that follow what it has read. A node takes at least one token or stands between two tokens of the
collection around it, so the number of tokens bounds the number of rounds.
-/
namespace RuleLexer.Yaml

inductive Node
  | scalar (tag : Option (List Char)) (style : ScalarStyle) (text : List Char)
  | sequence (tag : Option (List Char)) (items : List Node)
  | mapping (tag : Option (List Char)) (pairs : List (Node × Node))
  /-- The node with the anchor of a number. -/
  | reference (anchor : Nat)

/-- A document: its node, and its anchored nodes. -/
structure Document where
  root : Node
  anchored : List (Nat × Node)

/-- What is known while a document is read. -/
structure ReadState where
  tokens : List Token
  /-- The prefixes of tags, by their handles. -/
  handles : List (List Char × List Char)
  /-- The latest anchor of each name. -/
  anchors : List (List Char × Nat)
  anchorCount : Nat
  anchored : List (Nat × Node)

namespace ReadState

def next? (state : ReadState) : Option Token := state.tokens.head?

def skip (state : ReadState) : ReadState := { state with tokens := state.tokens.tail }

def nextIn (state : ReadState) (tokens : List Token) : Bool :=
  state.next?.any fun token => token ∈ tokens

/-- Gives an anchor a number. -/
def anchor (state : ReadState) (name : List Char) : ReadState :=
  { state with
    anchors := (name, state.anchorCount) :: state.anchors
    anchorCount := state.anchorCount + 1 }

/-- Notes the node of an anchor. -/
def attach (state : ReadState) (anchor : Option Nat) (node : Node) : ReadState :=
  match anchor with
  | some number => { state with anchored := (number, node) :: state.anchored }
  | none => state

/-- A tag with its handle replaced. -/
def resolveTag (state : ReadState) (handle suffix : List Char) : Option (List Char) :=
  if handle.isEmpty then some suffix
  else (state.handles.lookup handle).map fun lead => lead ++ suffix

/-- The anchor and the tag before a node, in any order. -/
structure Properties where
  anchor : Option Nat
  tag : Option (List Char)

def readAnchor (state : ReadState) : Option Nat × ReadState :=
  match state.tokens with
  | .anchor name :: rest => (some state.anchorCount, { state with tokens := rest }.anchor name)
  | _ => (none, state)

def readTag (state : ReadState) : Option (Option (List Char) × ReadState) :=
  match state.tokens with
  | .tag handle suffix :: rest =>
    (state.resolveTag handle suffix).map fun tag => (some tag, { state with tokens := rest })
  | _ => some (none, state)

def readProperties (state : ReadState) : Option (Properties × ReadState) := do
  let (anchor, state) := state.readAnchor
  let (tag, state) ← state.readTag
  let (later, state) := if anchor.isNone then state.readAnchor else (none, state)
  return (⟨anchor <|> later, tag⟩, state)

end ReadState

/-- A scalar without text where a node is left out. -/
def Node.omitted : Node := .scalar none .plain []

/-- The tag of a scalar; the tag that says no more than its sign is no tag. -/
def scalarTag (tag : Option (List Char)) : Option (List Char) := tag.filter (· ≠ ['!'])

mutual

/-- A node. Block collections are allowed if `block` holds, and a sequence without indentation of
its own if `indentless` holds. -/
def readNode : Nat → (block indentless : Bool) → ReadState → Option (Node × ReadState)
  | 0, _, _, _ => none
  | rounds + 1, block, indentless, state =>
    match state.tokens with
    | .alias name :: rest => do
      let number ← state.anchors.lookup name
      return (.reference number, { state with tokens := rest })
    | _ => do
      let (properties, state) ← state.readProperties
      let tag := properties.tag
      let (node, state) ← match state.next? with
        | some .blockEntry =>
          if indentless then do
            let (items, state) ← readIndentless rounds state
            pure (Node.sequence tag items, state)
          else if properties.anchor.isSome || tag.isSome then
            pure (Node.scalar (scalarTag tag) .plain [], state)
          else none
        | some (.scalar style text) => pure (Node.scalar (scalarTag tag) style text, state.skip)
        | some .sequenceOpen => do
          let (items, state) ← readFlowItems rounds true state.skip
          pure (Node.sequence tag items, state)
        | some .mappingOpen => do
          let (pairs, state) ← readFlowPairs rounds true state.skip
          pure (Node.mapping tag pairs, state)
        | some .blockSequence =>
          if block then do
            let (items, state) ← readBlockItems rounds state.skip
            pure (Node.sequence tag items, state)
          else if properties.anchor.isSome || tag.isSome then
            pure (Node.scalar (scalarTag tag) .plain [], state)
          else none
        | some .blockMapping =>
          if block then do
            let (pairs, state) ← readBlockPairs rounds state.skip
            pure (Node.mapping tag pairs, state)
          else if properties.anchor.isSome || tag.isSome then
            pure (Node.scalar (scalarTag tag) .plain [], state)
          else none
        | _ =>
          if properties.anchor.isSome || tag.isSome then
            pure (Node.scalar (scalarTag tag) .plain [], state)
          else none
      return (node, state.attach properties.anchor node)

/-- A node, unless one of some tokens shows that it is left out. -/
def readNodeUnless : Nat → (stops : List Token) → (block indentless : Bool) → ReadState →
    Option (Node × ReadState)
  | 0, _, _, _, _ => none
  | rounds + 1, stops, block, indentless, state =>
    if state.nextIn stops then some (.omitted, state) else readNode rounds block indentless state

/-- The items of a block sequence up to its end. -/
def readBlockItems : Nat → ReadState → Option (List Node × ReadState)
  | 0, _ => none
  | rounds + 1, state =>
    match state.next? with
    | some .blockEntry => do
      let (item, state) ← readNodeUnless rounds [.blockEntry, .blockEnd] true false state.skip
      let (items, state) ← readBlockItems rounds state
      return (item :: items, state)
    | some .blockEnd => some ([], state.skip)
    | _ => none

/-- The items of a sequence without indentation of its own. -/
def readIndentless : Nat → ReadState → Option (List Node × ReadState)
  | 0, _ => none
  | rounds + 1, state =>
    match state.next? with
    | some .blockEntry => do
      let (item, state) ←
        readNodeUnless rounds [.blockEntry, .key, .value, .blockEnd] true false state.skip
      let (items, state) ← readIndentless rounds state
      return (item :: items, state)
    | _ => some ([], state)

/-- The pairs of a block mapping up to its end. -/
def readBlockPairs : Nat → ReadState → Option (List (Node × Node) × ReadState)
  | 0, _ => none
  | rounds + 1, state =>
    match state.next? with
    | some .key => do
      let stops := [Token.key, .value, .blockEnd]
      let (key, state) ← readNodeUnless rounds stops true true state.skip
      let (value, state) ←
        if state.next? = some .value then readNodeUnless rounds stops true true state.skip
        else some (.omitted, state)
      let (pairs, state) ← readBlockPairs rounds state
      return ((key, value) :: pairs, state)
    | some .blockEnd => some ([], state.skip)
    | _ => none

/-- The items of a sequence in brackets up to its end. A pair may be an item. -/
def readFlowItems : Nat → (isFirst : Bool) → ReadState → Option (List Node × ReadState)
  | 0, _, _ => none
  | rounds + 1, isFirst, state =>
    if state.next? = some .sequenceClose then some ([], state.skip)
    else if !isFirst && state.next? ≠ some .flowEntry then none
    else
      let state := if isFirst then state else state.skip
      match state.next? with
      | some .sequenceClose => some ([], state.skip)
      | some .key => do
        let (key, value, state) ← readPair rounds .sequenceClose state.skip
        let (items, state) ← readFlowItems rounds false state
        return (.mapping none [(key, value)] :: items, state)
      | _ => do
        let (item, state) ← readNode rounds false false state
        let (items, state) ← readFlowItems rounds false state
        return (item :: items, state)

/-- The pairs of a mapping in braces up to its end. -/
def readFlowPairs : Nat → (isFirst : Bool) → ReadState → Option (List (Node × Node) × ReadState)
  | 0, _, _ => none
  | rounds + 1, isFirst, state =>
    if state.next? = some .mappingClose then some ([], state.skip)
    else if !isFirst && state.next? ≠ some .flowEntry then none
    else
      let state := if isFirst then state else state.skip
      match state.next? with
      | some .mappingClose => some ([], state.skip)
      | some .key => do
        let (key, value, state) ← readPair rounds .mappingClose state.skip
        let (pairs, state) ← readFlowPairs rounds false state
        return ((key, value) :: pairs, state)
      | _ => do
        let (key, state) ← readNode rounds false false state
        let (pairs, state) ← readFlowPairs rounds false state
        return ((key, .omitted) :: pairs, state)

/-- A key and its value between brackets or braces, after the sign of the key. -/
def readPair : Nat → (closing : Token) → ReadState → Option (Node × Node × ReadState)
  | 0, _, _ => none
  | rounds + 1, closing, state => do
    let (key, state) ← readNodeUnless rounds [.value, .flowEntry, closing] false false state
    let (value, state) ←
      if state.next? = some .value then
        readNodeUnless rounds [.flowEntry, closing] false false state.skip
      else some (.omitted, state)
    return (key, value, state)

end

/-- The handles of tags that need no directive. -/
def usualHandles : List (List Char × List Char) :=
  [("!".toList, "!".toList), ("!!".toList, "tag:yaml.org,2002:".toList)]

/-- What directives before a document say: whether the version was given, and the handles of tags.
-/
def readDirectives : Bool → List (List Char × List Char) → List Token →
    Option (List (List Char × List Char) × List Token)
  | versioned, handles, .version major minor :: rest =>
    if versioned ∨ major ≠ 1 ∨ (minor ≠ 1 ∧ minor ≠ 2) then none
    else readDirectives true handles rest
  | versioned, handles, .tagAlias handle lead :: rest =>
    if handles.any fun (other, _) => other = handle then none
    else readDirectives versioned ((handle, lead) :: handles) rest
  | _, handles, tokens => some (handles, tokens)

/-- The only document of a text. -/
def Document.read? (text : List Char) : Option Document := do
  let tokens ← Token.ofText? text
  let (handles, rest) ← readDirectives false [] tokens
  let explicit := rest.head? = some .documentStart
  if rest.length < tokens.length ∧ !explicit then none
  let body := if explicit then rest.tail else rest
  if body.isEmpty ∧ !explicit then none
  let state : ReadState := ⟨body, handles ++ usualHandles, [], 0, []⟩
  let stops := [Token.documentStart, .documentEnd]
  let leftOut := explicit && (body.isEmpty || state.nextIn stops)
  let (root, state) ←
    if leftOut then some (Node.omitted, state)
    else readNode (4 * tokens.length + 4) true false state
  if state.tokens.all (· = .documentEnd) then return ⟨root, state.anchored⟩
  none

end RuleLexer.Yaml
