import WikiSync.Yaml.Node
import WikiSync.Yaml.Token.Reader

/-!
# Reading YAML Nodes

Builds the tree of a document out of its tokens. The grammar is read by one
function for each kind of collection. A scalar may be left out wherever a node
can stand. A text holds at most one document.

## Main definitions

* `TagLeads`: The meanings of tag handles.
* `readNode?`: Reads one node.
* `readDocument?`: The tree of a text.
-/

namespace WikiSync.Yaml

/-- The meanings of tag handles: what their suffixes are put behind. -/
abbrev TagLeads := List (Bytes × Bytes)

/-- The handles that every document knows. -/
def defaultLeads : TagLeads :=
  [(bytesOf "!".toList, bytesOf "!".toList),
    (bytesOf "!!".toList, bytesOf "tag:yaml.org,2002:".toList)]

/-- What a tag with a handle and a suffix stands for. -/
def resolveTag? (leads : TagLeads) (handle suffix : Bytes) : Option Bytes :=
  if handle.isEmpty then some suffix
  else (leads.lookup handle).map fun lead => lead ++ suffix

/-- What stands in front of the content of a node. -/
structure Properties where
  anchor : Option String
  tag : Option Bytes

/-- Reads the anchor and the tag of a node, in either order. -/
def properties? (leads : TagLeads) : List Token → Option (Properties × List Token)
  | .anchor name :: .tag handle suffix :: ts
  | .tag handle suffix :: .anchor name :: ts =>
    (resolveTag? leads handle suffix).map fun tag => (⟨some name, some tag⟩, ts)
  | .anchor name :: ts => some (⟨some name, none⟩, ts)
  | .tag handle suffix :: ts =>
    (resolveTag? leads handle suffix).map fun tag => (⟨none, some tag⟩, ts)
  | ts => some (⟨none, none⟩, ts)

/-- Where a node stands. -/
inductive Position where
  /-- In a flow collection: block collections cannot start here. -/
  | flow
  | block
  /-- In a block mapping: a sequence need not be indented. -/
  | mappingEntry
deriving DecidableEq

/-- Whether a node is left out in front of a token. -/
def leavesOut (stops : List Token) (ts : List Token) : Bool :=
  match ts with
  | [] => false
  | t :: _ => stops.contains t

/-- The node of tokens. -/
abbrev Named := Node String

mutual

/-- Reads a node. -/
def readNode? (leads : TagLeads) :
    Nat → Position → List Token → Option (Named × List Token)
  | 0, _, _ => none
  | _ + 1, _, .alias name :: ts => some (.alias name, ts)
  | fuel + 1, position, ts => do
    let (props, ts) ← properties? leads ts
    let anchor := props.anchor
    let tag := props.tag
    match ts with
    | .blockEntry :: _ =>
      if position = .mappingEntry then
        let (items, ts) ← readPlainSequence? leads fuel ts
        some (.sequence anchor tag items, ts)
      else emptyNode? props ts
    | .scalar plain text :: ts =>
      -- a lone exclamation mark says that the scalar is no special one
      if tag = some (bytesOf ['!']) then some (.scalar anchor none plain text, ts)
      else some (.scalar anchor tag plain text, ts)
    | .flowSequenceStart :: ts =>
      let (items, ts) ← readFlowSequence? leads fuel true ts
      some (.sequence anchor tag items, ts)
    | .flowMappingStart :: ts =>
      let (entries, ts) ← readFlowMapping? leads fuel true ts
      some (.mapping anchor tag entries, ts)
    | .blockSequenceStart :: ts' =>
      if position = .flow then emptyNode? props ts
      else
        let (items, ts) ← readBlockSequence? leads fuel ts'
        some (.sequence anchor tag items, ts)
    | .blockMappingStart :: ts' =>
      if position = .flow then emptyNode? props ts
      else
        let (entries, ts) ← readBlockMapping? leads fuel ts'
        some (.mapping anchor tag entries, ts)
    | _ => emptyNode? props ts

/-- A node without content, which has to have an anchor or a tag. -/
def emptyNode? (props : Properties) (ts : List Token) : Option (Named × List Token) :=
  if props.anchor.isSome || props.tag.isSome then
    some (.scalar props.anchor props.tag true "", ts)
  else none

/-- Reads a node unless it is left out in front of certain tokens. -/
def readUnless? (leads : TagLeads) :
    Nat → List Token → Position → List Token → Option (Named × List Token)
  | 0, _, _, _ => none
  | fuel + 1, stops, position, ts =>
    if leavesOut stops ts then some (.blank, ts) else readNode? leads fuel position ts

/-- Reads the items of a block sequence. -/
def readBlockSequence? (leads : TagLeads) :
    Nat → List Token → Option (List Named × List Token)
  | 0, _ => none
  | fuel + 1, .blockEntry :: ts => do
    let (item, ts) ← readUnless? leads fuel [.blockEntry, .blockEnd] .block ts
    let (items, ts) ← readBlockSequence? leads fuel ts
    some (item :: items, ts)
  | _ + 1, .blockEnd :: ts => some ([], ts)
  | _ + 1, _ => none

/-- Reads the items of a sequence that is not indented. -/
def readPlainSequence? (leads : TagLeads) :
    Nat → List Token → Option (List Named × List Token)
  | 0, _ => none
  | fuel + 1, .blockEntry :: ts => do
    let (item, ts) ← readUnless? leads fuel [.blockEntry, .key, .value, .blockEnd] .block ts
    let (items, ts) ← readPlainSequence? leads fuel ts
    some (item :: items, ts)
  | _ + 1, ts => some ([], ts)

/-- Reads the entries of a block mapping. -/
def readBlockMapping? (leads : TagLeads) :
    Nat → List Token → Option (List (Named × Named) × List Token)
  | 0, _ => none
  | fuel + 1, .key :: ts => do
    let (k, ts) ← readUnless? leads fuel [.key, .value, .blockEnd] .mappingEntry ts
    let (v, ts) ← readBlockValue? leads fuel ts
    let (entries, ts) ← readBlockMapping? leads fuel ts
    some ((k, v) :: entries, ts)
  | _ + 1, .blockEnd :: ts => some ([], ts)
  | _ + 1, _ => none

/-- Reads the value of an entry of a block mapping. -/
def readBlockValue? (leads : TagLeads) : Nat → List Token → Option (Named × List Token)
  | 0, _ => none
  | fuel + 1, .value :: ts => readUnless? leads fuel [.key, .value, .blockEnd] .mappingEntry ts
  | _ + 1, ts => some (.blank, ts)

/-- Reads the items of a flow sequence. -/
def readFlowSequence? (leads : TagLeads) :
    Nat → Bool → List Token → Option (List Named × List Token)
  | 0, _, _ => none
  | _ + 1, _, .flowSequenceEnd :: ts => some ([], ts)
  | fuel + 1, first, ts => do
    let ts ← flowSeparator? first ts
    match ts with
    | .flowSequenceEnd :: ts => some ([], ts)
    | .key :: ts =>
      let (k, ts) ← readPairKey? leads fuel ts
      let (v, ts) ← readFlowValue? leads fuel .flowSequenceEnd ts
      let (items, ts) ← readFlowSequence? leads fuel false ts
      some (.mapping none none [(k, v)] :: items, ts)
    | ts =>
      let (item, ts) ← readNode? leads fuel .flow ts
      let (items, ts) ← readFlowSequence? leads fuel false ts
      some (item :: items, ts)

/-- The comma between two items of a flow collection. -/
def flowSeparator? (first : Bool) (ts : List Token) : Option (List Token) :=
  if first then some ts
  else match ts with
    | .flowEntry :: ts => some ts
    | _ => none

/-- Reads the key of a pair in a flow sequence. Where the key is left out, the
token in its place goes with it. -/
def readPairKey? (leads : TagLeads) : Nat → List Token → Option (Named × List Token)
  | 0, _ => none
  | fuel + 1, ts =>
    if leavesOut [.value, .flowEntry, .flowSequenceEnd] ts then some (.blank, ts.drop 1)
    else readNode? leads fuel .flow ts

/-- Reads the value of an entry of a flow collection. -/
def readFlowValue? (leads : TagLeads) : Nat → Token → List Token → Option (Named × List Token)
  | 0, _, _ => none
  | fuel + 1, close, .value :: ts => readUnless? leads fuel [.flowEntry, close] .flow ts
  | _ + 1, _, ts => some (.blank, ts)

/-- Reads the entries of a flow mapping. -/
def readFlowMapping? (leads : TagLeads) :
    Nat → Bool → List Token → Option (List (Named × Named) × List Token)
  | 0, _, _ => none
  | _ + 1, _, .flowMappingEnd :: ts => some ([], ts)
  | fuel + 1, first, ts => do
    let ts ← flowSeparator? first ts
    match ts with
    | .flowMappingEnd :: ts => some ([], ts)
    | .key :: ts =>
      let (k, ts) ← readUnless? leads fuel [.value, .flowEntry, .flowMappingEnd] .flow ts
      let (v, ts) ← readFlowValue? leads fuel .flowMappingEnd ts
      let (entries, ts) ← readFlowMapping? leads fuel false ts
      some ((k, v) :: entries, ts)
    | ts =>
      let (k, ts) ← readNode? leads fuel .flow ts
      let (entries, ts) ← readFlowMapping? leads fuel false ts
      some ((k, .blank) :: entries, ts)

end

/-- What the directives of a document say. -/
structure Directives where
  versioned : Bool
  leads : TagLeads

/-- Reads the directives in front of a document. -/
def directives? (d : Directives) : List Token → Option (Directives × List Token)
  | .versionDirective major minor :: ts =>
    if d.versioned || major != 1 || (minor != 1 && minor != 2) then none
    else directives? { d with versioned := true } ts
  | .tagDirective handle lead :: ts =>
    if (d.leads.lookup handle).isSome then none
    else directives? { d with leads := d.leads ++ [(handle, lead)] } ts
  | ts => some (d, ts)

/-- Whether the content of a document is left out in front of tokens. -/
def contentLeftOut : List Token → Bool
  | [] => true
  | .versionDirective _ _ :: _ | .tagDirective _ _ :: _ | .documentStart :: _
  | .documentEnd :: _ => true
  | _ => false

/-- Reads a document and whatever follows it. -/
def document? (ts : List Token) : Option (Named × List Token) := do
  let fuel := 4 * ts.length + 4
  match ts with
  | [] => some (.blank, [])
  | .versionDirective _ _ :: _ | .tagDirective _ _ :: _ | .documentStart :: _ =>
    let (d, ts) ← directives? ⟨false, []⟩ ts
    match ts with
    | .documentStart :: ts =>
      if contentLeftOut ts then some (.blank, ts)
      else readNode? (d.leads ++ defaultLeads) fuel .block ts
    | _ => none
  | _ => readNode? defaultLeads fuel .block ts

/-- The tree of a text, none if the text does not hold exactly one document
or is ill-formed. A text without content holds an empty one. -/
def readDocument? (text : String) : Option Named := do
  let tokens ← readTokens? text
  let (n, ts) ← document? tokens
  if (ts.dropWhile (· == .documentEnd)).isEmpty then some n else none

end WikiSync.Yaml
