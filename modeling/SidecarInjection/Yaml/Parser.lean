import SidecarInjection.Yaml.Lexer
import SidecarInjection.Yaml.Node

/-!
# `SidecarInjection.Yaml.Parser`: from tokens to documents

A stream is read one document at a time. What cannot be read ends the stream,
but not the documents before it.
-/

set_option autoImplicit false

namespace SidecarInjection.Yaml

/-- The state of reading one document. -/
structure ParserState where
  tokens : List Token
  /-- The tag shorthands, by their handles. -/
  handles : Dict Tag
  /-- The number given to the last anchor of each name. -/
  anchors : Dict Nat
  /-- The number of events so far. -/
  events : Nat
  /-- For each anchor number, the event that starts its node. The last entry of
  a number counts, and comes first. -/
  starts : List (Nat × Nat)
  /-- The anchored nodes that are complete, by their first events. -/
  complete : List (Nat × Node)

/-- A step of reading that may fail. -/
abbrev Parser (α : Type) := StateT ParserState Option α

namespace Parser

/-- The next token. -/
def peek : Parser Token := do return (← get).tokens.headD .unreadable

/-- Passes over the next token. -/
def next : Parser Unit := modify fun s => { s with tokens := s.tokens.tail }

/-- Counts an event. -/
def countEvent : Parser Unit := modify fun s => { s with events := s.events + 1 }

/-- Gives a number to the anchor of the node that starts here. Numbers count the
names seen so far, so a name that is used again may share a number with the next
new name. -/
def openAnchor (name : Option String) : Parser (Option Nat) := do
  let s ← get
  match name with
  | none => return none
  | some name =>
    let number := s.anchors.length
    set { s with anchors := Dict.insert s.anchors name number,
                 starts := (number, s.events) :: s.starts }
    return some s.events

/-- Notes an anchored node that is complete. -/
def closeAnchor (event : Option Nat) (node : Node) : Parser Node := do
  match event with
  | none => return node
  | some event =>
    modify fun s => { s with complete := (event, node) :: s.complete }
    return node

/-- A scalar that is not there. -/
def emptyScalar : Parser Node := do
  countEvent
  return .scalar none .plain ""

/-- An anchor and a tag, in either order. -/
def properties : Parser (Option String × Option (String × Tag)) := do
  match ← peek with
  | .anchor name =>
    next
    match ← peek with
    | .tag handle suffix =>
      next
      return (some name, some (handle, suffix))
    | _ => return (some name, none)
  | .tag handle suffix =>
    next
    match ← peek with
    | .anchor name =>
      next
      return (some name, some (handle, suffix))
    | _ => return (none, some (handle, suffix))
  | _ => return (none, none)

/-- The full form of a tag. -/
def expandTag : Option (String × Tag) → Parser (Option Tag)
  | none => return none
  | some (handle, suffix) => do
    if handle.isEmpty then return some suffix
    match Dict.get? (← get).handles handle with
    | some expansion => return some (expansion ++ suffix)
    | none => failure

/-- Whether a token can start a value between brackets that close with `close`. -/
def startsFlowValue (close t : Token) : Bool := t != .flowEntry && t != close

mutual

/-- Reads a node. `block` allows block collections, and `indentless` a list that
is not indented. -/
def node : Nat → (block indentless : Bool) → Parser Node
  | 0, _, _ => failure
  | fuel + 1, block, indentless => do
    match ← peek with
    | .alias name =>
      next
      match Dict.get? (← get).anchors name with
      | some number =>
        countEvent
        return .alias number
      | none => failure
    | _ =>
      let (anchor, shorthand) ← properties
      let tag ← expandTag shorthand
      let token ← peek
      let bare := anchor.isNone && tag.isNone
      if indentless && token = .blockEntry then
        let event ← openAnchor anchor
        countEvent
        closeAnchor event (.sequence tag (← indentlessItems fuel))
      else
        match token with
        | .scalar style text =>
          next
          let event ← openAnchor anchor
          countEvent
          closeAnchor event (.scalar tag style text)
        | .flowSequenceStart =>
          next
          let event ← openAnchor anchor
          countEvent
          closeAnchor event (.sequence tag (← flowItems fuel true))
        | .flowMappingStart =>
          next
          let event ← openAnchor anchor
          countEvent
          closeAnchor event (.mapping tag (← flowEntries fuel true))
        | .blockSequenceStart =>
          if !block then failure
          next
          let event ← openAnchor anchor
          countEvent
          closeAnchor event (.sequence tag (← blockItems fuel))
        | .blockMappingStart =>
          if !block then failure
          next
          let event ← openAnchor anchor
          countEvent
          closeAnchor event (.mapping tag (← blockEntries fuel))
        | _ =>
          if bare then failure
          let event ← openAnchor anchor
          countEvent
          closeAnchor event (.scalar tag .plain "")

/-- Reads the items of an indented list, past its end. -/
def blockItems : Nat → Parser (List Node)
  | 0 => failure
  | fuel + 1 => do
    match ← peek with
    | .blockEntry =>
      next
      let token ← peek
      let item ←
        if token != .blockEntry && token != .blockEnd then node fuel true false else emptyScalar
      return item :: (← blockItems fuel)
    | .blockEnd =>
      next
      countEvent
      return []
    | _ => failure

/-- Reads the items of a list that is not indented. -/
def indentlessItems : Nat → Parser (List Node)
  | 0 => failure
  | fuel + 1 => do
    match ← peek with
    | .blockEntry =>
      next
      let token ← peek
      let item ←
        if token != .blockEntry && token != .key && token != .value && token != .blockEnd then
          node fuel true false
        else emptyScalar
      return item :: (← indentlessItems fuel)
    | _ =>
      countEvent
      return []

/-- Reads the key or the value of a block mapping, empty where there is none. -/
def blockPart : Nat → Parser Node
  | 0 => failure
  | fuel + 1 => do
    let token ← peek
    if token != .key && token != .value && token != .blockEnd then node fuel true true
    else emptyScalar

/-- Reads the entries of a block mapping, past its end. -/
def blockEntries : Nat → Parser (List (Node × Node))
  | 0 => failure
  | fuel + 1 => do
    match ← peek with
    | .key =>
      next
      let key ← blockPart fuel
      match ← peek with
      | .value =>
        next
        let value ← blockPart fuel
        return (key, value) :: (← blockEntries fuel)
      | _ =>
        let value ← emptyScalar
        return (key, value) :: (← blockEntries fuel)
    | .blockEnd =>
      next
      countEvent
      return []
    | _ => failure

/-- Reads the items of a list between brackets, past its end. -/
def flowItems : Nat → (first : Bool) → Parser (List Node)
  | 0, _ => failure
  | fuel + 1, first => do
    let before ← peek
    if before = .flowSequenceEnd then
      next
      countEvent
      return []
    if !first then
      if before = .flowEntry then next else failure
    match ← peek with
    | .key =>
      next
      let item ← flowPair fuel
      return item :: (← flowItems fuel false)
    | .flowSequenceEnd =>
      next
      countEvent
      return []
    | _ =>
      let item ← node fuel false false
      return item :: (← flowItems fuel false)

/-- Reads a mapping of one entry in a list between brackets. -/
def flowPair : Nat → Parser Node
  | 0 => failure
  | fuel + 1 => do
    countEvent
    let token ← peek
    let key ←
      if token != .value && startsFlowValue .flowSequenceEnd token then node fuel false false
      else do
        -- the token after an absent key is passed over with it
        next
        emptyScalar
    let value ← flowValue fuel .flowSequenceEnd
    countEvent
    return .mapping none [(key, value)]

/-- Reads a colon and a value between brackets, empty where there is none. -/
def flowValue : Nat → (close : Token) → Parser Node
  | 0, _ => failure
  | fuel + 1, close => do
    if (← peek) = .value then
      next
      if startsFlowValue close (← peek) then node fuel false false else emptyScalar
    else emptyScalar

/-- Reads the entries of a mapping between brackets, past its end. -/
def flowEntries : Nat → (first : Bool) → Parser (List (Node × Node))
  | 0, _ => failure
  | fuel + 1, first => do
    let before ← peek
    if before = .flowMappingEnd then
      next
      countEvent
      return []
    if !first then
      if before = .flowEntry then next else failure
    match ← peek with
    | .key =>
      next
      let token ← peek
      let key ←
        if token != .value && startsFlowValue .flowMappingEnd token then node fuel false false
        else emptyScalar
      let value ← flowValue fuel .flowMappingEnd
      return (key, value) :: (← flowEntries fuel false)
    | .flowMappingEnd =>
      next
      countEvent
      return []
    | _ =>
      let key ← node fuel false false
      let value ← emptyScalar
      return (key, value) :: (← flowEntries fuel false)

end

/-- Reads directives. There is one version at most, of a known number, and one
expansion for each handle. -/
def directives : Nat → (version : Bool) → Dict Tag → Parser (Dict Tag)
  | 0, _, handles => return handles
  | fuel + 1, version, handles => do
    match ← peek with
    | .versionDirective major minor =>
      if version || major != 1 || (minor != 1 && minor != 2) then failure
      next
      directives fuel true handles
    | .tagDirective handle expansion =>
      if Dict.contains handles handle then failure
      next
      directives fuel version (Dict.insert handles handle expansion)
    | _ => return handles

/-- The shorthands that every document has, unless it expands them itself. -/
def withDefaultHandles (handles : Dict Tag) : Dict Tag :=
  let add (d : Dict Tag) (handle expansion : String) : Dict Tag :=
    if Dict.contains d handle then d else Dict.insert d handle (Tag.ofAscii expansion.toList)
  add (add handles "!" "!") "!!" "tag:yaml.org,2002:"

/-- Whether a token belongs to the frame of documents. -/
def isFrame : Token → Bool
  | .versionDirective _ _ => true
  | .tagDirective _ _ => true
  | .documentStart => true
  | .documentEnd => true
  | .streamEnd => true
  | _ => false

/-- Reads the root of a document whose start is marked. There may be nothing
after the mark. -/
def markedRoot (fuel : Nat) : Parser Node := do
  if isFrame (← peek) then emptyScalar else node fuel true false

/-- Reads a document. Only the first one of a stream may start without a mark. -/
def document (fuel : Nat) (first : Bool) : Parser Node := do
  if first && !isFrame (← peek) then
    modify fun s => { s with handles := withDefaultHandles [] }
    node fuel true false
  else
    let handles ← directives fuel false []
    modify fun s => { s with handles := withDefaultHandles handles }
    if (← peek) = .documentStart then
      next
      markedRoot fuel
    else failure

/-- Passes over the mark of a document's end. The token after a document must be
readable. -/
def documentEnd : Parser Unit := do
  match ← peek with
  | .unreadable => failure
  | .documentEnd => next
  | _ => return ()

end Parser

/-- The document that a parser's last state holds. -/
def Document.ofState (root : Node) (s : ParserState) : Document :=
  ⟨some root, s.events, s.starts.filterMap fun e =>
    (s.complete.lookup e.2).map fun node => (e.1, node)⟩

/-- Passes over further marks of a document's end. -/
def dropDocumentEnds (tokens : List Token) : List Token := tokens.dropWhile (· == .documentEnd)

/-- The documents of a stream. The last one is absent where the stream cannot be
read on. -/
def documentsFrom : Nat → (first : Bool) → List Token → List (Option Document)
  | 0, _, _ => []
  | steps + 1, first, tokens =>
    let tokens := if first then tokens else dropDocumentEnds tokens
    if tokens.head? = some .streamEnd then []
    else
      let fuel := 4 * tokens.length + 8
      let read : Parser Node := do
        let root ← Parser.document fuel first
        Parser.documentEnd
        return root
      match read.run ⟨tokens, [], [], 0, [], []⟩ with
      | none => [none]
      | some (root, s) => some (.ofState root s) :: documentsFrom steps false s.tokens

/-- The documents of a text. A text without any is one document without a root.
The last one is absent where the text cannot be read on. -/
def documents (text : String) : List (Option Document) :=
  let tokens := tokens text
  match documentsFrom (tokens.length + 1) true tokens with
  | [] => [some ⟨none, 1, []⟩]
  | ds => ds

end SidecarInjection.Yaml
