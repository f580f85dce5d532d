import SidecarInjection.Yaml.ScalarText
import SidecarInjection.Yaml.Token

/-!
# `SidecarInjection.Yaml.Lexer`: from a text to its tokens

Indentation becomes explicit: block collections get a start and an end token.
A simple key is only known as a key when its colon is met. Its `key` token, and
the start of its mapping, are then put in front of the tokens of the key. So the
tokens from a possible simple key on wait until it is decided, and where the text
cannot be read on before that, they are lost.
-/

set_option autoImplicit false

namespace SidecarInjection.Yaml

/-- A token that may turn out to start a simple key. -/
structure SimpleKey where
  /-- In this place there can be nothing but a key. -/
  required : Bool
  /-- The number of tokens before it. -/
  number : Nat
  position : Position

/-- The state of reading tokens. -/
structure Lexer where
  cursor : Cursor
  /-- The tokens read so far, the last one first. -/
  tokens : List Token
  /-- The number of tokens read so far. -/
  count : Nat
  /-- The column of the innermost block collection. -/
  indent : Int
  /-- The columns of the block collections around it. -/
  outer : List Int
  /-- Whether a simple key may start here. -/
  keyAllowed : Bool
  /-- The possible simple key of this level. -/
  candidate : Option SimpleKey
  /-- Those of the levels around it, one for each open bracket. -/
  candidates : List (Option SimpleKey)
  /-- Whether the text goes on after its end here, but cannot be read. -/
  broken : Bool

namespace Lexer

/-- The state at the start of a text. -/
def start (broken : Bool) (s : List Char) : Lexer :=
  ⟨.start s, [], 0, -1, [], true, none, [], broken⟩

/-- Whether the lexer is between brackets. -/
def inFlow (l : Lexer) : Bool := !l.candidates.isEmpty

/-- Adds a token. -/
def push (l : Lexer) (t : Token) : Lexer :=
  { l with tokens := t :: l.tokens, count := l.count + 1 }

/-- Puts a token after the first `number` tokens. -/
def insertAt (l : Lexer) (number : Nat) (t : Token) : Lexer :=
  { l with tokens := l.tokens.insertIdx (l.count - number) t, count := l.count + 1 }

/-- Passes over characters. -/
def skip (l : Lexer) (count : Nat) : Lexer := { l with cursor := l.cursor.skip count }

/-- Passes over blanks, comments and line breaks. A byte order mark may start a
line. A tab is refused where a simple key may start outside brackets. There is a
step for every character. -/
def skipSpace : Nat → Lexer → Lexer
  | 0, l => l
  | steps + 1, l =>
    let c := l.cursor
    let c := if c.column = 0 && c.rest.head?.map Char.toNat = some 0xFEFF then c.skip 1 else c
    let tabs := l.inFlow || !l.keyAllowed
    let c := c.skipWhile fun b => b == ' ' || (tabs && b == '\t')
    let c := if c.rest.head? = some '#' then c.skipWhile fun b => !isBreak b else c
    if !c.rest.isEmpty && startsBreak c.rest then
      skipSpace steps { l with cursor := c.readBreak.2, keyAllowed := l.keyAllowed || !l.inFlow }
    else { l with cursor := c }

/-- Whether a possible simple key is too far back to be one: on a line before, or
by more than 1024 bytes. -/
def isStale (at_ : Position) (k : SimpleKey) : Bool :=
  k.position.line < at_.line || k.position.offset + 1024 < at_.offset

/-- Gives up a possible simple key that is too far back. It must not be a
required one. -/
def dropStale (at_ : Position) : Option SimpleKey → Option (Option SimpleKey)
  | none => some none
  | some k => if isStale at_ k then (if k.required then none else some none) else some (some k)

/-- Gives up all simple keys that are too far back. -/
def dropStaleKeys (l : Lexer) : Option Lexer := do
  let candidate ← dropStale l.cursor.position l.candidate
  let candidates ← l.candidates.mapM (dropStale l.cursor.position)
  return { l with candidate, candidates }

/-- Gives up the possible simple key of this level. -/
def dropKey (l : Lexer) : Option Lexer :=
  if l.candidate.any SimpleKey.required then none else some { l with candidate := none }

/-- Notes that a simple key may start here. -/
def saveKey (l : Lexer) : Option Lexer :=
  if l.keyAllowed then
    let required := !l.inFlow && l.indent == (l.cursor.column : Int)
    l.dropKey.map fun l =>
      { l with candidate := some ⟨required, l.count, l.cursor.position⟩ }
  else some l

/-- Opens a block collection at a column right of the current one. Its start
token goes after the first `number` tokens, or to the end. -/
def openBlock (l : Lexer) (column : Nat) (number : Option Nat) (t : Token) : Lexer :=
  if l.inFlow || (column : Int) ≤ l.indent then l
  else
    let l := { l with indent := column, outer := l.indent :: l.outer }
    match number with
    | some n => l.insertAt n t
    | none => l.push t

/-- Closes the block collections right of a column, given the columns around
the innermost one. -/
def closeBlocksFrom (column : Int) (l : Lexer) : List Int → Lexer
  | [] => l
  | parent :: rest =>
    if column < l.indent then
      closeBlocksFrom column { l.push .blockEnd with indent := parent, outer := rest } rest
    else l

/-- Closes the block collections right of a column. -/
def closeBlocks (l : Lexer) (column : Int) : Lexer :=
  if l.inFlow then l else closeBlocksFrom column l l.outer

/-! ### Tags, anchors and directives -/

/-- Whether a character may stand in a tag as it is. -/
def isTagChar (verbatim : Bool) (c : Char) : Bool :=
  isNameChar c ||
    [';', '/', '?', ':', '@', '&', '=', '+', '$', '.', '%', '!', '~', '*', Char.ofNat 39, '(',
      ')'].contains c ||
    (verbatim && [',', '[', ']'].contains c)

/-- One escaped byte of a tag. -/
def readByte : List Char → Option Nat
  | '%' :: a :: b :: _ => do
    let high ← hexValue? a
    let low ← hexValue? b
    return high * 16 + low
  | _ => none

/-- This many further bytes of an escaped character of a tag. -/
def readTail : Nat → List Char → Option Tag
  | 0, _ => some []
  | count + 1, s => do
    let byte ← readByte s
    if byte / 64 = 2 then return UInt8.ofNat byte :: (← readTail count (s.drop 3)) else none

/-- The bytes of an escaped character of a tag. The first one tells their number.
Whether they encode a character is not checked. -/
def readEscaped (s : List Char) : Option Tag := do
  let byte ← readByte s
  let count ←
    if byte < 0x80 then some 0
    else if byte / 32 = 6 then some 1
    else if byte / 16 = 14 then some 2
    else if byte / 8 = 30 then some 3
    else none
  return UInt8.ofNat byte :: (← readTail count (s.drop 3))

/-- Reads the characters of a tag. The bytes are collected from last to first. -/
def readTagChars (verbatim : Bool) : Nat → Tag → Cursor → Option (Tag × Cursor)
  | 0, text, c => some (text.reverse, c)
  | steps + 1, text, c =>
    match c.rest with
    | [] => some (text.reverse, c)
    | b :: _ =>
      if !isTagChar verbatim b then some (text.reverse, c)
      else if b == '%' then
        (readEscaped c.rest).bind fun e =>
          readTagChars verbatim steps (e.reverse ++ text) (c.skip (3 * e.length))
      else readTagChars verbatim steps (UInt8.ofNat b.toNat :: text) (c.skip 1)

/-- Reads the characters of a tag after a head, which counts as part of it. -/
def readTagText (verbatim : Bool) (head : List Char) (c : Cursor) : Option (Tag × Cursor) :=
  (readTagChars verbatim (c.left + 1) [] c).bind fun r =>
    if head.isEmpty && r.1.isEmpty then none
    else some (Tag.cut (Tag.ofAscii (head.drop 1) ++ r.1), r.2)

/-- Reads an exclamation mark, a name and perhaps another exclamation mark. -/
def readHandle (c : Cursor) : Option (List Char × Cursor) :=
  if c.rest.head? = some '!' then
    let name := (c.skip 1).readWhile isNameChar
    if name.2.rest.head? = some '!' then some ('!' :: name.1 ++ ['!'], name.2.skip 1)
    else some ('!' :: name.1, name.2)
  else none

/-- Whether a handle names a tag shorthand. -/
def isShorthand (handle : List Char) : Bool :=
  2 ≤ handle.length && handle.getLast? = some '!'

/-- Reads a tag as a handle and a suffix. -/
def readTag (c : Cursor) : Option (List Char × Tag × Cursor) :=
  if c.rest[1]? = some '<' then do
    let (suffix, c) ← readTagText true [] (c.skip 2)
    if c.rest.head? = some '>' then some ([], suffix, c.skip 1) else none
  else do
    let (handle, c) ← readHandle c
    if isShorthand handle then
      let (suffix, c) ← readTagText false [] c
      return (handle, suffix, c)
    else
      let (suffix, c) ← readTagText false handle c
      return if suffix.isEmpty then ([], Tag.ofAscii ['!'], c) else (['!'], suffix, c)

/-- Adds a tag. -/
def lexTag (l : Lexer) : Option Lexer := do
  let l ← l.saveKey
  let (handle, suffix, c) ← readTag l.cursor
  if startsBlank c.rest || (l.inFlow && c.rest.head? = some ',') then
    return { l with cursor := c, keyAllowed := false }.push
      (.tag (String.ofList handle) suffix)
  else none

/-- Adds an anchor or an alias. -/
def lexAnchor (make : String → Token) (l : Lexer) : Option Lexer := do
  let l ← l.saveKey
  let (name, c) := (l.cursor.skip 1).readWhile isNameChar
  let ended := startsBlank c.rest ||
    c.rest.head?.any fun b => ['?', ':', ',', ']', '}', '%', '@', Char.ofNat 96].contains b
  if name.isEmpty || !ended then none
  else return { l with cursor := c, keyAllowed := false }.push (make (String.ofList name))

/-- Reads a number of at most nine digits. -/
def readVersionNumber (c : Cursor) : Option (Nat × Cursor) :=
  let digits := c.readWhile fun b => '0' ≤ b && b ≤ '9'
  if digits.1.isEmpty || 9 < digits.1.length then none
  else some (digits.1.foldl (fun n b => n * 10 + (b.toNat - 48)) 0, digits.2)

/-- Reads the value of a directive. -/
def readDirectiveValue (name : List Char) (c : Cursor) : Option (Token × Cursor) :=
  if name = ['Y', 'A', 'M', 'L'] then do
    let (major, c) ← readVersionNumber (c.skipWhile isSpaceOrTab)
    if c.rest.head? = some '.' then
      let (minor, c) ← readVersionNumber (c.skip 1)
      return (.versionDirective major minor, c)
    else none
  else if name = ['T', 'A', 'G'] then do
    let (handle, c) ← readHandle (c.skipWhile isSpaceOrTab)
    if handle != ['!'] && handle.getLast? != some '!' then none
    else if !c.rest.head?.any isSpaceOrTab then none
    else
      let (expansion, c) ← readTagText true [] (c.skipWhile isSpaceOrTab)
      if startsBlank c.rest then
        return (.tagDirective (String.ofList handle) expansion, c)
      else none
  else none

/-- Adds a directive. -/
def lexDirective (l : Lexer) : Option Lexer := do
  let l ← (l.closeBlocks (-1)).dropKey
  let (name, c) := (l.cursor.skip 1).readWhile isNameChar
  if name.isEmpty || !startsBlank c.rest then none
  else
    let (token, c) ← readDirectiveValue name c
    let c ← c.finishLine?
    return { l with cursor := c, keyAllowed := false }.push token

/-! ### Tokens -/

/-- Adds the mark of a document's start or end. -/
def lexDocumentMark (l : Lexer) (t : Token) : Option Lexer := do
  let l ← (l.closeBlocks (-1)).dropKey
  return { l with keyAllowed := false }.skip 3 |>.push t

/-- Adds an opening bracket. -/
def lexOpening (l : Lexer) (t : Token) : Option Lexer := do
  let l ← l.saveKey
  return { l with candidates := l.candidate :: l.candidates, candidate := none,
                  keyAllowed := true }.skip 1 |>.push t

/-- Adds a closing bracket. -/
def lexClosing (l : Lexer) (t : Token) : Option Lexer := do
  let l ← l.dropKey
  let l := match l.candidates with
    | k :: rest => { l with candidate := k, candidates := rest }
    | [] => l
  return { l with keyAllowed := false }.skip 1 |>.push t

/-- Adds a comma between brackets. -/
def lexFlowEntry (l : Lexer) : Option Lexer := do
  let l ← l.dropKey
  return { l with keyAllowed := true }.skip 1 |>.push .flowEntry

/-- Adds the dash of a list item. -/
def lexBlockEntry (l : Lexer) : Option Lexer :=
  if !l.inFlow && !l.keyAllowed then none
  else do
    let l ← (l.openBlock l.cursor.column none .blockSequenceStart).dropKey
    return { l with keyAllowed := true }.skip 1 |>.push .blockEntry

/-- Adds the question mark of a key. -/
def lexKey (l : Lexer) : Option Lexer :=
  if !l.inFlow && !l.keyAllowed then none
  else do
    let l ← (l.openBlock l.cursor.column none .blockMappingStart).dropKey
    return { l with keyAllowed := !l.inFlow }.skip 1 |>.push .key

/-- Adds the colon of a value. A possible simple key before it is one. -/
def lexValue (l : Lexer) : Option Lexer :=
  match l.candidate with
  | some k =>
    let l := l.insertAt k.number .key
    let l := l.openBlock k.position.column (some k.number) .blockMappingStart
    some ({ l with candidate := none, keyAllowed := false }.skip 1 |>.push .value)
  | none =>
    if !l.inFlow && !l.keyAllowed then none
    else
      let l := l.openBlock l.cursor.column none .blockMappingStart
      some ({ l with keyAllowed := !l.inFlow }.skip 1 |>.push .value)

/-- Adds a block scalar. -/
def lexBlockScalar (literal : Bool) (l : Lexer) : Option Lexer := do
  let l ← l.dropKey
  let (text, c) ← readBlock literal l.indent l.cursor
  return { l with cursor := c, keyAllowed := true }.push
    (.scalar (if literal then .literal else .folded) (String.ofList text))

/-- Adds a quoted scalar. -/
def lexQuoted (single : Bool) (l : Lexer) : Option Lexer := do
  let l ← l.saveKey
  let (text, c) ← readQuoted single l.cursor
  return { l with cursor := c, keyAllowed := false }.push
    (.scalar (if single then .singleQuoted else .doubleQuoted) (String.ofList text))

/-- Adds a plain scalar. A simple key may start on the line after it. -/
def lexPlain (l : Lexer) : Option Lexer := do
  let l ← l.saveKey
  let (text, broken, c) ← readPlain l.inFlow (l.indent + 1) l.cursor
  return { l with cursor := c, keyAllowed := broken }.push (.scalar .plain (String.ofList text))

/-- Whether a plain scalar may start with this character. -/
def startsPlain (inFlow : Bool) (c : Char) (rest : List Char) : Bool :=
  if c == '-' then !rest.head?.any isSpaceOrTab
  else if c == '?' || c == ':' then !inFlow && !startsBlank rest
  else
    !(isSpaceOrTab c || isBreak c ||
      [',', '[', ']', '{', '}', '#', '&', '*', '!', '|', '>', Char.ofNat 39, '"', '%', '@',
        Char.ofNat 96].contains c)

/-- Adds the token that starts with this character. -/
def lexAt (l : Lexer) (c : Char) (rest : List Char) : Option Lexer :=
  if l.cursor.column = 0 && c == '%' then l.lexDirective
  else if l.cursor.atDocumentMark then
    l.lexDocumentMark (if c == '-' then .documentStart else .documentEnd)
  else if c == '[' then l.lexOpening .flowSequenceStart
  else if c == '{' then l.lexOpening .flowMappingStart
  else if c == ']' then l.lexClosing .flowSequenceEnd
  else if c == '}' then l.lexClosing .flowMappingEnd
  else if c == ',' then l.lexFlowEntry
  else if c == '-' && startsBlank rest then l.lexBlockEntry
  else if c == '?' && (l.inFlow || startsBlank rest) then l.lexKey
  else if c == ':' && (l.inFlow || startsBlank rest) then l.lexValue
  else if c == '*' then l.lexAnchor .alias
  else if c == '&' then l.lexAnchor .anchor
  else if c == '!' then l.lexTag
  else if c == '|' && !l.inFlow then l.lexBlockScalar true
  else if c == '>' && !l.inFlow then l.lexBlockScalar false
  else if c == Char.ofNat 39 then l.lexQuoted true
  else if c == '"' then l.lexQuoted false
  else if startsPlain l.inFlow c rest then l.lexPlain
  else none

/-- Adds the end of the text. A line that is not ended ends here. -/
def lexEnd (l : Lexer) : Option Lexer := do
  let l ← (l.closeBlocks (-1)).dropKey
  let at_ := l.cursor.position
  let position := if at_.column = 0 then at_ else { at_ with line := at_.line + 1, column := 0 }
  return { l with cursor := { l.cursor with position } }.push .streamEnd

/-- The state at the next token, with the block collections closed that end
before it. -/
def advance (l : Lexer) : Option Lexer := do
  let l ← (l.skipSpace (l.cursor.left + 1)).dropStaleKeys
  return l.closeBlocks l.cursor.column

/-- The characters that are looked at to tell what a token is. -/
def lookahead : Nat := 4

/-- Adds the next token. Where the text cannot be read on, there must be text
enough to see what the token is, and that it has ended. -/
def next (l : Lexer) : Option Lexer := do
  let l ← l.advance
  match l.cursor.rest with
  | [] => if l.broken then none else l.lexEnd.bind dropStaleKeys
  | c :: rest =>
    if l.broken && l.cursor.left < lookahead then none
    else
      let l ← l.lexAt c rest
      if l.broken && l.cursor.left = 0 then none else l.dropStaleKeys

/-- Whether the end of the text has been added. -/
def ended (l : Lexer) : Bool := l.tokens.head? = some .streamEnd

/-- The number of tokens before the first possible simple key. -/
def settled (l : Lexer) : Nat :=
  ((l.candidate :: l.candidates).filterMap fun k => k.map SimpleKey.number).foldl min l.count

/-- The tokens that are known when the text cannot be read on. -/
def cutOff (l : Lexer) : List Token := l.tokens.reverse.take l.settled ++ [.unreadable]

/-- Reads all tokens. Every token takes a character, so there are steps enough. -/
def run : Nat → Lexer → List Token
  | 0, l => l.cutOff
  | steps + 1, l =>
    match l.next with
    | none => l.cutOff
    | some l => if l.ended then l.tokens.reverse else run steps l

end Lexer

/-- The bytes that are checked for forbidden characters at a time. -/
def checkedBytes : Nat := 16384

/-- How much of a text may be read: all of it, or the blocks of whole characters
before the first block that holds a forbidden one. `bytes` counts the bytes of
the current block before `rest`, and `kept` is the text before the block. -/
def readablePart (bytes count kept : Nat) : List Char → Option Nat
  | [] => none
  | c :: rest =>
    let full := checkedBytes < bytes + byteLength c
    let kept := if full then count else kept
    let bytes := if full then 0 else bytes
    if isAllowed c then readablePart (bytes + byteLength c) (count + 1) kept rest else some kept

/-- The tokens of a text. -/
def tokens (text : String) : List Token :=
  let s := text.toList
  match readablePart 0 0 0 s with
  | none => Lexer.run (s.length + 1) (.start false s)
  | some count => Lexer.run (count + 1) (.start true (s.take count))

end SidecarInjection.Yaml
