import SidecarInjection.Yaml.Character

/-!
# `SidecarInjection.Yaml.Cursor`: places in a text

A cursor is the text that is still to be read, with the place it starts at.
-/

set_option autoImplicit false

namespace SidecarInjection.Yaml

/-- A place in a text. All counts start at zero. -/
structure Position where
  /-- The bytes before it. -/
  offset : Nat
  line : Nat
  /-- The characters before it on its line. -/
  column : Nat
  deriving Repr, Inhabited

/-- The text still to be read, and where it starts. -/
structure Cursor where
  rest : List Char
  position : Position
  /-- The number of characters still to be read. -/
  left : Nat
  deriving Inhabited

namespace Cursor

/-- The start of a text. -/
def start (s : List Char) : Cursor := ⟨s, ⟨0, 0, 0⟩, s.length⟩

/-- The column of a cursor. -/
def column (c : Cursor) : Nat := c.position.column

/-- The bytes before the place that many characters on. -/
def offsetAfter (c : Cursor) (count : Nat) : Nat :=
  (c.rest.take count).foldl (fun n b => n + byteLength b) c.position.offset

/-- Passes over characters of one line. -/
def skip (c : Cursor) (count : Nat) : Cursor where
  rest := c.rest.drop count
  position := ⟨c.offsetAfter count, c.position.line, c.column + count⟩
  left := c.left - count

/-- Passes over a line break of this many characters. -/
def newLine (c : Cursor) (count : Nat) : Cursor where
  rest := c.rest.drop count
  position := ⟨c.offsetAfter count, c.position.line + 1, 0⟩
  left := c.left - count

/-- Reads a line break, if there is one. Every kind of break but the two Unicode
separators is read as a line feed. -/
def readBreak (c : Cursor) : List Char × Cursor :=
  match c.rest with
  | '\r' :: '\n' :: _ => (['\n'], c.newLine 2)
  | b :: _ =>
    if b == '\n' || b == '\r' || b.toNat == 0x85 then (['\n'], c.newLine 1)
    else if isBreak b then ([b], c.newLine 1)
    else ([], c)
  | [] => ([], c)

/-- Reads the longest run of characters of a class that holds no line break. -/
def readWhile (c : Cursor) (p : Char → Bool) : List Char × Cursor :=
  let run := c.rest.takeWhile p
  (run, c.skip run.length)

/-- Passes over the longest run of characters of a class that holds no line
break. -/
def skipWhile (c : Cursor) (p : Char → Bool) : Cursor := (c.readWhile p).2

/-- Passes over blanks and a comment, and then over the line break, if the line
ends there. -/
def finishLine? (c : Cursor) : Option Cursor :=
  let c := c.skipWhile isSpaceOrTab
  let c := if c.rest.head? = some '#' then c.skipWhile fun b => !isBreak b else c
  if startsBreak c.rest then some c.readBreak.2 else none

/-- Whether a line starts here with the mark of a document's start or end. -/
def atDocumentMark (c : Cursor) : Bool :=
  c.column == 0 &&
    match c.rest with
    | '-' :: '-' :: '-' :: rest => startsBlank rest
    | '.' :: '.' :: '.' :: rest => startsBlank rest
    | _ => false

end Cursor

end SidecarInjection.Yaml
