import SidecarInjection.Yaml.Cursor

/-!
# `SidecarInjection.Yaml.ScalarText`: reading scalars of every style

Plain and quoted scalars run over several lines. A single line break between
their lines is read as a space, and further ones as line breaks. Block scalars
keep their lines, or fold them in the same way.
-/

set_option autoImplicit false

namespace SidecarInjection.Yaml

/-- What stands between two pieces of a scalar. -/
structure Gap where
  /-- Whether a line has ended in it. -/
  broken : Bool
  /-- The blanks before any line break. -/
  blanks : List Char
  /-- The first line break. -/
  first : List Char
  /-- The line breaks after the first. -/
  more : List Char

namespace Gap

/-- Nothing. -/
def empty : Gap := ⟨false, [], [], []⟩

/-- What a gap is read as. -/
def text (g : Gap) : List Char :=
  if !g.broken then g.blanks
  else if g.first.head? = some '\n' then (if g.more.isEmpty then [' '] else g.more)
  else g.first ++ g.more

/-- Reads on over blanks and line breaks. With `indent`, a tab left of that
column is refused. There is a step for every character. -/
def read (indent : Option Int) : Nat → Gap → Cursor → Option (Gap × Cursor)
  | 0, g, c => some (g, c)
  | steps + 1, g, c =>
    match c.rest with
    | [] => some (g, c)
    | b :: _ =>
      if isSpaceOrTab b then
        if g.broken && b == '\t' && indent.any fun i => (c.column : Int) < i then none
        else if g.broken then read indent steps g (c.skip 1)
        else read indent steps { g with blanks := g.blanks ++ [b] } (c.skip 1)
      else if isBreak b then
        let next := c.readBreak
        if g.broken then read indent steps { g with more := g.more ++ next.1 } next.2
        else read indent steps ⟨true, [], next.1, g.more⟩ next.2
      else some (g, c)

end Gap

/-! ### Plain scalars -/

/-- Whether a character has a meaning of its own between brackets. -/
def isFlowIndicator (c : Char) : Bool := [',', '[', ']', '{', '}'].contains c

/-- The run of characters of a plain scalar up to a blank or an indicator.
Between brackets a colon may not stand before an indicator. -/
def plainRun (inFlow : Bool) : List Char → Option (List Char)
  | [] => some []
  | c :: rest =>
    if isSpaceOrTab c || isBreak c then some []
    else if inFlow && c == ':' && rest.head?.any (fun d => d == '?' || isFlowIndicator d) then none
    else if (c == ':' && startsBlank rest) || (inFlow && isFlowIndicator c) then some []
    else (plainRun inFlow rest).map (c :: ·)

/-- The text of pieces that are listed from last to first. -/
def joinPieces (pieces : List (List Char)) : List Char := pieces.reverse.flatten

/-- Reads on in a plain scalar, after the pieces already read. `indent` is the
least column of its further lines. The answer says whether a line ended after
the scalar. -/
def readPlainFrom (inFlow : Bool) (indent : Int) :
    Nat → Gap → List (List Char) → Cursor → Option (List Char × Bool × Cursor)
  | 0, g, pieces, c => some (joinPieces pieces, g.broken, c)
  | steps + 1, g, pieces, c =>
    if c.atDocumentMark || c.rest.head? = some '#' then some (joinPieces pieces, g.broken, c)
    else
      (plainRun inFlow c.rest).bind fun run =>
        let pieces := if run.isEmpty then pieces else run :: g.text :: pieces
        let g := if run.isEmpty then g else .empty
        let c := c.skip run.length
        if c.rest.isEmpty || !startsBlank c.rest then some (joinPieces pieces, g.broken, c)
        else
          (Gap.read (some indent) c.left g c).bind fun next =>
            if !inFlow && (next.2.column : Int) < indent then
              some (joinPieces pieces, next.1.broken, next.2)
            else readPlainFrom inFlow indent steps next.1 pieces next.2

/-- Reads a plain scalar. -/
def readPlain (inFlow : Bool) (indent : Int) (c : Cursor) :
    Option (List Char × Bool × Cursor) :=
  readPlainFrom inFlow indent (c.left + 1) .empty [] c

/-! ### Quoted scalars -/

/-- The number that exactly this many hexadecimal digits stand for. -/
def readHex : Nat → Nat → List Char → Option Nat
  | 0, n, _ => some n
  | _ + 1, _, [] => none
  | digits + 1, n, c :: rest => (hexValue? c).bind fun v => readHex digits (n * 16 + v) rest

/-- The character of an escape that is one letter. -/
def simpleEscape? (c : Char) : Option Char :=
  match c with
  | '0' => some (Char.ofNat 0x00)
  | 'a' => some (Char.ofNat 0x07)
  | 'b' => some (Char.ofNat 0x08)
  | 't' => some '\t'
  | '\t' => some '\t'
  | 'n' => some '\n'
  | 'v' => some (Char.ofNat 0x0B)
  | 'f' => some (Char.ofNat 0x0C)
  | 'r' => some '\r'
  | 'e' => some (Char.ofNat 0x1B)
  | ' ' => some ' '
  | '"' => some '"'
  | '/' => some '/'
  | '\\' => some '\\'
  | 'N' => some (Char.ofNat 0x85)
  | '_' => some (Char.ofNat 0xA0)
  | 'L' => some (Char.ofNat 0x2028)
  | 'P' => some (Char.ofNat 0x2029)
  | _ => none

/-- The number of digits of an escape that gives a code point. -/
def escapeDigits? (c : Char) : Option Nat :=
  if c == 'x' then some 2 else if c == 'u' then some 4 else if c == 'U' then some 8 else none

/-- The character of an escape and the number of characters after the backslash. -/
def readEscape : List Char → Option (Char × Nat)
  | [] => none
  | c :: rest =>
    match escapeDigits? c with
    | none => (simpleEscape? c).map fun e => (e, 1)
    | some digits =>
      (readHex digits 0 rest).bind fun n =>
        if (0xD800 ≤ n && n ≤ 0xDFFF) || 0x10FFFF < n then none
        else some (Char.ofNat n, digits + 1)

/-- The quote of a style. -/
def quoteMark (single : Bool) : Char := if single then Char.ofNat 39 else '"'

/-- Reads characters of a quoted scalar up to a blank or the closing quote. They
are collected from last to first. The answer says whether the run ended at a
line break that a backslash takes back. -/
def quotedRun (single : Bool) : Nat → List Char → Cursor → Option (List Char × Bool × Cursor)
  | 0, text, c => some (text, false, c)
  | steps + 1, text, c =>
    match c.rest with
    | [] => some (text, false, c)
    | b :: rest =>
      if isSpaceOrTab b || isBreak b then some (text, false, c)
      else if single && b == quoteMark single && rest.head? = some (quoteMark single) then
        quotedRun single steps (b :: text) (c.skip 2)
      else if b == quoteMark single then some (text, false, c)
      else if !single && b == '\\' then
        if !rest.isEmpty && startsBreak rest then some (text, true, (c.skip 1).readBreak.2)
        else
          (readEscape rest).bind fun e =>
            quotedRun single steps (e.1 :: text) (c.skip (e.2 + 1))
      else quotedRun single steps (b :: text) (c.skip 1)

/-- Reads on in a quoted scalar, past its closing quote. -/
def readQuotedFrom (single : Bool) :
    Nat → List (List Char) → Cursor → Option (List Char × Cursor)
  | 0, _, _ => none
  | steps + 1, pieces, c =>
    if c.atDocumentMark || c.rest.isEmpty then none
    else
      (quotedRun single (c.left + 1) [] c).bind fun run =>
        let pieces := run.1.reverse :: pieces
        let c := run.2.2
        if c.rest.head? = some (quoteMark single) then some (joinPieces pieces, c.skip 1)
        else
          (Gap.read none c.left ⟨run.2.1, [], [], []⟩ c).bind fun next =>
            readQuotedFrom single steps (next.1.text :: pieces) next.2

/-- Reads a quoted scalar. -/
def readQuoted (single : Bool) (c : Cursor) : Option (List Char × Cursor) :=
  readQuotedFrom single (c.left + 1) [] (c.skip 1)

/-! ### Block scalars -/

/-- What is kept of the line breaks at the end of a block scalar. -/
inductive Chomping where
  | strip
  | clip
  | keep
  deriving DecidableEq

/-- The chomping that a character asks for. -/
def Chomping.ofChar? (c : Char) : Option Chomping :=
  if c == '+' then some .keep else if c == '-' then some .strip else none

/-- Reads a chomping sign, if there is one. -/
def readChomping (c : Cursor) : Option Chomping × Cursor :=
  match c.rest.head?.bind Chomping.ofChar? with
  | some chomping => (some chomping, c.skip 1)
  | none => (none, c)

/-- Reads an indentation digit, if there is one. Zero is refused. -/
def readIncrement (c : Cursor) : Option (Nat × Cursor) :=
  match c.rest.head? with
  | some d =>
    if d == '0' then none
    else if '1' ≤ d && d ≤ '9' then some (d.toNat - 48, c.skip 1)
    else some (0, c)
  | none => some (0, c)

/-- Reads the chomping sign and the indentation digit, in either order. -/
def readBlockHeader (c : Cursor) : Option (Chomping × Nat × Cursor) :=
  match readChomping c with
  | (some chomping, c) => (readIncrement c).map fun r => (chomping, r.1, r.2)
  | (none, c) =>
    (readIncrement c).map fun r =>
      if r.1 = 0 then (.clip, 0, r.2)
      else
        let after := readChomping r.2
        (after.1.getD .clip, r.1, after.2)

/-- Passes over indentation and empty lines, and collects the line breaks.
`indent` is zero while the indentation is not known, and `deepest` is the
greatest column met. -/
def blockBreaks : Nat → (indent deepest : Nat) → List Char → Cursor →
    Option (Nat × List Char × Cursor)
  | 0, _, deepest, breaks, c => some (deepest, breaks, c)
  | steps + 1, indent, deepest, breaks, c =>
    let spaces := (c.rest.takeWhile (· == ' ')).length
    let c := c.skip (if indent = 0 then spaces else min spaces (indent - c.column))
    let deepest := max deepest c.column
    if (indent = 0 || c.column < indent) && c.rest.head? = some '\t' then none
    else if !c.rest.isEmpty && startsBreak c.rest then
      let next := c.readBreak
      blockBreaks steps indent deepest (breaks ++ next.1) next.2
    else some (deepest, breaks, c)

/-- The lines read so far of a block scalar. -/
structure BlockText where
  /-- The pieces of the text, from last to first. -/
  pieces : List (List Char)
  /-- The break of the last line. -/
  last : List Char
  /-- The breaks after it. -/
  more : List Char
  /-- Whether the last line started with a blank. -/
  blank : Bool

/-- Reads the lines of a block scalar. -/
def blockLines (literal : Bool) (indent : Nat) :
    Nat → BlockText → Cursor → Option (BlockText × Cursor)
  | 0, b, c => some (b, c)
  | steps + 1, b, c =>
    if c.column != indent || c.rest.isEmpty then some (b, c)
    else
      let blank := c.rest.head?.any isSpaceOrTab
      let joint :=
        if !literal && b.last.head? = some '\n' && !b.blank && !blank then
          (if b.more.isEmpty then [' '] else [])
        else b.last
      let line := c.readWhile fun d => !isBreak d
      let ended := line.2.readBreak
      (blockBreaks (ended.2.left + 1) indent 0 [] ended.2).bind fun next =>
        blockLines literal indent steps
          ⟨line.1 :: b.more :: joint :: b.pieces, ended.1, next.2.1, blank⟩ next.2.2

/-- Reads a block scalar inside a node of the given indentation. -/
def readBlock (literal : Bool) (parent : Int) (c : Cursor) : Option (List Char × Cursor) := do
  let (chomping, increment, c) ← readBlockHeader (c.skip 1)
  let c ← c.finishLine?
  let given := if increment = 0 then 0 else (max parent 0).toNat + increment
  let (deepest, breaks, c) ← blockBreaks (c.left + 1) given 0 [] c
  let indent := if given = 0 then max deepest (max (parent + 1) 1).toNat else given
  let (b, c) ← blockLines literal indent (c.left + 1) ⟨[], [], breaks, false⟩ c
  let tail := match chomping with
    | .strip => []
    | .clip => b.last
    | .keep => b.last ++ b.more
  return (joinPieces b.pieces ++ tail, c)

end SidecarInjection.Yaml
