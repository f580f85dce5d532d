import SidecarInjection.Decimal.Shortest
import SidecarInjection.Yaml.Page
import SidecarInjection.Yaml.Scalar
import SidecarInjection.Yaml.Character

/-!
# `SidecarInjection.Yaml.Writer`: JSON values as YAML text

Values are written in block style. A text is written plain if it is read back as
itself. Else it is quoted, or written as a literal block if it has line breaks.
-/

set_option autoImplicit false

namespace SidecarInjection.Yaml

/-- What a text allows. -/
structure Analysis where
  /-- It holds a line break. -/
  multiline : Bool
  plainAllowed : Bool
  singleAllowed : Bool
  literalAllowed : Bool

namespace Analysis

/-- Whether a text starts like the mark of a document's start or end. -/
def startsLikeMark : List Char → Bool
  | '-' :: '-' :: '-' :: _ => true
  | '.' :: '.' :: '.' :: _ => true
  | _ => false

/-- Whether the first character of a text, before `rest`, is an indicator. -/
def leadingIndicator (c : Char) (rest : List Char) : Bool :=
  ['#', ',', '[', ']', '{', '}', '&', '*', '!', '|', '>', Char.ofNat 39, '"', '%', '@',
    Char.ofNat 96].contains c ||
    (['?', ':', '-'].contains c && startsBlank rest)

/-- Whether a character is an indicator, after a blank or not and before `rest`. -/
def innerIndicator (afterBlank : Bool) (c : Char) (rest : List Char) : Bool :=
  (c == ':' && startsBlank rest) || (c == '#' && afterBlank)

/-- Whether some character after the first is an indicator. -/
def hasInnerIndicator (afterBlank : Bool) : List Char → Bool
  | [] => false
  | c :: rest =>
    innerIndicator afterBlank c rest || hasInnerIndicator (isSpaceOrTab c || isBreak c) rest

/-- Whether a character of one class is followed directly by one of another. -/
def hasPair (p q : Char → Bool) : List Char → Bool
  | c :: d :: rest => (p c && q d) || hasPair p q (d :: rest)
  | _ => false

/-- What a text allows. -/
def ofText (s : List Char) : Analysis :=
  match s with
  | [] => ⟨false, true, true, false⟩
  | c :: rest =>
    let isSpace := fun b => b == ' '
    let indicators := startsLikeMark s || leadingIndicator c rest ||
      hasInnerIndicator (isSpaceOrTab c || isBreak c) rest
    let special := s.any fun b => !isPrintable b
    let broken := s.any isBreak
    let leading := isSpace c || isBreak c
    let last := (c :: rest).getLast (by simp)
    let trailing := isSpace last || isBreak last
    let spaceBreak := hasPair isSpace isBreak s
    let breakSpace := hasPair isBreak isSpace s
    let plain := !(indicators || special || broken || leading || trailing)
    ⟨broken, plain, !(special || spaceBreak || breakSpace),
      !(special || spaceBreak || isSpace last)⟩

end Analysis

/-- The style in which a text is best written, if it allows it: literal with a
line feed, quoted if it would be read as something else, and plain otherwise. -/
def wishedStyle (s : String) : ScalarStyle :=
  if s.toList.contains '\n' then .literal
  else
    match Scalar.plain? s with
    | some (.str _) => if Scalar.isZeroLed s then .singleQuoted else .plain
    | _ => .singleQuoted

/-- The style in which a text is written. -/
def chosenStyle (wish : ScalarStyle) (a : Analysis) (isKey : Bool) : ScalarStyle :=
  if isKey && a.multiline then .doubleQuoted
  else
    match wish with
    | .literal => if !a.literalAllowed || isKey then .doubleQuoted else .literal
    | .plain =>
      if a.plainAllowed then .plain else if a.singleAllowed then .singleQuoted else .doubleQuoted
    | _ => if a.singleAllowed then .singleQuoted else .doubleQuoted

namespace Page

/-- Writes a line break of a text as it is. -/
def putBreak (p : Page) (c : Char) : Page :=
  if c == '\n' then p.endLine else { p.put c with column := 0 }

/-- Writes a text between single quotes. A lone line feed is doubled, and a line
after a break is indented. -/
def putSingle (column : Nat) : (broken : Bool) → List Char → Page → Page
  | broken, [], p => if broken then p.indent column else p
  | broken, c :: rest, p =>
    if isBreak c then
      let p := if !broken && c == '\n' then p.endLine else p
      putSingle column true rest { p.putBreak c with fresh := true }
    else if c == ' ' then putSingle column broken rest (p.put c)
    else
      let p := if broken then p.indent column else p
      let p := if c == Char.ofNat 39 then p.put c else p
      putSingle column false rest { p.put c with fresh := false }

/-- The letter of an escape that has one. -/
def escapeLetter? (c : Char) : Option Char :=
  match c.toNat with
  | 0x00 => some '0'
  | 0x07 => some 'a'
  | 0x08 => some 'b'
  | 0x09 => some 't'
  | 0x0A => some 'n'
  | 0x0B => some 'v'
  | 0x0C => some 'f'
  | 0x0D => some 'r'
  | 0x1B => some 'e'
  | 0x22 => some '"'
  | 0x5C => some '\\'
  | 0x85 => some 'N'
  | 0xA0 => some '_'
  | 0x2028 => some 'L'
  | 0x2029 => some 'P'
  | _ => none

/-- A hexadecimal digit, in upper case. -/
def hexDigit (n : Nat) : Char := Char.ofNat (if n < 10 then 48 + n else 55 + n)

/-- The last hexadecimal digits of a number. -/
def hex : Nat → Nat → List Char
  | 0, _ => []
  | width + 1, n => hex width (n / 16) ++ [hexDigit (n % 16)]

/-- The escape of a character. -/
def escape (c : Char) : List Char :=
  match escapeLetter? c with
  | some letter => ['\\', letter]
  | none =>
    let n := c.toNat
    if n ≤ 0xFF then '\\' :: 'x' :: hex 2 n
    else if n ≤ 0xFFFF then '\\' :: 'u' :: hex 4 n
    else '\\' :: 'U' :: hex 8 n

/-- A character between double quotes. -/
def doubleQuotedChar (c : Char) : List Char :=
  if !isPrintable c || isBreak c || c == '"' || c == '\\' then escape c else [c]

/-- Writes the lines of a literal block. -/
def putLiteral (column : Nat) : (broken : Bool) → List Char → Page → Page
  | _, [], p => p
  | broken, c :: rest, p =>
    if isBreak c then putLiteral column true rest { p.putBreak c with fresh := true }
    else
      let p := if broken then p.indent column else p
      putLiteral column false rest { p.put c with fresh := false }

/-- The marks after the bar of a literal block: the indentation of a text that
starts with a blank, and what is done with the line breaks at its end. -/
def literalMarks (s : List Char) : List Char :=
  let starts := s.head?.any fun c => c == ' ' || isBreak c
  let chomping :=
    match s.reverse with
    | [] => ['-']
    | [c] => if isBreak c then ['+'] else ['-']
    | c :: d :: _ => if !isBreak c then ['-'] else if isBreak d then ['+'] else []
  (if starts then ['2'] else []) ++ chomping

/-- Writes a text in a style. Further lines of it go to a column. -/
def putScalar (p : Page) (style : ScalarStyle) (column : Nat) (s : List Char) : Page :=
  match style with
  | .plain =>
    let p := if s.isEmpty then p else p.separate
    { s.foldl put p with spaced := false, fresh := false }
  | .doubleQuoted =>
    let p := s.foldl (fun p c => (doubleQuotedChar c).foldl put p) (p.mark "\"")
    p.attach "\""
  | .singleQuoted => (putSingle column false s (p.mark "'")).attach "'"
  | .literal =>
    let p := (p.mark "|").attach (String.ofList (literalMarks s))
    putLiteral column true s { p.endLine with spaced := true, fresh := true }
  | .folded => p

end Page

/-- The column of what lies in a collection at a column. There is none around
the root. -/
def inner : Option Nat → Nat
  | none => 0
  | some column => column + 2

/-- The column of the further lines of a scalar. -/
def scalarColumn : Option Nat → Nat
  | none => 2
  | some column => column + 2

/-- The number of bytes of a text. -/
def byteCount (s : List Char) : Nat := s.foldl (fun n c => n + byteLength c) 0

/-- Whether a text can be a key without a question mark. -/
def isSimpleKey (s : List Char) (a : Analysis) : Bool := !a.multiline && byteCount s ≤ 128

/-- Writes a text. -/
def writeText (p : Page) (column : Option Nat) (isKey : Bool) (s : String) : Page :=
  let cs := s.toList
  p.putScalar (chosenStyle (wishedStyle s) (.ofText cs) isKey) (scalarColumn column) cs

/-- Writes a word that is always plain. -/
def writeWord (p : Page) (column : Option Nat) (s : String) : Page :=
  p.putScalar .plain (scalarColumn column) s.toList

mutual

/-- Writes a value in a collection at a column. `inMapping` holds for the values
of mappings, whose lists are not indented. -/
def writeValue (column : Option Nat) (inMapping : Bool) : Json → Page → Page
  | .null, p => writeWord p column "null"
  | .bool b, p => writeWord p column (if b then "true" else "false")
  | .int n, p => writeWord p column (Decimal.intText n)
  | .float x, p => writeWord p column x.text
  | .str s, p => writeText p column false s
  | .arr [], p => (p.mark "[").attach "]"
  | .arr (item :: items), p =>
    let at_ :=
      if inMapping && !p.fresh then column.getD 0 else inner column
    writeItems at_ (item :: items) p
  | .obj [], p => (p.mark (String.singleton (Char.ofNat 0x7B))).attach
      (String.singleton (Char.ofNat 0x7D))
  | .obj (member :: members), p => writeMembers (inner column) (member :: members) p

/-- Writes the items of a list at a column. -/
def writeItems (column : Nat) : List Json → Page → Page
  | [], p => p
  | item :: rest, p =>
    writeItems column rest (writeValue (some column) false item ((p.indent column).bullet "-"))

/-- Writes the members of a mapping at a column. -/
def writeMembers (column : Nat) : List (String × Json) → Page → Page
  | [], p => p
  | (key, value) :: rest, p =>
    let p := p.indent column
    let p :=
      if isSimpleKey key.toList (.ofText key.toList) then
        (writeText p (some column) true key).attach ":"
      else
        ((writeText (p.bullet "?") (some column) false key).indent column).bullet ":"
    writeMembers column rest (writeValue (some column) true value p)

end

/-- The YAML text of a value. -/
def write (j : Json) : String := ((writeValue none false j .blank).indent 0).text

end SidecarInjection.Yaml
