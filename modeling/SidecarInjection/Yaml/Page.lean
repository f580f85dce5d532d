/-!
# `SidecarInjection.Yaml.Page`: text under construction

A page remembers what was written last on its line, so that a new line is only
begun, and a space only set, where one is needed.
-/

set_option autoImplicit false

namespace SidecarInjection.Yaml

/-- A text that is being written. -/
structure Page where
  text : String
  column : Nat
  /-- Whether a word may follow without a space. -/
  spaced : Bool
  /-- Whether the line holds only indentation and marks that count as such. -/
  fresh : Bool

namespace Page

/-- Nothing is written. -/
def blank : Page := ⟨"", 0, true, true⟩

/-- Writes a character. -/
def put (p : Page) (c : Char) : Page := { p with text := p.text.push c, column := p.column + 1 }

/-- Ends a line. -/
def endLine (p : Page) : Page := { p with text := p.text.push '\n', column := 0 }

/-- Writes spaces. -/
def putSpaces (p : Page) : Nat → Page
  | 0 => p
  | count + 1 => putSpaces (p.put ' ') count

/-- Goes to a column at the start of a line. -/
def indent (p : Page) (column : Nat) : Page :=
  let p := if !p.fresh || column < p.column || (p.column == column && !p.spaced) then p.endLine
    else p
  { p.putSpaces (column - p.column) with spaced := true, fresh := true }

/-- Writes a space where a word needs one before it. -/
def separate (p : Page) : Page := if p.spaced then p else p.put ' '

/-- Writes a mark directly after what is there. -/
def attach (p : Page) (mark : String) : Page :=
  { mark.toList.foldl put p with spaced := false, fresh := false }

/-- Writes a mark that stands apart from what is there. -/
def mark (p : Page) (mark : String) : Page := p.separate.attach mark

/-- Writes a mark that counts as indentation. -/
def bullet (p : Page) (mark : String) : Page := { p.mark mark with fresh := p.fresh }

end Page

end SidecarInjection.Yaml
