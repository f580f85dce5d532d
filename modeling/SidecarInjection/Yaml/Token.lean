/-!
# `SidecarInjection.Yaml.Token`: the words of a YAML text
-/

set_option autoImplicit false

namespace SidecarInjection.Yaml

/-- How a scalar is written. -/
inductive ScalarStyle where
  | plain
  | singleQuoted
  | doubleQuoted
  | literal
  | folded
  deriving DecidableEq, Repr

/-- The bytes of a tag. Escapes in a tag give bytes, which need not encode any
character. -/
abbrev Tag := List UInt8

/-- The bytes of ASCII characters. -/
def Tag.ofAscii (s : List Char) : Tag := s.map fun c => UInt8.ofNat c.toNat

/-- A tag up to its first zero byte, where it ends. -/
def Tag.cut (t : Tag) : Tag := t.takeWhile (· != 0)

/-- A word of a YAML text. The list of the words of a text ends in `streamEnd`,
or in `unreadable` where the text cannot be read on. -/
inductive Token where
  | versionDirective (major minor : Nat)
  | tagDirective (handle : String) (expansion : Tag)
  | documentStart
  | documentEnd
  | blockSequenceStart
  | blockMappingStart
  | blockEnd
  | flowSequenceStart
  | flowSequenceEnd
  | flowMappingStart
  | flowMappingEnd
  | blockEntry
  | flowEntry
  | key
  | value
  | alias (name : String)
  | anchor (name : String)
  | tag (handle : String) (suffix : Tag)
  | scalar (style : ScalarStyle) (text : String)
  | streamEnd
  | unreadable
  deriving DecidableEq, Repr, Inhabited

end SidecarInjection.Yaml
