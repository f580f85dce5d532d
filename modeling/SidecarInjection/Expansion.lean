import SidecarInjection.Text.Search

/-!
# `SidecarInjection.Expansion`: variable references in commands

A command refers to a variable of its container as `$(NAME)`, and writes a
dollar sign of its own as `$$`. `Expansion.expand` replaces the references to
known variables and leaves all else as it is. Dollar signs in values are doubled,
so that a second pass over the result finds no reference in them.

`Expansion.resolve` is the pass that a container runtime makes.
-/

set_option autoImplicit false

namespace SidecarInjection.Expansion

/-- A value with its dollar signs doubled. -/
def escape (value : List Char) : List Char :=
  value.flatMap fun c => if c = '$' then ['$', '$'] else [c]

/-- The name of a reference whose opening has been read: the text before the
first closing parenthesis. -/
def referenceName? (s : List Char) : Option (List Char) :=
  if s.contains ')' then some (s.takeWhile fun c => c != ')') else none

/-- The name and the value of a reference to a known variable. -/
def reference? (values : String → Option String) (s : List Char) :
    Option (List Char × List Char) :=
  (referenceName? s).bind fun name =>
    (values (String.ofList name)).map fun value => (name, value.toList)

/-- The expansion of characters, after passing over `skip` of them. -/
def expandFrom (values : String → Option String) : Nat → List Char → List Char
  | _, [] => []
  | skip + 1, _ :: rest => expandFrom values skip rest
  | 0, '$' :: '$' :: rest => '$' :: '$' :: expandFrom values 0 rest
  | 0, '$' :: '(' :: rest =>
    match reference? values rest with
    | some (name, value) => escape value ++ expandFrom values (name.length + 1) rest
    | none => '$' :: expandFrom values 0 ('(' :: rest)
  | 0, c :: rest => c :: expandFrom values 0 rest

/-- Replaces the references to known variables. -/
def expand (values : String → Option String) (s : String) : String :=
  String.ofList (expandFrom values 0 s.toList)

/-- The runtime's pass over characters, after passing over `skip` of them. -/
def resolveFrom (values : String → Option String) : Nat → List Char → List Char
  | _, [] => []
  | skip + 1, _ :: rest => resolveFrom values skip rest
  | 0, '$' :: '$' :: rest => '$' :: resolveFrom values 0 rest
  | 0, '$' :: '(' :: rest =>
    match referenceName? rest with
    | some name =>
      (match values (String.ofList name) with
        | some value => value.toList
        | none => '$' :: '(' :: name ++ [')']) ++ resolveFrom values (name.length + 1) rest
    | none => '$' :: resolveFrom values 0 ('(' :: rest)
  | 0, c :: rest => c :: resolveFrom values 0 rest

/-- What a container runtime makes of a command: `$$` is a dollar sign, a
reference to a known variable is its value, and any other reference stays. -/
def resolve (values : String → Option String) (s : String) : String :=
  String.ofList (resolveFrom values 0 s.toList)

end SidecarInjection.Expansion
