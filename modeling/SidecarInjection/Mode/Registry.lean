import SidecarInjection.Mode.Basic
import SidecarInjection.Text.Blank
import SidecarInjection.Text.Search

/-!
# `SidecarInjection.Mode.Registry`: the modes an injector has

A registry lists modes in the order of their first registration. Requests name
modes by their keys.
-/

set_option autoImplicit false

namespace SidecarInjection

/-- The registered modes, in order. -/
structure Registry where
  modes : List Mode

namespace Registry

/-- No modes. -/
def empty : Registry := ⟨[]⟩

/-- The modes with one added: in the place of a mode of the same key, else at
the end. -/
def place (mode : Mode) : List Mode → List Mode
  | [] => [mode]
  | m :: rest => if m.key = mode.key then mode :: rest else m :: place mode rest

/-- Registers a mode. It replaces an earlier one of the same key. -/
def register (r : Registry) (mode : Mode) : Registry := ⟨place mode r.modes⟩

/-- The registry after a sequence of registrations. -/
def ofList (modes : List Mode) : Registry := modes.foldl register empty

/-- The mode of a key. -/
def get? (r : Registry) (key : String) : Option Mode := r.modes.find? fun m => m.key = key

/-- The keys, in order. -/
def keys (r : Registry) : List String := r.modes.map Mode.key

/-- The key of the first default mode. -/
def defaultMode? (r : Registry) : Option String := (r.modes.find? Mode.isDefault).map Mode.key

/-- The short annotation keys of all modes, in order. -/
def annotationKeys (r : Registry) : List String := r.modes.flatMap Mode.annotationKeys

/-- Every registered mode, none of them enabled. -/
def noneEnabled (r : Registry) : EnabledModes :=
  ⟨Dict.ofEntries (r.modes.map fun m => (m.key, false))⟩

/-- Enables a mode if there is a key. -/
def enableSome (enabled : EnabledModes) : Option String → EnabledModes
  | none => enabled
  | some key => enabled.enable key

/-- Enables one requested name. A name that no mode has is passed over. A mode
that is requested alone may bring the default mode with it. -/
def enableRequested (r : Registry) (alone : Bool) (enabled : EnabledModes) (name : String) :
    EnabledModes :=
  match r.get? name with
  | none => enabled
  | some mode =>
    let enabled := enabled.enable mode.key
    if alone && mode.enablesDefault then enableSome enabled r.defaultMode? else enabled

/-- The names in a request: its entries between commas, without white space
around them. -/
def requestedNames (requested : String) : List String :=
  (Text.splitOn "," requested).map Text.trim

/-- The modes that a request enables. A blank request enables the default mode. -/
def resolve (r : Registry) (requested : String) : EnabledModes :=
  let names := requestedNames requested
  if names = [""] then enableSome r.noneEnabled r.defaultMode?
  else names.foldl (r.enableRequested (names.length = 1)) r.noneEnabled

/-- The registered modes that are enabled, in order. -/
def enabledModes (r : Registry) (enabled : EnabledModes) : List Mode :=
  r.modes.filter fun m => enabled.isEnabled m.key

end Registry

end SidecarInjection
