import SidecarInjection.Injector
import SidecarInjection.Yaml.Typed

/-!
# `SidecarInjection.ConfigFiles`: configurations kept in files

The keys of annotations and labels are given directly. The containers to inject
and the hooks are YAML files, and the templates of the modes are text files.
-/

set_option autoImplicit false

namespace SidecarInjection

/-- The text of a file at a path. -/
abbrev FileReader := String → Except FileError String

/-- The text that the bytes of a file encode. -/
def FileError.decode (bytes : ByteArray) : Except FileError String :=
  match String.fromUTF8? bytes with
  | some text => .ok text
  | none => .error .notText

/-- What a configuration is made from. Fields named for a file hold its path. -/
structure ConfigFiles where
  annotationQualifier : String
  appLabel : String
  serviceLabel : String
  injectionFile : String
  proxyFile : String
  blockFile : String
  defaultFile : String
  hooksFile : Option String

namespace ConfigFiles

/-- The paths of the files, in the order they are read. -/
def paths (f : ConfigFiles) : List String :=
  f.hooksFile.toList ++ [f.injectionFile, f.proxyFile, f.blockFile, f.defaultFile]

/-- The text of a file of the configuration. -/
def readText (read : FileReader) (path : String) : Except InjectionError String :=
  (read path).mapError fun cause => .config (.unreadable path cause)

/-- The written form of a typed object in a file of the configuration. -/
def readTyped (read : FileReader) (schema : Schema) (path : String) :
    Except InjectionError Json := do
  let text ← readText read path
  match Yaml.read? schema text with
  | some j => return j
  | none => throw (.config (.malformed path))

/-- The hooks, none when no file is named. -/
def readHooks (read : FileReader) : Option String → Except InjectionError LifecycleHooks
  | none => .ok ⟨none⟩
  | some path => LifecycleHooks.ofJson <$> readTyped read Schema.lifecycleHooks path

/-- The configuration that the files hold. -/
def load (read : FileReader) (f : ConfigFiles) : Except InjectionError Config := do
  let lifecycleHooks ← readHooks read f.hooksFile
  let injection ← InjectionConfig.ofJson <$> readTyped read Schema.injectionConfig f.injectionFile
  let proxyConfig ← readText read f.proxyFile
  let templateBlock ← readText read f.blockFile
  let templateDefault ← readText read f.defaultFile
  return { annotationQualifier := f.annotationQualifier, appLabel := f.appLabel,
           serviceLabel := f.serviceLabel, injection, proxyConfig, templateBlock,
           templateDefault, lifecycleHooks }

end ConfigFiles

end SidecarInjection
