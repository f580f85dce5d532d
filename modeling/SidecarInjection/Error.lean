import SidecarInjection.Json.Patch
import SidecarInjection.Schema.Decode

/-!
# `SidecarInjection.Error`: why an injection fails

Each constructor is one cause. `message` gives its words.
-/

set_option autoImplicit false

namespace SidecarInjection

/-- An annotation that takes one of a few values. -/
inductive Setting where
  | authMethod
  | secretsType
  | injectionMethod
  deriving DecidableEq, Repr

/-- The words for a setting. -/
def Setting.message : Setting → String
  | .authMethod => "Vault auth method"
  | .secretsType => "secrets type"
  | .injectionMethod => "secrets injection method"

/-- What is wrong with an annotation. -/
inductive AnnotationFault where
  | invalidPort (value : String)
  | commandMissing (container : String)
  deriving DecidableEq, Repr

/-- The words for a fault. -/
def AnnotationFault.message : AnnotationFault → String
  | .invalidPort value => "'" ++ value ++ "' is not a valid port"
  | .commandMissing container =>
    "container " ++ container ++ " must declare its command to use the env injection method"

/-- Two settings that exclude each other. -/
inductive Combination where
  | envWithDynamic
  | approleWithStatic
  /-- The annotation that asks for the hook, by its qualified key. -/
  | hookWithJob (key : String)
  deriving DecidableEq, Repr

/-- The words for a combination. -/
def Combination.message : Combination → String
  | .envWithDynamic => "secrets injection method 'env' with dynamic secrets"
  | .approleWithStatic => "Vault auth method 'approle' with static secrets"
  | .hookWithJob key => "'" ++ key ++ "' annotation with 'job' mode"

/-- Two lists whose lengths do not go together, with the lengths. -/
inductive Mismatch where
  | destinationsPaths (destinations paths : Nat)
  | destinationsTemplates (destinations templates : Nat)
  | commandsDestinations (commands destinations : Nat)
  deriving DecidableEq, Repr

/-- The words for a mismatch. -/
def Mismatch.message : Mismatch → String
  | .destinationsPaths d p =>
    Decimal.text d ++ " secrets destinations for " ++ Decimal.text p ++ " secrets paths"
  | .destinationsTemplates d t =>
    Decimal.text d ++ " secrets destinations for " ++ Decimal.text t ++ " templates"
  | .commandsDestinations c d =>
    Decimal.text c ++ " notify commands for " ++ Decimal.text d ++ " secrets destinations"

/-- Why a file cannot be read as text. -/
inductive FileError where
  | notFound
  | notADirectory
  | isADirectory
  | notText
  /-- Any other cause, in the words of the system. -/
  | other (words : String)
  deriving DecidableEq, Repr

/-- The words for a file error. -/
def FileError.message : FileError → String
  | .notFound => "No such file or directory (os error 2)"
  | .notADirectory => "Not a directory (os error 20)"
  | .isADirectory => "Is a directory (os error 21)"
  | .notText => "stream did not contain valid UTF-8"
  | .other words => words

/-- What is wrong with the configuration. -/
inductive ConfigFault where
  | unreadable (path : String) (cause : FileError)
  | malformed (path : String)
  | hookWithoutExec
  deriving DecidableEq, Repr

/-- The words for a fault of the configuration. -/
def ConfigFault.message : ConfigFault → String
  | .unreadable path cause => path ++ ": " ++ cause.message
  | .malformed path => path
  | .hookWithoutExec => "Unsupported lifecycle hook. Only support Exec type"

/-- Why an injection fails. -/
inductive InjectionError where
  | serialization (cause : DecodeError)
  | yaml
  | config (fault : ConfigFault)
  | missingLabel (labels : List String)
  | missingVolumeMount (path : String)
  | annotationFault (key : String) (fault : AnnotationFault)
  | unsupportedValue (setting : Setting) (value : String)
  | unsupportedCombination (combination : Combination)
  | listLengthMismatch (mismatch : Mismatch)
  | noContainers
  | tooManyContainers (count : Nat)
  | invalidPatch (cause : PatchError)
  /-- A workload of this kind and name has no pod template at the pointer. -/
  | noPodTemplate (kind name pointer : String)
  /-- Any other cause, in the words of a mode. -/
  | other (words : String)
  deriving Repr

/-- The text of an injection error. -/
def InjectionError.message : InjectionError → String
  | .serialization cause => "SerializationError: " ++ cause.message
  | .yaml => "Yaml Error"
  | .config fault => "Config Error: " ++ fault.message
  | .missingLabel labels => "Missing Label: " ++ " and ".intercalate labels
  | .missingVolumeMount path => "Missing Volume Mount: no volume mounted at " ++ path
  | .annotationFault key fault => "Invalid Annotation " ++ key ++ ": " ++ fault.message
  | .unsupportedValue setting value => "Unsupported " ++ setting.message ++ " '" ++ value ++ "'"
  | .unsupportedCombination combination => "Unsupported Combination: " ++ combination.message
  | .listLengthMismatch mismatch => "List Length Mismatch: " ++ mismatch.message
  | .noContainers => "Submitted pod must contain at least one container"
  | .tooManyContainers count =>
    "Submitted pod should contain only one container, found " ++ Decimal.text count
  | .invalidPatch cause => "Invalid Patch: " ++ cause.message
  | .noPodTemplate kind name pointer =>
    "Other Error: " ++ kind ++ " " ++ name ++ " has no pod template at " ++ pointer
  | .other words => "Other Error: " ++ words

end SidecarInjection
