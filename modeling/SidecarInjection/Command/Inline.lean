import SidecarInjection.Command.Flag
import SidecarInjection.ConfigFiles
import SidecarInjection.Manifest

/-!
# `SidecarInjection.Command.Inline`: the command that injects a manifest

The command reads a manifest from a file or the standard input, and writes the
injected manifest. Its configuration is read from files.
-/

set_option autoImplicit false

namespace SidecarInjection.Command

/-- The flags of the command. -/
def inlineFlags : List Flag :=
  [ { name := "annotation-key-prefix", variableName := some "VSI_ANNOTATION_KEY_PREFIX",
      fallback := .value "sidecar.vault", summary := "Annotations key prefix" },
    { name := "app-label-key", variableName := some "VSI_APP_LABEL_KEY",
      fallback := .value "application.name", summary := "Key for application label" },
    { name := "app-service-label-key", variableName := some "VSI_APP_SERVICE_LABEL_KEY",
      fallback := .value "service.name", summary := "Key for application's service label" },
    { name := "injection-cfg-file", variableName := some "VSI_INJECTION_CFG_FILE", isPath := true,
      fallback := .required,
      summary :=
        "File containing the injection configuration (initContainers, containers, volumes)" },
    { name := "proxy-cfg-file", variableName := some "VSI_PROXY_CFG_FILE", isPath := true,
      fallback := .required, summary := "File containing the Vault proxy configuration" },
    { name := "tmpl-block-file", variableName := some "VSI_TMPL_BLOCK_FILE", isPath := true,
      fallback := .required, summary := "File containing the template block" },
    { name := "tmpl-default-file", variableName := some "VSI_TMPL_DEFAULT_FILE", isPath := true,
      fallback := .required, summary := "File containing the default template" },
    { name := "pod-lc-hooks-file", variableName := some "VSI_POD_LC_HOOKS_FILE", isPath := true,
      summary := "File containing the lifecycle hooks to inject in the requesting pod" },
    { name := "manifest", letter := some 'm', isPath := true,
      summary := "Manifest to inject, stdin when omitted" } ]

/-- What the command is asked to do. -/
structure InlineTask where
  files : ConfigFiles
  /-- The path of the manifest. Without one it is the standard input. -/
  manifest : Option String

/-- The task that the values of the flags describe. -/
def InlineTask.ofValues (values : Dict String) : InlineTask :=
  let value := fun name => (Dict.get? values name).getD ""
  { files :=
      { annotationQualifier := value "annotation-key-prefix"
        appLabel := value "app-label-key"
        serviceLabel := value "app-service-label-key"
        injectionFile := value "injection-cfg-file"
        proxyFile := value "proxy-cfg-file"
        blockFile := value "tmpl-block-file"
        defaultFile := value "tmpl-default-file"
        hooksFile := Dict.get? values "pod-lc-hooks-file" }
    manifest := Dict.get? values "manifest" }

/-- The task that the arguments and the environment describe. -/
def InlineTask.parse (environment : String → Option String) (arguments : List String) :
    Except Stop InlineTask :=
  InlineTask.ofValues <$> Flag.values inlineFlags environment arguments

/-- The paths of the files that a task reads. -/
def InlineTask.paths (task : InlineTask) : List String := task.manifest.toList ++ task.files.paths

/-- Why a task fails. -/
inductive InlineError where
  | manifest (cause : FileError)
  | injection (cause : InjectionError)

/-- The text of a failure. -/
def InlineError.message : InlineError → String
  | .manifest cause => cause.message
  | .injection cause => cause.message

/-- The injected manifest of a task. The manifest is read before the
configuration. -/
def InlineTask.perform (read : FileReader) (stdin : Except FileError String) (task : InlineTask) :
    Except InlineError String := do
  let manifest ← (task.manifest.elim stdin read).mapError .manifest
  let config ← (task.files.load read).mapError .injection
  (Manifest.inject ⟨config, .builtin⟩ manifest).mapError .injection

/-- How the command ends. -/
inductive Outcome where
  /-- The command has written this. -/
  | success (output : String)
  | failure (cause : InlineError)
  /-- The arguments cannot be used. -/
  | misuse

namespace Outcome

/-- The exit code. -/
def exitCode : Outcome → Nat
  | .success _ => 0
  | .failure _ => 1
  | .misuse => 2

/-- What is written to the standard output. -/
def output : Outcome → String
  | .success output => output
  | _ => ""

/-- What is reported as an error. -/
def report : Outcome → Option String
  | .failure cause => some ("Error: " ++ cause.message)
  | _ => none

end Outcome

/-- How the command ends that stops before it performs a task. -/
def Stop.outcome (environment : String → Option String) : Stop → Outcome
  | .usage => .misuse
  | .help =>
    .success (helpText "inline" "Inject Vault agents into the workloads of a YAML manifest"
      inlineFlags environment)
  | .version => .success "vault-injector 0.1.0\n"

/-- Runs the command. -/
def runInline (environment : String → Option String) (read : FileReader)
    (stdin : Except FileError String) (arguments : List String) : Outcome :=
  match InlineTask.parse environment arguments with
  | .error stop => stop.outcome environment
  | .ok task =>
    match task.perform read stdin with
    | .ok output => .success output
    | .error cause => .failure cause

end SidecarInjection.Command
