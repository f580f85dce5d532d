import SidecarInjection.Mode.Basic

/-!
# `SidecarInjection.Mode.Job`: the job mode

Lets the injected containers end together with the container of a job.
-/

set_option autoImplicit false

namespace SidecarInjection.Job

/-- The container that watches the job and signals its end. -/
def monitoringContainer : String := "tvsi-job-babysitter"

/-- The container that waits for the signal. -/
def listenerContainer : String := "tvsi-vault-agent"

/-- The variable that names the job's container. -/
def containerNameEnv : String := "VSI_JOB_CNT_NAME"

/-- The variable that says that the pod is a job. -/
def workloadEnv : String := "VSI_JOB_WORKLOAD"

/-- Whether there is nothing to watch, because static secrets are fetched before
the job starts. -/
def nothingToWatch (ctx : Context) : Bool :=
  match ctx.secrets with
  | none => false
  | some secrets => secrets.isStatic && ctx.modes.isExactly [secretsKey, jobKey]

/-- Whether the mode wants a configured container injected. -/
def wants (target : Target) (name : String) (ctx : Context) : Bool :=
  target = .containers && [monitoringContainer, listenerContainer].contains name &&
    !nothingToWatch ctx

/-- The mode's answer about a configured container. A job has one container. -/
def answer (target : Target) (podContainers : List Container) (name : String)
    (env : List EnvVar) (ctx : Context) : Except InjectionError ContainerAnswer :=
  if wants target name ctx then
    match podContainers with
    | [job] =>
      .ok (.claim (EnvVar.setAll (EnvVar.setAll env containerNameEnv job.name) workloadEnv "true"))
    | _ => .error (.tooManyContainers podContainers.length)
  else .ok (.decline env)

/-- The job mode. Requested alone it brings the default mode with it. -/
def mode : Mode where
  key := jobKey
  enablesDefault := true
  injectContainer := answer

end SidecarInjection.Job
