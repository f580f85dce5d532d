import SidecarInjection.Mode.Builtin
import SidecarInjection.Proofs.Outcome
import SidecarInjection.Rendering

/-!
# `SidecarInjection.Proofs.Mode.Independence`: modes that do not get in each other's way

Modes are asked one after another. They share the environment of a container and the patch
of a pod, so in general the order in which they are asked matters. Two modes are independent
when it does not.

A built-in mode sets variables of its own, which no other one of them sets, and it does not
read the environment. It answers for every template in this way, also when it declines or
fails.

* `Mode.Sets`, `Mode.Sets.ask_comm`: modes that set different variables may be asked in
  either order.
* `Mode.Answers`, `Secrets.answers`, `Proxy.answers`, `Job.answers`: the built-in modes answer
  by their settings for a container.
* `Mode.Independent`, `pairwise_builtinModes`: the built-in modes are independent.
-/

set_option autoImplicit false

namespace SidecarInjection

open Outcome

/-! ### Settings -/

namespace EnvVar

/-- Sets variables one after another. -/
def setEach (env : List EnvVar) (settings : List (String × String)) : List EnvVar :=
  settings.foldl (fun env s => setAll env s.1 s.2) env

/-- Variables of two names may be set in either order. -/
theorem setAll_comm (env : List EnvVar) {a b : String} (x y : String) (h : a ≠ b) :
    setAll (setAll env a x) b y = setAll (setAll env b y) a x := by
  unfold setAll
  rw [List.map_map, List.map_map]
  refine List.map_congr_left fun e _ => ?_
  by_cases ha : e.name = a
  · simp [ha, h]
  · by_cases hb : e.name = b
    · simp [hb, h.symm]
    · simp [ha, hb]

/-- A variable of another name may be set before or after some settings. -/
theorem setEach_setAll (env : List EnvVar) {settings : List (String × String)} {name : String}
    (value : String) (h : ∀ s ∈ settings, s.1 ≠ name) :
    setEach (setAll env name value) settings = setAll (setEach env settings) name value := by
  induction settings generalizing env with
  | nil => rfl
  | cons s rest ih =>
    show setEach (setAll (setAll env name value) s.1 s.2) rest =
      setAll (setEach (setAll env s.1 s.2) rest) name value
    rw [setAll_comm env value s.2 (h s List.mem_cons_self).symm]
    exact ih _ fun t ht => h t (List.mem_cons_of_mem _ ht)

/-- Settings of different names may be made in either order. -/
theorem setEach_comm (env : List EnvVar) {settings others : List (String × String)}
    (h : ∀ s ∈ settings, ∀ t ∈ others, s.1 ≠ t.1) :
    setEach (setEach env settings) others = setEach (setEach env others) settings := by
  induction others generalizing env with
  | nil => rfl
  | cons t rest ih =>
    show setEach (setAll (setEach env settings) t.1 t.2) rest =
      setEach (setEach (setAll env t.1 t.2) rest) settings
    rw [← setEach_setAll env t.2 fun s hs => h s hs t List.mem_cons_self]
    exact ih _ fun s hs u hu => h s hs u (List.mem_cons_of_mem _ hu)

end EnvVar

/-! ### Answers -/

/-- A mode answers without a look at the environment: it fails, or it sets variables of these
names, whatever their values were. -/
def Mode.Sets (mode : Mode) (names : List String) : Prop :=
  ∀ target podContainers name ctx,
    (∃ e, ∀ env, mode.injectContainer target podContainers name env ctx = .error e) ∨
    ∃ claimed settings, (∀ s ∈ settings, s.1 ∈ names) ∧
      ∀ env, mode.injectContainer target podContainers name env ctx =
        .ok ⟨claimed, EnvVar.setEach env settings⟩

/-- Modes that set different variables leave the same answer in either order. -/
theorem Mode.Sets.ask_comm {a b : Mode} {names others : List String} (ha : a.Sets names)
    (hb : b.Sets others) (hdisjoint : ∀ n ∈ names, n ∉ others) (target : Target)
    (podContainers : List Container) (name : String) (ctx : Context) (answer : ContainerAnswer) :
    (Rendering.ask target podContainers name ctx [a, b] answer).toOption =
      (Rendering.ask target podContainers name ctx [b, a] answer).toOption := by
  obtain ⟨e, ha⟩ | ⟨claimed, settings, hnames, ha⟩ := ha target podContainers name ctx
  · -- One of them fails, so both orders do.
    obtain ⟨e', hb⟩ | ⟨claimed', settings', -, hb⟩ := hb target podContainers name ctx
    · simp [Rendering.ask, ha, hb, Except.toOption]
    · simp [Rendering.ask, ha, hb, Except.toOption]
  · obtain ⟨e', hb⟩ | ⟨claimed', settings', hothers, hb⟩ := hb target podContainers name ctx
    · simp [Rendering.ask, ha, hb, Except.toOption]
    · have hcomm := EnvVar.setEach_comm answer.env fun s hs t ht heq =>
        hdisjoint s.1 (hnames s hs) (heq ▸ hothers t ht)
      simp only [Rendering.ask, ha, hb, ok_bind, hcomm, Bool.or_right_comm]

/-! ### Settings of the built-in modes -/

/-- A mode answers by the settings that it has for a container. It makes them, and claims the
container if there are any. Or it fails, and then it has none. Either way it does not look at
the environment. -/
def Mode.Answers (mode : Mode)
    (settings : Target → List Container → String → Context → List (String × String)) : Prop :=
  ∀ target podContainers name ctx,
    (settings target podContainers name ctx = [] ∧
      ∃ e, ∀ env, mode.injectContainer target podContainers name env ctx = .error e) ∨
    ∀ env, mode.injectContainer target podContainers name env ctx =
      .ok ⟨!(settings target podContainers name ctx).isEmpty,
        EnvVar.setEach env (settings target podContainers name ctx)⟩

namespace Mode.Answers

variable {mode : Mode}
  {settings : Target → List Container → String → Context → List (String × String)}

/-- A mode that answers by its settings sets their names only. -/
theorem sets (h : mode.Answers settings) {names : List String}
    (hnames : ∀ target podContainers name ctx,
      ∀ s ∈ settings target podContainers name ctx, s.1 ∈ names) : mode.Sets names := by
  intro target podContainers name ctx
  obtain ⟨-, hfails⟩ | hanswers := h target podContainers name ctx
  · exact .inl hfails
  · exact .inr ⟨_, _, hnames target podContainers name ctx, hanswers⟩

variable {target : Target} {podContainers : List Container} {name : String} {ctx : Context}

/-- When such a mode answers, the environment has its settings. -/
theorem env_eq (h : mode.Answers settings) {env : List EnvVar} {next : ContainerAnswer}
    (hnext : mode.injectContainer target podContainers name env ctx = .ok next) :
    next.env = EnvVar.setEach env (settings target podContainers name ctx) := by
  obtain ⟨-, e, hfails⟩ | hanswers := h target podContainers name ctx
  · cases (hfails env).symm.trans hnext
  · cases (hanswers env).symm.trans hnext
    rfl

/-- The containers that a mode claims are those that it has settings for. -/
theorem claims_iff (h : mode.Answers settings) (env : List EnvVar) :
    (∃ next, mode.injectContainer target podContainers name env ctx = .ok next ∧
      next.claimed = true) ↔ settings target podContainers name ctx ≠ [] := by
  obtain ⟨hnone, e, hfails⟩ | hanswers := h target podContainers name ctx
  · simp [hnone, hfails]
  · simp [hanswers]

end Mode.Answers

/-- The setting that the secrets mode makes in a container that it wants. -/
def Secrets.settings (target : Target) (_ : List Container) (name : String) (ctx : Context) :
    List (String × String) :=
  match ctx.secrets with
  | none => []
  | some secrets => if wants secrets target name then [(templatesEnv, secrets.template)] else []

/-- The setting that the proxy mode makes in its agent. -/
def Proxy.settings (target : Target) (_ : List Container) (name : String) (ctx : Context) :
    List (String × String) :=
  if target = .containers ∧ name = agentContainer then
    match ctx.proxy with
    | some config => [(configEnv, config.template)]
    | none => []
  else []

/-- The settings that the job mode makes in a container that it wants. -/
def Job.settings (target : Target) (podContainers : List Container) (name : String)
    (ctx : Context) : List (String × String) :=
  if wants target name ctx then
    match podContainers with
    | [job] => [(containerNameEnv, job.name), (workloadEnv, "true")]
    | _ => []
  else []

section

variable (target : Target) (podContainers : List Container) (name : String) (ctx : Context)

/-- The secrets mode sets the text of the templates, or nothing. -/
theorem Secrets.settings_cases :
    settings target podContainers name ctx = [] ∨ ∃ secrets, ctx.secrets = some secrets ∧
      settings target podContainers name ctx = [(templatesEnv, secrets.template)] := by
  unfold settings
  cases ctx.secrets with
  | none => exact .inl rfl
  | some secrets =>
    cases hwants : wants secrets target name with
    | false => exact .inl (by simp [hwants])
    | true => exact .inr ⟨secrets, rfl, by simp [hwants]⟩

/-- The proxy mode sets its configuration, or nothing. -/
theorem Proxy.settings_cases :
    settings target podContainers name ctx = [] ∨ ∃ config, ctx.proxy = some config ∧
      settings target podContainers name ctx = [(configEnv, config.template)] := by
  unfold settings
  split
  · cases ctx.proxy with
    | none => exact .inl rfl
    | some config => exact .inr ⟨config, rfl, rfl⟩
  · exact .inl rfl

/-- The job mode sets the name of the only container and a mark for jobs, or nothing. -/
theorem Job.settings_cases :
    settings target podContainers name ctx = [] ∨ ∃ job, podContainers = [job] ∧
      settings target podContainers name ctx =
        [(containerNameEnv, job.name), (workloadEnv, "true")] := by
  unfold settings
  split
  · match podContainers with
    | [] => exact .inl rfl
    | [job] => exact .inr ⟨job, rfl, rfl⟩
    | first :: second :: rest => exact .inl rfl
  · exact .inl rfl

end

/-- The secrets mode always answers, by its settings. -/
theorem Secrets.answers : mode.Answers settings := by
  intro target podContainers name ctx
  refine .inr fun env => congrArg Except.ok ?_
  show answer target name env ctx = _
  unfold answer settings
  cases ctx.secrets with
  | none => rfl
  | some secrets =>
    dsimp only
    cases wants secrets target name <;> rfl

/-- So does the proxy mode. -/
theorem Proxy.answers : mode.Answers settings := by
  intro target podContainers name ctx
  refine .inr fun env => congrArg Except.ok ?_
  show answer target name env ctx = _
  unfold answer settings
  split
  · cases ctx.proxy <;> rfl
  · rfl

/-- The job mode answers by its settings. It fails for a container that it wants when the pod has
not just one. -/
theorem Job.answers : mode.Answers settings := by
  intro target podContainers name ctx
  show (_ ∧ ∃ e, ∀ env, answer target podContainers name env ctx = .error e) ∨
    ∀ env, answer target podContainers name env ctx = _
  unfold answer settings
  cases wants target name ctx with
  | false => exact .inr fun env => rfl
  | true =>
    -- The job mode fails for every environment or for none: only the number of containers decides.
    match podContainers with
    | [] => exact .inl ⟨rfl, _, fun env => rfl⟩
    | [job] => exact .inr fun env => rfl
    | first :: second :: rest => exact .inl ⟨rfl, _, fun env => rfl⟩

/-- One variable belongs to the secrets mode. -/
theorem Secrets.sets : mode.Sets [templatesEnv] := by
  refine answers.sets fun target podContainers name ctx => ?_
  obtain h | ⟨secrets, -, h⟩ := settings_cases target podContainers name ctx <;> simp [h]

/-- Another one belongs to the proxy mode. -/
theorem Proxy.sets : mode.Sets [configEnv] := by
  refine answers.sets fun target podContainers name ctx => ?_
  obtain h | ⟨config, -, h⟩ := settings_cases target podContainers name ctx <;> simp [h]

/-- Two more belong to the job mode, so no two modes set the same variable. -/
theorem Job.sets : mode.Sets [containerNameEnv, workloadEnv] := by
  refine answers.sets fun target podContainers name ctx => ?_
  obtain h | ⟨job, -, h⟩ := settings_cases target podContainers name ctx <;> simp [h]

/-! ### Independent modes -/

/-- Two modes neither of which has a say in what becomes of the other. -/
structure Mode.Independent (a b : Mode) : Prop where
  /-- They are told apart. -/
  key : a.key ≠ b.key
  /-- One of them at most is the default. -/
  isDefault : ¬ (a.isDefault = true ∧ b.isDefault = true)
  /-- Their edits of a pod make the same patch in either order. -/
  patchPod : ∀ config keys spec pod ctx edits others,
    a.patchPod config keys spec pod ctx = .ok edits →
      b.patchPod config keys spec pod ctx = .ok others → edits ++ others = others ++ edits
  /-- Asked about a container in either order, they leave the same answer. -/
  ask : ∀ target podContainers name ctx answer,
    (Rendering.ask target podContainers name ctx [a, b] answer).toOption =
      (Rendering.ask target podContainers name ctx [b, a] answer).toOption

namespace Mode.Independent

variable {a b : Mode}

/-- Independence goes both ways. -/
theorem symm (h : a.Independent b) : b.Independent a where
  key := h.key.symm
  isDefault := fun hdefault => h.isDefault hdefault.symm
  patchPod config keys spec pod ctx edits others hedits hothers :=
    (h.patchPod config keys spec pod ctx others edits hothers hedits).symm
  ask target podContainers name ctx answer := (h.ask target podContainers name ctx answer).symm

instance : Std.Symm Mode.Independent := ⟨fun _ _ => symm⟩

/-- A mode that edits no pod is independent of one that sets other variables. -/
theorem of_sets {names others : List String} (ha : a.Sets names) (hb : b.Sets others)
    (hdisjoint : ∀ n ∈ names, n ∉ others) (hkey : a.key ≠ b.key) (hdefault : b.isDefault = false)
    (hquiet : ∀ config keys spec pod ctx, b.patchPod config keys spec pod ctx = .ok []) :
    a.Independent b where
  key := hkey
  isDefault := by simp [hdefault]
  patchPod config keys spec pod ctx edits more hedits hmore := by
    rw [hquiet] at hmore
    cases hmore
    rw [List.append_nil, List.nil_append]
  ask target podContainers name ctx answer :=
    ha.ask_comm hb hdisjoint target podContainers name ctx answer

end Mode.Independent

/-- The built-in modes are independent: each sets variables of its own, and the secrets mode
is the only one that edits pods and the only default. -/
theorem pairwise_builtinModes : builtinModes.Pairwise Mode.Independent := by
  unfold builtinModes
  simp only [List.pairwise_cons, List.forall_mem_cons]
  refine ⟨⟨?_, ?_, nofun⟩, ⟨?_, nofun⟩, nofun, .nil⟩
  · exact .of_sets Secrets.sets Proxy.sets (by decide) (by decide) rfl fun _ _ _ _ _ => rfl
  · exact .of_sets Secrets.sets Job.sets (by decide) (by decide) rfl fun _ _ _ _ _ => rfl
  · exact .of_sets Proxy.sets Job.sets (by decide) (by decide) rfl fun _ _ _ _ _ => rfl

end SidecarInjection
