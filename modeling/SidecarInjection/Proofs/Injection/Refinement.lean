import SidecarInjection.Proofs.Context.Build
import SidecarInjection.Proofs.Injection.Spec

/-!
# `SidecarInjection.Proofs.Injection.Refinement`: edits come to their effect

The edits of an injection are run on an object that denotes the pod, and lead to
an object that denotes the updated pod. Each step of the injection is
shown to turn the specification on its own, from the state that the steps before
it leave: they leave alone what the step reads of the submitted containers.

* `Injector.turns_hookEdits`, `turns_commandPatch`, `turns_secretsPatch`: the steps
  that edit the pod's own containers.
* `Injector.turns_statusEdit`: the step that marks the metadata.
* `Injector.run?_edits`: all steps together.
-/

set_option autoImplicit false

namespace SidecarInjection

open Outcome

namespace Secrets

/-- A hook is requested for dynamic secrets, by an annotation that says yes. -/
theorem hookRequested_eq (keys : AnnotationKeys) (labels : PodLabels) (ctx : Context) :
    hookRequested keys labels ctx =
      (Effect.isDynamic ctx && Annotations.isTruthy (keys.value labels.annotations hookKey)) := by
  unfold hookRequested Effect.isDynamic
  cases ctx.secrets with
  | none => rfl
  | some secrets =>
    obtain ⟨secretsType, method, template⟩ := secrets
    cases secretsType <;> rfl

/-- Static secrets may go to the environment. -/
theorem usesEnv_eq (ctx : Context) : usesEnv ctx = Effect.isStaticEnv ctx := by
  unfold usesEnv Effect.isStaticEnv
  cases ctx.secrets <;> rfl

end Secrets

namespace Injector

variable {i : Injector} {spec : PodSpec} {labels : PodLabels} {ctx : Context}

/-- With the built-in modes only the secrets mode edits a pod. It finds nothing to do
in a context without secrets. -/
theorem modePatch_builtin (hi : i.registry = .builtin)
    (hctx : ctx.modes.isEnabled secretsKey = false → ctx.secrets = none) :
    i.modePatch spec labels ctx (i.registry.enabledModes ctx.modes) =
      (do
        let hooks ← Secrets.hookPatch i.config i.keys spec labels ctx
        let commands ← Secrets.commandPatch spec ctx
        .ok (hooks ++ commands)) := by
  -- The proxy and job modes have no edits of their own.
  have hrest : i.modePatch spec labels ctx
      ((if ctx.modes.isEnabled proxyKey then [Proxy.mode] else []) ++
        (if ctx.modes.isEnabled jobKey then [Job.mode] else [])) = .ok [] := by
    cases ctx.modes.isEnabled proxyKey <;> cases ctx.modes.isEnabled jobKey <;> rfl
  rw [hi, Registry.enabledModes_builtin]
  cases henabled : ctx.modes.isEnabled secretsKey with
  | false =>
    have hnone := hctx henabled
    have hhook : Secrets.hookPatch i.config i.keys spec labels ctx = .ok [] := by
      rw [Secrets.hookPatch, Secrets.hookRequested, hnone]
      rfl
    have hcommand : Secrets.commandPatch spec ctx = .ok [] := by
      rw [Secrets.commandPatch, Secrets.usesEnv, hnone]
      rfl
    rw [hhook, hcommand]
    exact hrest
  | true =>
    show (do
      let edits ← (do
        let hooks ← Secrets.hookPatch i.config i.keys spec labels ctx
        let commands ← Secrets.commandPatch spec ctx
        return hooks ++ commands)
      let others ← i.modePatch spec labels ctx
        ((if ctx.modes.isEnabled proxyKey then [Proxy.mode] else []) ++
          (if ctx.modes.isEnabled jobKey then [Job.mode] else []))
      return edits ++ others) = _
    rw [hrest]
    cases Secrets.hookPatch i.config i.keys spec labels ctx with
    | error e => rfl
    | ok hooks =>
      cases Secrets.commandPatch spec ctx with
      | error e => rfl
      | ok commands => simp

/-! ### Edits of the pod's own containers -/

/-- The edits of the mode are those of the hook that there is to set. -/
theorem hookPatch_eq {hooks : Patch}
    (h : Secrets.hookPatch i.config i.keys spec labels ctx = .ok hooks) :
    hooks = Patch.under ["spec"]
      (Secrets.hookEdits (Effect.startHook i labels ctx spec.containers) spec.containers) := by
  unfold Secrets.hookPatch at h
  rw [Secrets.hookRequested_eq] at h
  split at h
  · rename_i hreq
    have hreq : ¬ (Effect.isDynamic ctx && Annotations.isTruthy
        (i.keys.value labels.annotations Secrets.hookKey)) = true := by
      rw [Bool.not_eq_true, ← Bool.not_eq_true']
      exact hreq
    rw [Effect.startHook, if_neg hreq]
    exact (Except.ok.inj h).symm
  · rename_i hreq
    have hreq : (Effect.isDynamic ctx && Annotations.isTruthy
        (i.keys.value labels.annotations Secrets.hookKey)) = true := by simpa using hreq
    rw [Effect.startHook, if_pos hreq]
    split at h
    · -- The hook does not go with the job mode.
      cases h
    · cases hpost : i.config.lifecycleHooks.postStart with
      | none =>
        rw [hpost] at h
        exact (Except.ok.inj h).symm
      | some post =>
        rw [hpost] at h
        cases hexec : post.exec with
        | none =>
          -- A hook that runs no command is refused.
          simp only [hexec] at h
          cases h
        | some exec =>
          simp only [hexec] at h
          rw [Secrets.mapIdx_replace_eq] at h
          rw [Option.bind_some, hexec]
          exact (Except.ok.inj h).symm

/-- The hook is set in every container. -/
theorem turns_hookEdits (hook : Option LifecycleHandler) (hne : spec.containers ≠ []) :
    Patch.Turns (Schema.podSpec.Denotes PodSpec.toJson)
      (Secrets.hookEdits hook spec.containers) spec
      (spec.setList (spec.containers.map (Effect.setHook hook)) .containers) := by
  cases hook with
  | none =>
    -- Without a hook to set nothing changes.
    rw [show Effect.setHook none = id from rfl, List.map_id]
    exact Patch.Turns.nil spec
  | some hook =>
    refine PodSpec.turns_each .containers (f := id) (by rw [List.map_id]; rfl) (.inr hne) ?_
    intro c _
    exact Secrets.turns_replaceEdit c _

/-- The commands are wrapped in every container, also after edits that left the
commands alone. -/
theorem turns_commandPatch {commands : Patch} (h : Secrets.commandPatch spec ctx = .ok commands)
    (hne : spec.containers ≠ []) {f : Container → Container}
    (hf : ∀ c, (f c).command = c.command) :
    ∃ edits, commands = Patch.under ["spec"] edits ∧ ∀ now : PodSpec,
      now.containers = spec.containers.map f →
        Patch.Turns (Schema.podSpec.Denotes PodSpec.toJson) edits now
          (now.setList (spec.containers.map fun c =>
            Effect.wrapCommand (Effect.envProcess ctx spec.containers) (f c)) .containers) := by
  rw [Secrets.commandPatch_eq, Secrets.usesEnv_eq] at h
  unfold Effect.envProcess
  split at h
  · rename_i henv
    cases hfind : spec.containers.find? Secrets.lacksCommand with
    | some c =>
      -- A container without a command is an error, and then there are no edits.
      rw [hfind] at h
      cases h
    | none =>
      rw [hfind] at h
      refine ⟨_, (Except.ok.inj h).symm, fun now hnow => ?_⟩
      rw [if_pos henv]
      refine PodSpec.turns_each .containers (f := f) (congrArg some hnow) (.inr hne)
        ?_
      intro c hc
      have hcommand : Secrets.lacksCommand c = false := by
        simpa using List.find?_eq_none.mp hfind c hc
      exact Secrets.turns_wrapEdit _ hcommand (hf c)
  · rename_i henv
    refine ⟨[], (Except.ok.inj h).symm, fun now hnow => ?_⟩
    rw [if_neg henv]
    -- No command is wrapped, so the containers are as the edits before left them.
    show Patch.Turns _ [] now (now.setList (spec.containers.map f) .containers)
    rw [← hnow]
    exact Patch.Turns.nil now

/-- The secrets volume is mounted into the containers of one list. -/
theorem turns_mountEdits {now : PodSpec} (target : Target) {cs : List Container}
    {f : Container → Container} (hf : ∀ c, (f c).volumeMounts = c.volumeMounts)
    (hnow : now.list target = some (cs.map f)) (hcs : target = .initContainers ∨ cs ≠ []) :
    Patch.Turns (Schema.podSpec.Denotes PodSpec.toJson)
      (Patch.under [target.field] (Patch.each mountEdit 0 cs)) now
      (now.setList (cs.map fun c => Effect.addMount (f c)) target) :=
  PodSpec.turns_each target hnow hcs fun c _ => turns_mountEdit (hf c)

/-- The specification with the secrets volume mounted into all init containers. -/
def mountInit (ctx : Context) (s : PodSpec) : PodSpec :=
  { s with initContainers := s.initContainers.map (List.map (Effect.mountSecrets ctx)) }

/-- The secrets volume is mounted into the containers of both lists, also after edits
that left the mounts alone. -/
theorem turns_secretsPatch (ctx : Context) (hne : spec.containers ≠ [])
    {f : Container → Container} (hf : ∀ c, (f c).volumeMounts = c.volumeMounts) :
    ∃ edits, secretsPatch spec ctx = Patch.under ["spec"] edits ∧ ∀ now : PodSpec,
      now.containers = spec.containers.map f → now.initContainers = spec.initContainers →
        Patch.Turns (Schema.podSpec.Denotes PodSpec.toJson) edits now
          ((mountInit ctx now).setList (spec.containers.map fun c =>
            Effect.mountSecrets ctx (f c)) .containers) := by
  unfold secretsPatch mountInit Effect.mountSecrets
  cases ctx.modes.isEnabled secretsKey with
  | false =>
    refine ⟨[], rfl, fun now hnow _ => ?_⟩
    obtain ⟨containers, initContainers, volumes, extra⟩ := now
    cases hnow
    -- Nothing is mounted, so both lists stay.
    have hmap : Option.map (List.map fun c : Container => c) initContainers = initContainers := by
      simp
    show Patch.Turns _ [] _ (PodSpec.mk (spec.containers.map f)
      (Option.map (List.map fun c => c) initContainers) volumes extra)
    rw [hmap]
    exact Patch.Turns.nil _
  | true =>
    -- The init containers are edited first, and the other list is left alone by that.
    refine ⟨Patch.under ["initContainers"] (Patch.each mountEdit 0 (spec.initContainers.getD [])) ++
      Patch.under ["containers"] (Patch.each mountEdit 0 spec.containers), ?_,
      fun now hnow hinit => ?_⟩
    · rw [if_pos rfl, mountPatch_eq, mountPatch_eq, Patch.under_append]
      rfl
    · refine Patch.Turns.append (b := { now with
        initContainers := now.initContainers.map (List.map Effect.addMount) }) ?_ ?_
      · obtain ⟨containers, initContainers, volumes, extra⟩ := now
        rw [← hinit]
        cases initContainers with
        | none => exact Patch.Turns.nil _
        | some cs =>
          have hid : (cs.map fun c => c) = cs := List.map_id cs
          exact turns_mountEdits .initContainers (f := fun c => c) (fun _ => rfl)
            (congrArg some hid.symm) (.inl rfl)
      · exact turns_mountEdits .containers hf (congrArg some hnow) (.inr hne)

/-! ### The mark -/

/-- A text set under a key of an object of texts is set in its texts. -/
theorem textMap_insert (d : Dict String) (key value : String) :
    Json.textMap (Dict.insert d key value) =
      .obj (Dict.insert (d.map fun e => (e.1, Json.str e.2)) key (.str value)) :=
  congrArg Json.obj (Dict.map_insert Json.str d key value)

/-- The metadata is marked. -/
theorem turns_statusEdit (i : Injector) (metadata : ObjectMeta) :
    ∃ edits, [i.statusOperation metadata] = Patch.under ["metadata"] edits ∧
      Patch.Turns (Schema.objectMeta.Denotes ObjectMeta.toJson) edits metadata
        (Effect.mark i metadata) := by
  unfold statusOperation Effect.mark
  cases hold : metadata.annotations with
  | none =>
    refine ⟨[.add ["annotations"] (.obj [(_, .str Annotations.injected)])], rfl,
      by simp [Operation.Inside], fun j h => ?_⟩
    obtain ⟨ms, rfl⟩ := Schema.exists_members_of_denotes h
    exact ⟨_, Patch.run?_add_member _ _ _, ObjectMeta.denotes_insert_annotations h [(_, _)]⟩
  | some annotations =>
    -- The texts are an object, and the mark is one of its members.
    have hset : ∀ op : Operation, op.Inside →
        op.run? (.textMap annotations) =
          some (.textMap (Dict.insert annotations (i.keys.qualified Annotations.status)
            Annotations.injected)) →
        Patch.Turns (Schema.objectMeta.Denotes ObjectMeta.toJson)
          (Patch.under ["annotations"] [op]) metadata { metadata with
            annotations := some (Dict.insert annotations (i.keys.qualified Annotations.status)
              Annotations.injected) } := by
      intro op hinside hrun
      refine ⟨Patch.inside_under (by simp) _, fun j h => ?_⟩
      obtain ⟨ms, rfl⟩ := Schema.exists_members_of_denotes h
      refine ⟨_, ?_, ObjectMeta.denotes_insert_annotations h _⟩
      rw [Patch.run?_member (by simpa using hinside) (ObjectMeta.exists_annotations h hold),
        Patch.run?_singleton, hrun, Option.map_some]
    by_cases hkey : Dict.contains annotations (i.keys.qualified Annotations.status) = true
    · refine ⟨Patch.under ["annotations"]
        [.replace [i.keys.qualified Annotations.status] (.str Annotations.injected)], ?_,
        hset _ trivial ?_⟩
      · show [if _ then _ else _] = _
        rw [if_pos hkey]
        rfl
      · obtain ⟨value, hvalue⟩ := Option.isSome_iff_exists.mp hkey
        rw [textMap_insert]
        refine Patch.run?_replace_member (.str value) ?_
        rw [Dict.get?_map, hvalue]
        rfl
    · refine ⟨Patch.under ["annotations"]
        [.add [i.keys.qualified Annotations.status] (.str Annotations.injected)], ?_,
        hset _ (by simp [Operation.Inside]) ?_⟩
      · show [if _ then _ else _] = _
        rw [if_neg hkey]
        rfl
      · rw [textMap_insert]
        rfl

/-! ### The whole run -/

/-- The edits of the pod's own containers make the update of these. -/
theorem turns_ownEdits {modeEdits : Patch} (hi : i.registry = .builtin)
    (hctx : ctx.modes.isEnabled secretsKey = false → ctx.secrets = none)
    (h : i.modePatch spec labels ctx (i.registry.enabledModes ctx.modes) = .ok modeEdits)
    (hne : spec.containers ≠ []) :
    ∃ edits, modeEdits ++ secretsPatch spec ctx = Patch.under ["spec"] edits ∧
      Patch.Turns (Schema.podSpec.Denotes PodSpec.toJson) edits spec
        (Effect.updateOwn i labels ctx spec) := by
  rw [modePatch_builtin hi hctx] at h
  obtain ⟨hooks, hhooks, h⟩ := bind_eq_ok.mp h
  obtain ⟨commands, hcommands, h⟩ := bind_eq_ok.mp h
  cases h
  -- The hook leaves the commands alone, and both leave the mounts alone.
  have hcommand : ∀ c, (Effect.setHook (Effect.startHook i labels ctx spec.containers) c).command =
      c.command := by
    intro c
    cases Effect.startHook i labels ctx spec.containers <;> rfl
  have hmounts : ∀ c, (Effect.wrapCommand (Effect.envProcess ctx spec.containers)
      (Effect.setHook (Effect.startHook i labels ctx spec.containers) c)).volumeMounts =
        c.volumeMounts := by
    intro c
    cases Effect.envProcess ctx spec.containers <;>
      cases Effect.startHook i labels ctx spec.containers <;> rfl
  obtain rfl := hookPatch_eq hhooks
  have hhook := turns_hookEdits (Effect.startHook i labels ctx spec.containers) hne
  obtain ⟨commandEdits, rfl, hwrap⟩ := turns_commandPatch hcommands hne hcommand
  obtain ⟨mountEdits, hmountEdits, hmount⟩ := turns_secretsPatch ctx hne hmounts
  refine ⟨(Secrets.hookEdits _ spec.containers ++ commandEdits) ++ mountEdits, ?_,
    (hhook.append (hwrap _ rfl)).append (hmount _ rfl rfl)⟩
  rw [hmountEdits, Patch.under_append, Patch.under_append]

/-- The edits of a specification make its update. -/
theorem turns_specEdits {modeEdits : Patch} (hi : i.registry = .builtin)
    (hctx : ctx.modes.isEnabled secretsKey = false → ctx.secrets = none)
    (h : i.modePatch spec labels ctx (i.registry.enabledModes ctx.modes) = .ok modeEdits)
    (hne : spec.containers ≠ []) (initRendered rendered : List Container) :
    ∃ edits, modeEdits ++ secretsPatch spec ctx ++ i.volumePatch spec ++
        Rendering.prepend .initContainers spec.initContainers.isNone initRendered ++
        Rendering.prepend .containers (some spec.containers).isNone rendered =
          Patch.under ["spec"] edits ∧
      Patch.Turns (Schema.podSpec.Denotes PodSpec.toJson) edits spec
        (Effect.update i labels ctx initRendered rendered spec) := by
  -- Each step starts from the specification that the steps before it lead to.
  obtain ⟨ownEdits, hownEdits, hown⟩ := turns_ownEdits hi hctx h hne
  have hvolumes := PodSpec.turns_addVolumes (Effect.updateOwn i labels ctx spec)
    (Effect.newVolumes i spec)
  have hinit := PodSpec.turns_prepend .initContainers
    (s := (Effect.updateOwn i labels ctx spec).addVolumes (Effect.newVolumes i spec))
    initRendered (.inl rfl)
  have hcontainers := PodSpec.turns_prepend .containers
    (s := ((Effect.updateOwn i labels ctx spec).addVolumes
      (Effect.newVolumes i spec)).prependList initRendered .initContainers) rendered
    (.inr (by simpa [PodSpec.addVolumes, PodSpec.prependList, Effect.updateOwn] using hne))
  refine ⟨_, ?_, ((hown.append hvolumes).append hinit).append hcontainers⟩
  -- The operations were chosen by the submitted lists, which are absent just when the
  -- updated ones are.
  have habsent : ((Effect.updateOwn i labels ctx spec).addVolumes
      (Effect.newVolumes i spec)).list .initContainers =
        spec.initContainers.map (List.map (Effect.mountSecrets ctx)) := rfl
  rw [hownEdits, volumePatch_eq, Rendering.prepend_eq, Rendering.prepend_eq, habsent,
    Option.isNone_map, Patch.under_append, Patch.under_append, Patch.under_append]
  rfl

/-- The edits of a pod that has containers, run on an object with its metadata and its
specification, make the update of both and change nothing else. -/
theorem run?_edits (hi : i.registry = .builtin) {metadata : ObjectMeta} {log : Patch}
    (h : i.edits metadata spec = .ok log) (hne : spec.containers ≠ []) {ms : Dict Json}
    {specJson metaJson : Json} (hspec : Dict.get? ms "spec" = some specJson)
    (hmeta : Dict.get? ms "metadata" = some metaJson)
    (hs : Schema.podSpec.Denotes PodSpec.toJson spec specJson)
    (hm : Schema.objectMeta.Denotes ObjectMeta.toJson metadata metaJson) :
    ∃ new newSpec newMeta, Effect.updateSpec i metadata spec = .ok new ∧
      Patch.run? log (.obj ms) =
        some (.obj (Dict.insert (Dict.insert ms "spec" newSpec) "metadata" newMeta)) ∧
      Schema.podSpec.Denotes PodSpec.toJson new newSpec ∧
      Schema.objectMeta.Denotes ObjectMeta.toJson (Effect.mark i metadata) newMeta := by
  obtain ⟨ctx, hctx, h⟩ := bind_eq_ok.mp h
  obtain ⟨modeEdits, hmodes, h⟩ := bind_eq_ok.mp h
  obtain ⟨initEdits, hinit, h⟩ := bind_eq_ok.mp h
  obtain ⟨containerEdits, hcontainers, h⟩ := bind_eq_ok.mp h
  obtain ⟨initRendered, hinitRendered, hinit⟩ := bind_eq_ok.mp hinit
  obtain ⟨rendered, hrendered, hcontainers⟩ := bind_eq_ok.mp hcontainers
  cases hinit
  cases hcontainers
  cases h
  have hnone : ctx.modes.isEnabled secretsKey = false → ctx.secrets = none :=
    Context.secrets_eq_none (hi ▸ hctx)
  obtain ⟨specEdits, hspecEdits, hspecTurns⟩ :=
    turns_specEdits hi hnone hmodes hne initRendered rendered
  obtain ⟨statusEdits, hstatusEdits, hstatusTurns⟩ := turns_statusEdit i metadata
  obtain ⟨newSpec, hnewSpec, hdenotesSpec⟩ := hspecTurns.exists_run specJson hs
  obtain ⟨newMeta, hnewMeta, hdenotesMeta⟩ := hstatusTurns.exists_run metaJson hm
  refine ⟨_, newSpec, newMeta, ?_, ?_, hdenotesSpec, hdenotesMeta⟩
  · simp only [Option.getD_some] at hrendered
    simp only [Effect.updateSpec, hctx, ok_bind, hinitRendered, hrendered, pure_eq]
  · -- The edits of the specification leave the metadata where it is.
    have hmeta' : Dict.get? (Dict.insert ms "spec" newSpec) "metadata" = some metaJson :=
      (Dict.get?_insert_of_ne _ _ (by decide)).trans hmeta
    rw [hspecEdits, hstatusEdits, Patch.run?_append, Patch.run?_member hspecTurns.inside hspec,
      hnewSpec, Option.map_some, Option.bind_some, Patch.run?_member hstatusTurns.inside hmeta',
      hnewMeta, Option.map_some]

end Injector

end SidecarInjection
