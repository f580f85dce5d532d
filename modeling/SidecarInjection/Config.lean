import SidecarInjection.Pod.Basic

/-!
# `SidecarInjection.Config`: what an injector is configured with

The containers and volumes to inject, the templates of the modes, and the keys
of the annotations and labels that steer injection.
-/

set_option autoImplicit false

namespace SidecarInjection

namespace Schema

/-- The order of the configured lists when they are given without names. -/
def injectionOrder : Layout := .strict ["initContainers", "containers", "volumes"]

/-- The shape of the configured containers and volumes. -/
def injectionConfig : Schema := .record "InjectionConfig" injectionOrder <| .ofList
  [("containers", .defaulted, .list container), ("initContainers", .defaulted, .list container),
   ("volumes", .defaulted, .list volume)]

/-- The shape of the configured lifecycle hooks. -/
def lifecycleHooks : Schema := .record "LifecycleHooks" (.strict ["postStart"]) <| .ofList
  [("postStart", .optional, lifecycleHandler)]

end Schema

/-- The containers and volumes to inject. -/
structure InjectionConfig where
  initContainers : List Container
  containers : List Container
  volumes : List Volume

namespace InjectionConfig

/-- Nothing to inject. -/
def empty : InjectionConfig := ⟨[], [], []⟩

/-- The configuration that a written form denotes. -/
def ofJson (j : Json) : InjectionConfig where
  initContainers := (j.memberList? Container.ofJson "initContainers").getD []
  containers := (j.memberList? Container.ofJson "containers").getD []
  volumes := (j.memberList? Volume.ofJson "volumes").getD []

/-- The written form. -/
def toJson (c : InjectionConfig) : Json :=
  .obj [("containers", .arr (c.containers.map Container.toJson)),
    ("initContainers", .arr (c.initContainers.map Container.toJson)),
    ("volumes", .arr (c.volumes.map Volume.toJson))]

/-- The configuration that a JSON value denotes. -/
def decode (j : Json) : Except DecodeError InjectionConfig :=
  ofJson <$> Schema.injectionConfig.decode j

end InjectionConfig

/-- The hooks set on application containers. -/
structure LifecycleHooks where
  postStart : Option LifecycleHandler

namespace LifecycleHooks

/-- The hooks that a written form denotes. -/
def ofJson (j : Json) : LifecycleHooks := ⟨(j.member? "postStart").map LifecycleHandler.ofJson⟩

/-- The hooks that a JSON value denotes. -/
def decode (j : Json) : Except DecodeError LifecycleHooks :=
  ofJson <$> Schema.lifecycleHooks.decode j

end LifecycleHooks

/-- The configuration of an injector. -/
structure Config where
  /-- Stands before the slash of every annotation key. -/
  annotationQualifier : String
  /-- The label that names the application. -/
  appLabel : String
  /-- The label that names the service of the application. -/
  serviceLabel : String
  injection : InjectionConfig
  /-- The listener configuration of the proxy, with a placeholder for the port. -/
  proxyConfig : String
  /-- The text written once per secrets destination, with placeholders. -/
  templateBlock : String
  /-- The template of a destination that brings none of its own. -/
  templateDefault : String
  lifecycleHooks : LifecycleHooks

end SidecarInjection
