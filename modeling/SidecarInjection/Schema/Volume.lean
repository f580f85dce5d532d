import SidecarInjection.Schema.Metadata

/-!
# `SidecarInjection.Schema.Volume`: the shapes of volumes and their sources

The declared fields of Kubernetes 1.33 objects, in ascending order of their names.
-/

set_option autoImplicit false

namespace SidecarInjection.Schema

/-- The shape of `LocalObjectReference`. -/
def localObjectReference : Schema := .record "LocalObjectReference" .lenient <| .ofList
  [("name", .required, .text)]

/-- The shape of `AWSElasticBlockStoreVolumeSource`. -/
def awsElasticBlockStoreVolumeSource : Schema := .record "AWSElasticBlockStoreVolumeSource" .lenient <| .ofList
  [("fsType", .optional, .text), ("partition", .optional, .int32), ("readOnly", .optional, .flag),
   ("volumeID", .required, .text)]

/-- The shape of `AzureDiskVolumeSource`. -/
def azureDiskVolumeSource : Schema := .record "AzureDiskVolumeSource" .lenient <| .ofList
  [("cachingMode", .optional, .text), ("diskName", .required, .text), ("diskURI", .required, .text),
   ("fsType", .optional, .text), ("kind", .optional, .text), ("readOnly", .optional, .flag)]

/-- The shape of `AzureFileVolumeSource`. -/
def azureFileVolumeSource : Schema := .record "AzureFileVolumeSource" .lenient <| .ofList
  [("readOnly", .optional, .flag), ("secretName", .required, .text),
   ("shareName", .required, .text)]

/-- The shape of `CephFSVolumeSource`. -/
def cephFSVolumeSource : Schema := .record "CephFSVolumeSource" .lenient <| .ofList
  [("monitors", .required, .list .text), ("path", .optional, .text), ("readOnly", .optional, .flag),
   ("secretFile", .optional, .text), ("secretRef", .optional, localObjectReference),
   ("user", .optional, .text)]

/-- The shape of `CinderVolumeSource`. -/
def cinderVolumeSource : Schema := .record "CinderVolumeSource" .lenient <| .ofList
  [("fsType", .optional, .text), ("readOnly", .optional, .flag),
   ("secretRef", .optional, localObjectReference), ("volumeID", .required, .text)]

/-- The shape of `KeyToPath`. -/
def keyToPath : Schema := .record "KeyToPath" .lenient <| .ofList
  [("key", .required, .text), ("mode", .optional, .int32), ("path", .required, .text)]

/-- The shape of `ConfigMapVolumeSource`. -/
def configMapVolumeSource : Schema := .record "ConfigMapVolumeSource" .lenient <| .ofList
  [("defaultMode", .optional, .int32), ("items", .optional, .list keyToPath),
   ("name", .required, .text), ("optional", .optional, .flag)]

/-- The shape of `CSIVolumeSource`. -/
def csiVolumeSource : Schema := .record "CSIVolumeSource" .lenient <| .ofList
  [("driver", .required, .text), ("fsType", .optional, .text),
   ("nodePublishSecretRef", .optional, localObjectReference), ("readOnly", .optional, .flag),
   ("volumeAttributes", .optional, .map .text)]

/-- The shape of `DownwardAPIVolumeFile`. -/
def downwardAPIVolumeFile : Schema := .record "DownwardAPIVolumeFile" .lenient <| .ofList
  [("fieldRef", .optional, objectFieldSelector), ("mode", .optional, .int32),
   ("path", .required, .text), ("resourceFieldRef", .optional, resourceFieldSelector)]

/-- The shape of `DownwardAPIVolumeSource`. -/
def downwardAPIVolumeSource : Schema := .record "DownwardAPIVolumeSource" .lenient <| .ofList
  [("defaultMode", .optional, .int32), ("items", .optional, .list downwardAPIVolumeFile)]

/-- The shape of `EmptyDirVolumeSource`. -/
def emptyDirVolumeSource : Schema := .record "EmptyDirVolumeSource" .lenient <| .ofList
  [("medium", .optional, .text), ("sizeLimit", .optional, .text)]

/-- The shape of `TypedLocalObjectReference`. -/
def typedLocalObjectReference : Schema := .record "TypedLocalObjectReference" .lenient <| .ofList
  [("apiGroup", .optional, .text), ("kind", .required, .text), ("name", .required, .text)]

/-- The shape of `TypedObjectReference`. -/
def typedObjectReference : Schema := .record "TypedObjectReference" .lenient <| .ofList
  [("apiGroup", .optional, .text), ("kind", .required, .text), ("name", .required, .text),
   ("namespace", .optional, .text)]

/-- The shape of `VolumeResourceRequirements`. -/
def volumeResourceRequirements : Schema := .record "VolumeResourceRequirements" .lenient <| .ofList
  [("limits", .optional, .map .text), ("requests", .optional, .map .text)]

/-- The shape of `PersistentVolumeClaimSpec`. -/
def persistentVolumeClaimSpec : Schema := .record "PersistentVolumeClaimSpec" .lenient <| .ofList
  [("accessModes", .optional, .list .text), ("dataSource", .optional, typedLocalObjectReference),
   ("dataSourceRef", .optional, typedObjectReference),
   ("resources", .optional, volumeResourceRequirements), ("selector", .optional, labelSelector),
   ("storageClassName", .optional, .text), ("volumeAttributesClassName", .optional, .text),
   ("volumeMode", .optional, .text), ("volumeName", .optional, .text)]

/-- The shape of `PersistentVolumeClaimTemplate`. -/
def persistentVolumeClaimTemplate : Schema := .record "PersistentVolumeClaimTemplate" .lenient <| .ofList
  [("metadata", .optional, objectMeta), ("spec", .required, persistentVolumeClaimSpec)]

/-- The shape of `EphemeralVolumeSource`. -/
def ephemeralVolumeSource : Schema := .record "EphemeralVolumeSource" .lenient <| .ofList
  [("volumeClaimTemplate", .optional, persistentVolumeClaimTemplate)]

/-- The shape of `FCVolumeSource`. -/
def fcVolumeSource : Schema := .record "FCVolumeSource" .lenient <| .ofList
  [("fsType", .optional, .text), ("lun", .optional, .int32), ("readOnly", .optional, .flag),
   ("targetWWNs", .optional, .list .text), ("wwids", .optional, .list .text)]

/-- The shape of `FlexVolumeSource`. -/
def flexVolumeSource : Schema := .record "FlexVolumeSource" .lenient <| .ofList
  [("driver", .required, .text), ("fsType", .optional, .text), ("options", .optional, .map .text),
   ("readOnly", .optional, .flag), ("secretRef", .optional, localObjectReference)]

/-- The shape of `FlockerVolumeSource`. -/
def flockerVolumeSource : Schema := .record "FlockerVolumeSource" .lenient <| .ofList
  [("datasetName", .optional, .text), ("datasetUUID", .optional, .text)]

/-- The shape of `GCEPersistentDiskVolumeSource`. -/
def gcePersistentDiskVolumeSource : Schema := .record "GCEPersistentDiskVolumeSource" .lenient <| .ofList
  [("fsType", .optional, .text), ("partition", .optional, .int32), ("pdName", .required, .text),
   ("readOnly", .optional, .flag)]

/-- The shape of `GitRepoVolumeSource`. -/
def gitRepoVolumeSource : Schema := .record "GitRepoVolumeSource" .lenient <| .ofList
  [("directory", .optional, .text), ("repository", .required, .text),
   ("revision", .optional, .text)]

/-- The shape of `GlusterfsVolumeSource`. -/
def glusterfsVolumeSource : Schema := .record "GlusterfsVolumeSource" .lenient <| .ofList
  [("endpoints", .required, .text), ("path", .required, .text), ("readOnly", .optional, .flag)]

/-- The shape of `HostPathVolumeSource`. -/
def hostPathVolumeSource : Schema := .record "HostPathVolumeSource" .lenient <| .ofList
  [("path", .required, .text), ("type", .optional, .text)]

/-- The shape of `ImageVolumeSource`. -/
def imageVolumeSource : Schema := .record "ImageVolumeSource" .lenient <| .ofList
  [("pullPolicy", .optional, .text), ("reference", .optional, .text)]

/-- The shape of `ISCSIVolumeSource`. -/
def iscsiVolumeSource : Schema := .record "ISCSIVolumeSource" .lenient <| .ofList
  [("chapAuthDiscovery", .optional, .flag), ("chapAuthSession", .optional, .flag),
   ("fsType", .optional, .text), ("initiatorName", .optional, .text), ("iqn", .required, .text),
   ("iscsiInterface", .optional, .text), ("lun", .required, .int32),
   ("portals", .optional, .list .text), ("readOnly", .optional, .flag),
   ("secretRef", .optional, localObjectReference), ("targetPortal", .required, .text)]

/-- The shape of `NFSVolumeSource`. -/
def nfsVolumeSource : Schema := .record "NFSVolumeSource" .lenient <| .ofList
  [("path", .required, .text), ("readOnly", .optional, .flag), ("server", .required, .text)]

/-- The shape of `PersistentVolumeClaimVolumeSource`. -/
def persistentVolumeClaimVolumeSource : Schema := .record "PersistentVolumeClaimVolumeSource" .lenient <| .ofList
  [("claimName", .required, .text), ("readOnly", .optional, .flag)]

/-- The shape of `PhotonPersistentDiskVolumeSource`. -/
def photonPersistentDiskVolumeSource : Schema := .record "PhotonPersistentDiskVolumeSource" .lenient <| .ofList
  [("fsType", .optional, .text), ("pdID", .required, .text)]

/-- The shape of `PortworxVolumeSource`. -/
def portworxVolumeSource : Schema := .record "PortworxVolumeSource" .lenient <| .ofList
  [("fsType", .optional, .text), ("readOnly", .optional, .flag), ("volumeID", .required, .text)]

/-- The shape of `ClusterTrustBundleProjection`. -/
def clusterTrustBundleProjection : Schema := .record "ClusterTrustBundleProjection" .lenient <| .ofList
  [("labelSelector", .optional, labelSelector), ("name", .optional, .text),
   ("optional", .optional, .flag), ("path", .required, .text), ("signerName", .optional, .text)]

/-- The shape of `ConfigMapProjection`. -/
def configMapProjection : Schema := .record "ConfigMapProjection" .lenient <| .ofList
  [("items", .optional, .list keyToPath), ("name", .required, .text),
   ("optional", .optional, .flag)]

/-- The shape of `DownwardAPIProjection`. -/
def downwardAPIProjection : Schema := .record "DownwardAPIProjection" .lenient <| .ofList
  [("items", .optional, .list downwardAPIVolumeFile)]

/-- The shape of `SecretProjection`. -/
def secretProjection : Schema := .record "SecretProjection" .lenient <| .ofList
  [("items", .optional, .list keyToPath), ("name", .required, .text),
   ("optional", .optional, .flag)]

/-- The shape of `ServiceAccountTokenProjection`. -/
def serviceAccountTokenProjection : Schema := .record "ServiceAccountTokenProjection" .lenient <| .ofList
  [("audience", .optional, .text), ("expirationSeconds", .optional, .int64),
   ("path", .required, .text)]

/-- The shape of `VolumeProjection`. -/
def volumeProjection : Schema := .record "VolumeProjection" .lenient <| .ofList
  [("clusterTrustBundle", .optional, clusterTrustBundleProjection),
   ("configMap", .optional, configMapProjection), ("downwardAPI", .optional, downwardAPIProjection),
   ("secret", .optional, secretProjection),
   ("serviceAccountToken", .optional, serviceAccountTokenProjection)]

/-- The shape of `ProjectedVolumeSource`. -/
def projectedVolumeSource : Schema := .record "ProjectedVolumeSource" .lenient <| .ofList
  [("defaultMode", .optional, .int32), ("sources", .optional, .list volumeProjection)]

/-- The shape of `QuobyteVolumeSource`. -/
def quobyteVolumeSource : Schema := .record "QuobyteVolumeSource" .lenient <| .ofList
  [("group", .optional, .text), ("readOnly", .optional, .flag), ("registry", .required, .text),
   ("tenant", .optional, .text), ("user", .optional, .text), ("volume", .required, .text)]

/-- The shape of `RBDVolumeSource`. -/
def rbdVolumeSource : Schema := .record "RBDVolumeSource" .lenient <| .ofList
  [("fsType", .optional, .text), ("image", .required, .text), ("keyring", .optional, .text),
   ("monitors", .required, .list .text), ("pool", .optional, .text), ("readOnly", .optional, .flag),
   ("secretRef", .optional, localObjectReference), ("user", .optional, .text)]

/-- The shape of `ScaleIOVolumeSource`. -/
def scaleIOVolumeSource : Schema := .record "ScaleIOVolumeSource" .lenient <| .ofList
  [("fsType", .optional, .text), ("gateway", .required, .text),
   ("protectionDomain", .optional, .text), ("readOnly", .optional, .flag),
   ("secretRef", .required, localObjectReference), ("sslEnabled", .optional, .flag),
   ("storageMode", .optional, .text), ("storagePool", .optional, .text),
   ("system", .required, .text), ("volumeName", .optional, .text)]

/-- The shape of `SecretVolumeSource`. -/
def secretVolumeSource : Schema := .record "SecretVolumeSource" .lenient <| .ofList
  [("defaultMode", .optional, .int32), ("items", .optional, .list keyToPath),
   ("optional", .optional, .flag), ("secretName", .optional, .text)]

/-- The shape of `StorageOSVolumeSource`. -/
def storageOSVolumeSource : Schema := .record "StorageOSVolumeSource" .lenient <| .ofList
  [("fsType", .optional, .text), ("readOnly", .optional, .flag),
   ("secretRef", .optional, localObjectReference), ("volumeName", .optional, .text),
   ("volumeNamespace", .optional, .text)]

/-- The shape of `VsphereVirtualDiskVolumeSource`. -/
def vsphereVirtualDiskVolumeSource : Schema := .record "VsphereVirtualDiskVolumeSource" .lenient <| .ofList
  [("fsType", .optional, .text), ("storagePolicyID", .optional, .text),
   ("storagePolicyName", .optional, .text), ("volumePath", .required, .text)]

/-- The shape of `Volume`. -/
def volume : Schema := .record "Volume" .lenient <| .ofList
  [("awsElasticBlockStore", .optional, awsElasticBlockStoreVolumeSource),
   ("azureDisk", .optional, azureDiskVolumeSource), ("azureFile", .optional, azureFileVolumeSource),
   ("cephfs", .optional, cephFSVolumeSource), ("cinder", .optional, cinderVolumeSource),
   ("configMap", .optional, configMapVolumeSource), ("csi", .optional, csiVolumeSource),
   ("downwardAPI", .optional, downwardAPIVolumeSource),
   ("emptyDir", .optional, emptyDirVolumeSource), ("ephemeral", .optional, ephemeralVolumeSource),
   ("fc", .optional, fcVolumeSource), ("flexVolume", .optional, flexVolumeSource),
   ("flocker", .optional, flockerVolumeSource),
   ("gcePersistentDisk", .optional, gcePersistentDiskVolumeSource),
   ("gitRepo", .optional, gitRepoVolumeSource), ("glusterfs", .optional, glusterfsVolumeSource),
   ("hostPath", .optional, hostPathVolumeSource), ("image", .optional, imageVolumeSource),
   ("iscsi", .optional, iscsiVolumeSource), ("name", .required, .text),
   ("nfs", .optional, nfsVolumeSource),
   ("persistentVolumeClaim", .optional, persistentVolumeClaimVolumeSource),
   ("photonPersistentDisk", .optional, photonPersistentDiskVolumeSource),
   ("portworxVolume", .optional, portworxVolumeSource),
   ("projected", .optional, projectedVolumeSource), ("quobyte", .optional, quobyteVolumeSource),
   ("rbd", .optional, rbdVolumeSource), ("scaleIO", .optional, scaleIOVolumeSource),
   ("secret", .optional, secretVolumeSource), ("storageos", .optional, storageOSVolumeSource),
   ("vsphereVolume", .optional, vsphereVirtualDiskVolumeSource)]

end SidecarInjection.Schema
