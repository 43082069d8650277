import ImageryJobs.Cluster.Template.Batch
import ImageryJobs.Cluster.Template.Config
import ImageryJobs.Cluster.Template.Image
import ImageryJobs.Cluster.Template.Volume
import ImageryJobs.Proofs.Members

/-!
Paths and names of cluster objects. Within one namespace a path tells the kind and the name of its
object, and is never that of a pod; the documents of templates bear the names of the templates.
-/

namespace ImageryJobs

namespace ResourceKind

theorem collectionPath_inj {kind kind' : ResourceKind} {ns : String}
    (h : kind.collectionPath ns = kind'.collectionPath ns) : kind = kind' := by
  rw [← String.toList_inj] at h
  cases kind <;> cases kind' <;>
    simp [collectionPath, group, plural, String.toList_append] at h ⊢

theorem instancePath_inj {kind kind' : ResourceKind} {ns name name' : String}
    (h : kind.instancePath ns name = kind'.instancePath ns name') :
    kind = kind' ∧ name = name' := by
  rw [← String.toList_inj] at h
  cases kind <;> cases kind' <;>
    simp [instancePath, collectionPath, group, plural, String.toList_append] at h ⊢ <;>
    exact String.toList_inj.1 h

theorem instancePath_ne_podPath {kind : ResourceKind} {ns name pod : String} :
    kind.instancePath ns name ≠ podPath ns pod := by
  intro h
  rw [← String.toList_inj] at h
  unfold podPath podsPath at h
  cases kind <;> simp [instancePath, collectionPath, group, plural, String.toList_append] at h

theorem list_ne_podPath {kind : ResourceKind} {ns selector pod : String} :
    listPath (kind.collectionPath ns) selector ≠ podPath ns pod := by
  intro h
  rw [← String.toList_inj] at h
  unfold listPath podPath podsPath at h
  cases kind <;> simp [collectionPath, group, plural, String.toList_append] at h

theorem listPods_ne_instancePath {kind : ResourceKind} {ns selector name : String} :
    listPath (podsPath ns) selector ≠ kind.instancePath ns name := by
  intro h
  rw [← String.toList_inj] at h
  unfold listPath podsPath at h
  cases kind <;> simp [instancePath, collectionPath, group, plural, String.toList_append] at h

end ResourceKind

/-- The path of what a pod has written is shaped like that of a pod. -/
theorem podLogPath_eq (ns pod : String) : podLogPath ns pod = podPath ns (pod ++ "/log") := by
  rw [podLogPath, podPath, podPath, String.append_assoc]

theorem listPods_ne_podPath {ns selector pod : String} :
    listPath (podsPath ns) selector ≠ podPath ns pod := by
  intro h
  rw [← String.toList_inj] at h
  unfold listPath podPath at h
  simp [String.toList_append] at h

/-! ### The names that documents bear -/

namespace Template

theorem nameOf_eq {object : Json} {name : String} (metadata : Json)
    (hm : object.get? "metadata" = some metadata)
    (hn : metadata.get? "name" = some (.string name)) :
    nameOf object = some name := by
  simp [nameOf, textAt, Json.path?, hm, hn, Json.string?]

end Template

namespace Manifest

theorem ObjectMeta.get?_name (m : ObjectMeta) :
    m.toJson.get? "name" = some (.string m.name) := by
  rw [ObjectMeta.toJson, Json.get?_mk, memberUnlessEmpty]
  split <;> simp [Dict.ofList]

end Manifest

/-- The document of a template bears its name. -/
def Template.IsNamed (t : Template) : Prop := nameOf t.document = some t.name

theorem VolumeTemplate.isNamed (t : VolumeTemplate) : t.template.IsNamed := by
  refine Template.nameOf_eq t.metadata.toJson ?_ (Manifest.ObjectMeta.get?_name _)
  simp [template, manifest, Manifest.VolumeClaim.toJson, Json.get?_mk, Dict.ofList]

theorem ConfigTemplate.isNamed (t : ConfigTemplate) : t.template.IsNamed := by
  refine Template.nameOf_eq t.metadata.toJson ?_ (Manifest.ObjectMeta.get?_name _)
  simp [template, manifest, Manifest.ConfigMap.toJson, Json.get?_mk, Dict.ofList]

theorem ImageStreamTemplate.isNamed (t : ImageStreamTemplate) : t.template.IsNamed := by
  refine Template.nameOf_eq t.metadata.toJson ?_ (Manifest.ObjectMeta.get?_name _)
  simp [template, manifest, Manifest.ImageStream.toJson, Json.get?_mk, Dict.ofList]

theorem BuildTemplate.isNamed (t : BuildTemplate) : t.template.IsNamed := by
  refine Template.nameOf_eq t.metadata.toJson ?_ (Manifest.ObjectMeta.get?_name _)
  simp [template, manifest, Manifest.Build.toJson, Json.get?_mk, Dict.ofList]

theorem BatchTemplate.isNamed (t : BatchTemplate) : t.template.IsNamed := by
  refine Template.nameOf_eq t.metadata.toJson ?_ (Manifest.ObjectMeta.get?_name _)
  simp [template, manifest, Manifest.BatchJob.toJson, Json.get?_mk, Dict.ofList]

end ImageryJobs
