import ImageryJobs.Proofs.Cluster.Names
import ImageryJobs.Simulation.Cluster

/-!
Documents of a simulated cluster, member by member: what a member that was set changes, what the
documents of templates say, and what the statuses that the cluster gives tell the one who looks.
-/

namespace ImageryJobs

namespace Json

theorem path?_pair (j : Json) (k l : String) : j.path? [k, l] = (j.get? k).bind (·.get? l) := rfl

theorem path?_triple (j : Json) (k l m : String) :
    j.path? [k, l, m] = ((j.get? k).bind (·.get? l)).bind (·.get? m) := rfl

@[simp] theorem isObject_mk (members : List (String × Json)) : (mk members).isObject = true := rfl

end Json

namespace Simulation

variable {key k : String} {value j : Json}

theorem get?_setMember_of_ne (h : k ≠ key) : (setMember key value j).get? k = j.get? k := by
  cases j with
  | object members =>
      have before : (Json.object members).get? k = (Dict.ofList members).get? k := rfl
      rw [before]
      simp [setMember, Json.get?, h]
  | null =>
      have before : Json.null.get? k = none := rfl
      rw [before, setMember, Json.get?_mk]
      simp [Dict.ofList, h]
  | bool _ | number _ | string _ | array _ => rfl

theorem get?_setMember (h : j.isObject = true) : (setMember key value j).get? key = some value := by
  cases j with
  | object members => simp [setMember, Json.get?]
  | null | bool _ | number _ | string _ | array _ => cases h

theorem isObject_setMember (h : j.isObject = true) : (setMember key value j).isObject = true := by
  cases j with
  | object members => rfl
  | null | bool _ | number _ | string _ | array _ => cases h

theorem get?_changeMember {f : Json → Json} (h : j.isObject = true) :
    (changeMember key f j).get? key = some (f ((j.get? key).getD .null)) := get?_setMember h

/-- A member can be set in the status of a document: it has members, or there is none yet. -/
def HasStatus (j : Json) : Prop :=
  j.isObject = true ∧ ∀ status, j.get? "status" = some status → status.isObject = true

/-- A member of the status after one was set. -/
theorem path?_setStatus (h : HasStatus j) :
    (changeMember "status" (setMember key value) j).path? ["status", k] =
      if k = key then some value else j.path? ["status", k] := by
  rw [Json.path?_pair, Json.path?_pair, get?_changeMember h.1, Option.bind_some]
  by_cases hk : k = key
  · rw [if_pos hk, hk]
    cases hs : j.get? "status" with
    | none => simp [setMember, Json.get?_mk, Dict.ofList]
    | some status => exact get?_setMember (h.2 status hs)
  · rw [if_neg hk, get?_setMember_of_ne hk]
    cases j.get? "status" with
    | none => rfl
    | some status => rfl

theorem HasStatus.setStatus (h : HasStatus j) :
    HasStatus (changeMember "status" (setMember key value) j) := by
  refine ⟨isObject_setMember h.1, fun status hs => ?_⟩
  rw [get?_changeMember h.1] at hs
  cases hs
  cases hj : j.get? "status" with
  | none => rfl
  | some status => exact isObject_setMember (h.2 status hj)

/-! ### What the status does not change -/

theorem labelOf_setStatus (label : String) : labelOf label (setMember "status" value j) = labelOf label j := by
  rw [labelOf, labelOf, Json.path?_triple, Json.path?_triple, get?_setMember_of_ne (by decide)]

theorem targetOf_setStatus : SimulatedCluster.targetOf (setMember "status" value j) =
    SimulatedCluster.targetOf j := by
  have spec : (setMember "status" value j).path? ["spec", "output", "to", "name"] =
      j.path? ["spec", "output", "to", "name"] := by
    simp [Json.path?, get?_setMember_of_ne]
  rw [SimulatedCluster.targetOf, SimulatedCluster.targetOf, Template.textAt, Template.textAt, spec]

/-- The status that tells a phase. -/
def phaseStatus (phase : String) : Json := .mk [("phase", .string phase)]

@[simp] theorem phaseOf_setStatus {phase : String} (h : j.isObject = true) :
    Template.phaseOf (setMember "status" (phaseStatus phase) j) = some phase := by
  rw [Template.phaseOf, Template.textAt, Json.path?_pair, get?_setMember h, Option.bind_some,
    phaseStatus, Json.get?_mk]
  simp [Dict.ofList, Json.string?]

/-! ### Documents of templates -/

theorem hasStatus_stream (t : ImageStreamTemplate) : HasStatus t.template.document := by
  refine ⟨rfl, fun status hs => ?_⟩
  have none : t.template.document.get? "status" = none := by
    simp [ImageStreamTemplate.template, ImageStreamTemplate.manifest, Manifest.ImageStream.toJson,
      Json.get?_mk, Dict.ofList]
  cases none.symm.trans hs

theorem path?_stream (t : ImageStreamTemplate) (key : String) :
    t.template.document.path? ["status", key] = none := by
  have none : t.template.document.get? "status" = none := by
    simp [ImageStreamTemplate.template, ImageStreamTemplate.manifest, Manifest.ImageStream.toJson,
      Json.get?_mk, Dict.ofList]
  rw [Json.path?_pair, none]
  rfl

/-- A build pushes to the stream of its template. -/
theorem targetOf_build (t : BuildTemplate) (h : ':' ∉ t.imageStream.toList) :
    SimulatedCluster.targetOf t.template.document = some t.imageStream := by
  have target : Template.textAt t.template.document ["spec", "output", "to", "name"] =
      some (t.imageStream ++ ":" ++ latestTag) := by
    simp [Template.textAt, Json.path?, BuildTemplate.template, BuildTemplate.manifest,
      Manifest.Build.toJson, Manifest.BuildSpec.toJson, Manifest.BuildOutput.toJson,
      Manifest.ObjectReference.toJson, Json.get?_mk, Dict.ofList, Json.string?]
  have all : ∀ c ∈ t.imageStream.toList, decide (c ≠ ':') = true :=
    fun c hc => decide_eq_true fun heq => h (heq ▸ hc)
  rw [SimulatedCluster.targetOf, target, Option.map_some, String.append_assoc, String.toList_append,
    List.takeWhile_append_of_pos all]
  have rest : (":" ++ latestTag).toList.takeWhile (fun c => decide (c ≠ ':')) = [] := by decide +kernel
  rw [rest, List.append_nil, String.ofList_toList]

/-! ### Pods -/

open SimulatedCluster (newPod podOwner?)

variable {name ownerLabel owner processName : String}

theorem hasStatus_newPod : HasStatus (newPod name ownerLabel owner processName) := by
  refine ⟨rfl, fun status hs => ?_⟩
  simp [newPod, Json.get?_mk, Dict.ofList] at hs
  rw [← hs]
  rfl

theorem phaseOf_newPod : Template.phaseOf (newPod name ownerLabel owner processName) = some "Pending" := by
  simp [Template.phaseOf, Template.textAt, newPod, Json.path?, Json.get?_mk, Dict.ofList, Json.string?]

theorem labelOf_newPod (h : ownerLabel ≠ processLabel) :
    labelOf ownerLabel (newPod name ownerLabel owner processName) = owner := by
  simp [labelOf, newPod, Json.path?, Json.get?_mk, Dict.ofList, Json.string?, h]

theorem labelOf_newPod_of_ne {label : String} (h : label ≠ ownerLabel) (hp : label ≠ processLabel) :
    labelOf label (newPod name ownerLabel owner processName) = "" := by
  simp [labelOf, newPod, Json.path?, Json.get?_mk, Dict.ofList, h, hp]

/-- A pod whose phase is set. -/
def inPhase (phase : String) (reason : Option String) (pod : Json) : Json :=
  changeMember "status" (fun status =>
    let status := setMember "phase" (.string phase) status
    match reason with
    | some reason => setMember "reason" (.string reason) status
    | none => status) pod

variable {phase : String} {reason : Option String}

theorem labelOf_inPhase (label : String) : labelOf label (inPhase phase reason j) = labelOf label j :=
  labelOf_setStatus label

variable (phase reason) in
theorem get?_status_inPhase (h : HasStatus j) : ∃ status, status.isObject = true ∧
    (inPhase phase reason j).get? "status" = some status ∧ status.get? "phase" = some (.string phase) := by
  have first : (setMember "phase" (.string phase) ((j.get? "status").getD .null)).isObject = true ∧
      (setMember "phase" (.string phase) ((j.get? "status").getD .null)).get? "phase" =
        some (.string phase) := by
    cases hs : j.get? "status" with
    | none => exact ⟨rfl, by simp [setMember, Json.get?_mk, Dict.ofList]⟩
    | some status =>
        exact ⟨isObject_setMember (h.2 status hs), get?_setMember (h.2 status hs)⟩
  rw [inPhase, get?_changeMember h.1]
  cases reason with
  | none => exact ⟨_, first.1, rfl, first.2⟩
  | some reason =>
      refine ⟨_, isObject_setMember first.1, rfl, ?_⟩
      rw [get?_setMember_of_ne (by decide), first.2]

theorem hasStatus_inPhase (h : HasStatus j) : HasStatus (inPhase phase reason j) := by
  obtain ⟨status, ho, hs, -⟩ := get?_status_inPhase phase reason h
  refine ⟨isObject_setMember h.1, fun status' hs' => ?_⟩
  cases hs.symm.trans hs'
  exact ho

theorem phaseOf_inPhase (h : HasStatus j) : Template.phaseOf (inPhase phase reason j) = some phase := by
  obtain ⟨status, -, hs, hp⟩ := get?_status_inPhase phase reason h
  rw [Template.phaseOf, Template.textAt, Json.path?_pair, hs, Option.bind_some, hp]
  rfl

end Simulation
end ImageryJobs
