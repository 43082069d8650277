import ImageryJobs.Proofs.Simulation.Courses

/-!
The owners of pods. A pod begins with an object and takes its name and one label from it, and a
deletion takes the pods of an object along. So wherever a pod is, there is the object that it is of.
-/

namespace ImageryJobs.Simulation

open SimulatedCluster (podOwner? newPod)

/-! ### Marks of pods -/

/-- What is added to the names of builds and of batch jobs tells their pods apart. -/
theorem ending_apart {kind kind' : ResourceKind} {label label' ending ending' owner owner' : String}
    (h : podOwner? kind = some (label, ending)) (h' : podOwner? kind' = some (label', ending'))
    (same : owner ++ ending = owner' ++ ending') : kind = kind' := by
  have last : (owner ++ ending).toList.reverse = (owner' ++ ending').toList.reverse := by rw [same]
  cases kind <;> cases kind' <;> cases h <;> cases h' <;>
    first | rfl | simp [String.toList_append] at last

/-- A pod with this key is that of an object: it has the name that it gets from there, and of the
labels for owners just the one of its kind. -/
structure PodOf (kind : ResourceKind) (owner key : String) (pod : Json) : Prop where
  key : ∃ label ending, podOwner? kind = some (label, ending) ∧ key = owner ++ ending
  marks : ∀ kind' label ending, podOwner? kind' = some (label, ending) →
    labelOf label pod = if kind' = kind then owner else ""

theorem podOf_newPod {kind : ResourceKind} {label ending : String} (owner processName : String)
    (h : podOwner? kind = some (label, ending)) :
    PodOf kind owner (owner ++ ending) (newPod (owner ++ ending) label owner processName) := by
  refine ⟨⟨label, ending, h, rfl⟩, fun kind' label' ending' h' => ?_⟩
  have apart : label ≠ processLabel ∧ label' ≠ processLabel := by
    cases kind <;> cases kind' <;> cases h <;> cases h' <;> decide
  by_cases hk : kind' = kind
  · subst hk
    cases h.symm.trans h'
    rw [if_pos rfl, labelOf_newPod apart.1]
  · have other : label' ≠ label := by
      cases kind <;> cases kind' <;> cases h <;> cases h' <;> first | exact absurd rfl hk | decide
    rw [if_neg hk, labelOf_newPod_of_ne other apart.2]

theorem PodOf.inPhase {kind : ResourceKind} {owner key phase : String} {reason : Option String}
    {pod : Json} (h : PodOf kind owner key pod) : PodOf kind owner key (inPhase phase reason pod) := by
  refine ⟨h.key, fun kind' label ending h' => ?_⟩
  rw [labelOf_inPhase]
  exact h.marks kind' label ending h'

/-! ### Objects that stay -/

namespace SimulatedCluster

variable {c : SimulatedCluster} {kind : ResourceKind} {name : String}

/-- An object that takes the place of another takes nothing away. -/
theorem isSome_putObject (there : ((c.objects.get kind).get? name).isSome = true)
    (object : StoredObject) (kind' : ResourceKind) (name' : String) :
    (((c.putObject kind name object).objects.get kind').get? name').isSome =
      ((c.objects.get kind').get? name').isSome := by
  rw [get?_putObject]
  split
  · rename_i h
    rw [h.1, h.2, there]
    rfl
  · rfl

theorem isSome_pushImage (stream build : String) (kind' : ResourceKind) (name' : String) :
    (((c.pushImage stream build).objects.get kind').get? name').isSome =
      ((c.objects.get kind').get? name').isSome := by
  unfold pushImage
  split
  · rfl
  · rename_i object there
    exact isSome_putObject (by rw [there]; rfl) _ kind' name'

/-- A look neither brings nor takes objects. -/
theorem isSome_observe (c : SimulatedCluster) (kind : ResourceKind) (name : String)
    (kind' : ResourceKind) (name' : String) :
    (((c.observe kind name).2.objects.get kind').get? name').isSome =
      ((c.objects.get kind').get? name').isSome := by
  unfold observe
  split
  · rfl
  · rename_i object there
    have there : ((c.objects.get kind).get? name).isSome = true := by rw [there]; rfl
    cases kind with
    | volume | config | batchJob => exact isSome_putObject there _ kind' name'
    | imageStream =>
        unfold observeStream
        dsimp only
        split <;> exact isSome_putObject there _ kind' name'
    | build =>
        unfold observeBuild
        dsimp only
        split
        · rw [isSome_pushImage]
          exact isSome_putObject there _ kind' name'
        · exact isSome_putObject there _ kind' name'

end SimulatedCluster

/-! ### Every pod has an owner -/

/-- Every pod is that of an object that is there. -/
def Owned (c : SimulatedCluster) : Prop :=
  ∀ key pod, c.pods.get? key = some pod → ∃ kind owner, PodOf kind owner key pod ∧
    ((c.objects.get kind).get? owner).isSome = true

/-- Fewer pods, and no fewer objects, leave every pod its owner. -/
theorem Owned.of_fewer {c c' : SimulatedCluster} (h : Owned c)
    (pods : ∀ key pod, c'.pods.get? key = some pod → c.pods.get? key = some pod)
    (objects : ∀ kind name, ((c.objects.get kind).get? name).isSome = true →
      ((c'.objects.get kind).get? name).isSome = true) : Owned c' := by
  intro key pod hp
  obtain ⟨kind, owner, own, there⟩ := h key pod (pods key pod hp)
  exact ⟨kind, owner, own, objects kind owner there⟩

theorem Owned.of_same {c c' : SimulatedCluster} (h : Owned c) (same : SameContents c c') : Owned c' := by
  refine h.of_fewer (fun key pod hp => ?_) fun kind name there => ?_
  · rwa [same.pods] at hp
  · rwa [same.objects]

/-- An object that is put somewhere takes no owner away. -/
theorem isSome_insert {c : SimulatedCluster} {kind : ResourceKind} {name : String}
    {object : StoredObject} (kind' : ResourceKind) (name' : String)
    (there : ((c.objects.get kind').get? name').isSome = true) :
    (((c.objects.set kind ((c.objects.get kind).insert name object)).get kind').get? name').isSome =
      true := by
  have put : ((c.putObject kind name object).objects.get kind').get? name' =
      if kind' = kind ∧ name' = name then some object else (c.objects.get kind').get? name' :=
    SimulatedCluster.get?_putObject
  rw [SimulatedCluster.putObject] at put
  rw [put]
  split
  · rfl
  · exact there

theorem Answered.owned {c c' : SimulatedCluster} {r : Request} {reply : Reply}
    (h : Answered c r reply c') (hc : Owned c) : Owned c' := by
  cases h with
  | refused same | told same | listed _ _ _ same => exact hc.of_same same
  | created kind _ _ name processName _ _ _ _ _ _ objects pods =>
      have kept (kind' : ResourceKind) (name' : String)
          (there : ((c.objects.get kind').get? name').isSome = true) :
          ((c'.objects.get kind').get? name').isSome = true := by
        rw [objects]
        exact isSome_insert kind' name' there
      intro key pod hp
      rw [pods, podsWith] at hp
      cases ho : podOwner? kind with
      | none =>
          rw [ho] at hp
          obtain ⟨kind', owner, own, there⟩ := hc key pod hp
          exact ⟨kind', owner, own, kept kind' owner there⟩
      | some mark =>
          rw [ho] at hp
          dsimp only at hp
          rw [Dict.get?_insert] at hp
          split at hp
          · rename_i hk
            cases hp
            rw [hk]
            refine ⟨kind, name, podOf_newPod name processName ho, ?_⟩
            rw [objects]
            simp
          · obtain ⟨kind', owner, own, there⟩ := hc key pod hp
            exact ⟨kind', owner, own, kept kind' owner there⟩
  | @observed c₀ kind name _ _ _ _ _ same =>
      have kept := SimulatedCluster.isSome_observe c₀ kind name
      rw [same.objects] at kept
      obtain hpods | ⟨pod', phase, reason, hpods⟩ := c₀.pods_observe kind name
      · exact hc.of_fewer (fun key pod hp => by rwa [hpods, same.pods] at hp)
          fun kind' name' there => (kept kind' name').trans there
      · intro key pod hp
        rw [hpods, same.pods, Dict.get?_modify] at hp
        obtain ⟨old, hold, rfl⟩ := Option.map_eq_some_iff.1 hp
        obtain ⟨kind', owner, own, there⟩ := hc key old hold
        refine ⟨kind', owner, ?_, (kept kind' owner).trans there⟩
        split
        · exact own.inPhase
        · exact own
  | removed kind name _ _ _ objects pods =>
      intro key pod hp
      rw [pods, podsWithout] at hp
      cases ho : podOwner? kind with
      | none =>
          -- No pod is of an object whose kind has none.
          rw [ho] at hp
          obtain ⟨kind', owner, own, there⟩ := hc key pod hp
          refine ⟨kind', owner, own, ?_⟩
          obtain ⟨label, ending, ho', -⟩ := own.key
          have other : kind' ≠ kind := by
            rintro rfl
            cases ho.symm.trans ho'
          rw [objects, ByKind.get_set, if_neg other]
          exact there
      | some mark =>
          rw [ho] at hp
          obtain ⟨hold, unmarked⟩ := Dict.get?_filter_imp hp
          obtain ⟨kind', owner, own, there⟩ := hc key pod hold
          refine ⟨kind', owner, own, ?_⟩
          rw [objects, ByKind.get_set]
          split
          · rename_i hk
            subst hk
            have other : owner ≠ name := by
              rw [own.marks kind' mark.1 mark.2 ho, if_pos rfl] at unmarked
              exact of_decide_eq_true unmarked
            rw [Dict.get?_erase, if_neg other]
            exact there
          · exact there
  | erased name _ _ _ objects pods =>
      refine hc.of_fewer (fun key pod hp => ?_) fun kind name there => by rwa [objects]
      rw [pods, Dict.get?_erase] at hp
      split at hp
      · cases hp
      · exact hp

theorem Reached.owned {ns : String} {c : SimulatedCluster} (h : Reached ns c) : Owned c := by
  induction h with
  | empty looks =>
      intro key pod hp
      cases hp
  | arranged _ same ih => exact ih.of_same same
  | inserted _ kind document ih => exact ih.of_fewer (fun _ _ hp => hp) isSome_insert
  | @answered c _ request ih => exact (Simulation.answered (r := request) (.refl c)).owned ih

/-! ### The pods of one object -/

variable {c : SimulatedCluster} {kind : ResourceKind} {name key label ending : String} {pod : Json}

/-- The pod of an object with a name is the one under the name that its pod gets. -/
theorem Owned.marked_iff (h : Owned c) (hp : c.pods.get? key = some pod)
    (owner : podOwner? kind = some (label, ending)) (hn : name ≠ "") :
    labelOf label pod = name ↔ key = name ++ ending := by
  obtain ⟨kind', name', own, -⟩ := h key pod hp
  obtain ⟨label', ending', owner', rfl⟩ := own.key
  rw [own.marks kind label ending owner]
  by_cases hk : kind = kind'
  · subst hk
    cases owner.symm.trans owner'
    rw [if_pos rfl]
    exact ⟨fun heq => by rw [heq], fun heq => String.append_left_inj ending |>.1 heq⟩
  · rw [if_neg hk]
    exact ⟨fun heq => absurd heq.symm hn, fun heq => absurd (ending_apart owner' owner heq).symm hk⟩

/-- Where there is a pod of an object, there is the object. -/
theorem Owned.there (h : Owned c) (hp : c.pods.get? key = some pod)
    (owner : podOwner? kind = some (label, ending)) (hn : name ≠ "") (marked : labelOf label pod = name) :
    ((c.objects.get kind).get? name).isSome = true := by
  obtain ⟨kind', name', own, there⟩ := h key pod hp
  rw [own.marks kind label ending owner] at marked
  by_cases hk : kind = kind'
  · rw [if_pos hk] at marked
    rwa [hk, ← marked]
  · rw [if_neg hk] at marked
    exact absurd marked.symm hn

end ImageryJobs.Simulation
