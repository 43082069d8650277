import ImageryJobs.Proofs.Simulation.Replacement

/-!
What the paths of clients come to on a simulated cluster. A name without a slash or a question mark is
read as it was written, and so is a selector, which is percent-encoded; so a listing gives what bears the
label and nothing else.
-/

namespace ImageryJobs.Simulation

open SimulatedCluster (listing newPod)

/-! ### Labels of documents -/

/-- A document bears a value of a label. -/
def Bears (label value : String) (document : Json) : Prop :=
  document.path? ["metadata", "labels", label] = some (.string value)

instance (label value : String) : DecidablePred (Bears label value) := fun document =>
  inferInstanceAs (Decidable (document.path? ["metadata", "labels", label] = some (.string value)))

/-- A document without a label is selected like one with an empty label, so the two readings of a
selector are the same only for other values. -/
theorem selects_iff_bears {value : String} (h : value ≠ "") (label : String) (document : Json) :
    selects (some (label, value)) document = true ↔ Bears label value document := by
  rw [selects, decide_eq_true_eq, labelOf, Bears]
  generalize document.path? ["metadata", "labels", label] = found
  cases found with
  | none => simp [h.symm]
  | some found => cases found <;> simp [Json.string?, h.symm]

theorem filter_selects {value : String} (h : value ≠ "") (label : String) (documents : List Json) :
    documents.filter (selects (some (label, value))) = documents.filter (Bears label value) := by
  refine List.filter_congr fun document _ => ?_
  rw [Bool.eq_iff_iff, selects_iff_bears h, decide_eq_true_eq]

/-! ### Calls -/

/-- Calls to a cluster where nothing is cancelled: their end, and the cluster. -/
def called {α : Type} (calls : Calling α) (c : SimulatedCluster) :
    Except ClusterError α × SimulatedCluster :=
  (calls.run.run serve).run c

variable {c : SimulatedCluster}

/-- Calls that cannot fail end well. -/
theorem called_of_meets {α : Type} {calls : Calling α} {ok : α → SimulatedCluster → Prop}
    (h : MeetsOr serving calls c ok fun _ _ => False) :
    ∃ value c', called calls c = (.ok value, c') ∧ ok value c' := by
  have ended : Ending ok (fun _ _ => False) (called calls c).1 (called calls c).2 :=
    Script.meets_answering.1 h
  cases hc : called calls c with
  | mk result c' =>
      rw [hc] at ended
      cases result with
      | ok value => exact ⟨value, c', rfl, ended⟩
      | error e => exact ended.elim

/-- A listing gives what the cluster selects, and leaves the cluster as it was. -/
theorem called_list {collection selector : String} (kind : String) {objects : List Json}
    {query : Option (String × String)} (available : c.unavailable = false)
    (told : (c.receive (.get (listPath collection selector))).controlReply
        (.get (listPath collection selector)) =
      (listing kind objects query, c.receive (.get (listPath collection selector)))) :
    called (Calling.list collection selector) c =
      (.ok (objects.filter (selects query)), c.receive (.get (listPath collection selector))) := by
  have meets : MeetsOr serving (Calling.list collection selector) c
      (fun items c' => items = objects.filter (selects query) ∧
        c' = c.receive (.get (listPath collection selector))) fun _ _ => False := by
    refine Calling.meetsOr_list.2 ⟨trivial, fun reply c' moved => ?_⟩
    have moved : c.answer (.get (listPath collection selector)) = (reply, c') := moved
    rw [SimulatedCluster.answer_of_available available rfl, told] at moved
    cases moved
    rw [listed_listing]
    exact ⟨rfl, rfl⟩
  obtain ⟨_, _, ended, rfl, rfl⟩ := called_of_meets meets
  exact ended

section

variable {label value : String} (available : c.unavailable = false) (hns : '?' ∉ c.ns.toList)
  (hl : '=' ∉ label.toList) (hv : value ≠ "")
include available hns hl hv

/-- The objects of a kind that bear a label. -/
theorem called_list_objects (kind : ResourceKind) :
    called (Calling.list (kind.collectionPath c.ns) (selectorOf label value)) c =
      (.ok (((c.objects.get kind).values.map (·.document)).filter (Bears label value)),
        c.receive (.get (listPath (kind.collectionPath c.ns) (selectorOf label value)))) := by
  rw [← filter_selects hv]
  refine called_list "List" available ?_
  simp only [SimulatedCluster.controlReply, Request.get, SimulatedCluster.ns_receive,
    Route.ofPath_listPath hns kind hl]
  rfl

/-- The pods that bear a label. -/
theorem called_list_pods :
    called (Calling.list (podsPath c.ns) (selectorOf label value)) c =
      (.ok (c.pods.values.filter (Bears label value)),
        c.receive (.get (listPath (podsPath c.ns) (selectorOf label value)))) := by
  rw [← filter_selects hv]
  refine called_list "PodList" available ?_
  simp only [SimulatedCluster.controlReply, Request.get, SimulatedCluster.ns_receive,
    Route.ofPath_listPods hns hl]
  rfl

end

/-! ### Paths -/

/-- The paths that clients make are read as what they were made for, whatever the texts of names and
selectors are, and a listing under a selector gives all that bears its label and nothing else. -/
theorem paths_agree (c : SimulatedCluster) (hns : '?' ∉ c.ns.toList) :
    (Route.ofPath c.ns (podsPath c.ns) = .pods none ∧
      ∀ kind : ResourceKind, Route.ofPath c.ns (kind.collectionPath c.ns) = .collection kind none) ∧
    (∀ name : String, '/' ∉ name.toList → '?' ∉ name.toList →
      (∀ kind : ResourceKind, Route.ofPath c.ns (kind.instancePath c.ns name) = .object kind name) ∧
      Route.ofPath c.ns (podPath c.ns name) = .pod name ∧
      Route.ofPath c.ns (podLogPath c.ns name) = .podLog name) ∧
    (∀ label value : String, '=' ∉ label.toList →
      Route.ofPath c.ns (listPath (podsPath c.ns) (selectorOf label value)) =
        .pods (some (label, value)) ∧
      (∀ kind : ResourceKind, Route.ofPath c.ns
          (listPath (kind.collectionPath c.ns) (selectorOf label value)) =
        .collection kind (some (label, value))) ∧
      (c.unavailable = false → value ≠ "" →
        (called (Calling.list (podsPath c.ns) (selectorOf label value)) c).1 =
          .ok (c.pods.values.filter (Bears label value)) ∧
        ∀ kind : ResourceKind,
          (called (Calling.list (kind.collectionPath c.ns) (selectorOf label value)) c).1 =
            .ok (((c.objects.get kind).values.map (·.document)).filter (Bears label value)))) := by
  refine ⟨⟨Route.ofPath_podsPath hns, Route.ofPath_collectionPath hns⟩, fun name slash question => ?_,
    fun label value hl => ?_⟩
  · exact ⟨fun kind => Route.ofPath_instancePath_of_notMem hns kind slash question,
      Route.ofPath_podPath_of_notMem hns slash question, Route.ofPath_podLogPath hns question⟩
  · refine ⟨Route.ofPath_listPods hns hl, fun kind => Route.ofPath_listPath hns kind hl,
      fun available hv => ⟨?_, fun kind => ?_⟩⟩
    · rw [called_list_pods available hns hl hv]
    · rw [called_list_objects available hns hl hv kind]

/-- A configuration with a label. -/
def tagged (name tier : String) : Json :=
  .mk [("metadata", .mk [("name", .string name), ("labels", .mk [("tier", .string tier)])])]

/-- A cluster with two configurations and a pod. -/
def shelf : SimulatedCluster :=
  (((SimulatedCluster.empty "shop" 2).insertObject .config (tagged "a" "süß=50%")).insertObject .config
    (tagged "b" "süß")).startPod .build "c" "süß"

theorem paths_agree_sample :
    '?' ∉ shelf.ns.toList ∧
    Route.ofPath shelf.ns (ResourceKind.config.instancePath shelf.ns "süß&name") =
      .object .config "süß&name" ∧
    Route.ofPath shelf.ns (podLogPath shelf.ns "log") = .podLog "log" ∧
    (called (Calling.list (ResourceKind.config.collectionPath shelf.ns) (selectorOf "tier" "süß=50%"))
      shelf).1 = .ok [tagged "a" "süß=50%"] ∧
    (called (Calling.list (podsPath shelf.ns) (selectorOf processLabel "süß")) shelf).1 =
      .ok [newPod "c-build" buildPodLabel "c" "süß"] := by
  have hns : '?' ∉ shelf.ns.toList := by decide
  obtain ⟨-, named, listed⟩ := paths_agree shelf hns
  obtain ⟨object, -, -⟩ := named "süß&name" (by decide) (by decide)
  obtain ⟨-, -, log⟩ := named "log" (by decide) (by decide)
  obtain ⟨-, -, configs⟩ := listed "tier" "süß=50%" (by decide)
  obtain ⟨-, -, pods⟩ := listed processLabel "süß" (by decide)
  refine ⟨hns, object .config, log, ((configs rfl (by decide)).2 .config).trans ?_,
    (pods rfl (by decide)).1.trans ?_⟩
  · decide +kernel
  · decide +kernel

end ImageryJobs.Simulation
