import ImageryJobs.Proofs.Cluster.Names
import ImageryJobs.Proofs.Traffic
import ImageryJobs.Text.Search

/-!
Requests for the logs of pods among those that were sent, and what they gave. All other requests but
the creation of a batch job are silent: they have no part in what is known of logs.
-/

namespace ImageryJobs

namespace Request

variable {ns : String} {r : Request}

/-- Asks what a pod has written. -/
def ReadsLog (ns : String) (r : Request) : Prop := ∃ pod, r = .get (podLogPath ns pod)

/-- Creates a batch job. -/
def PostsBatch (ns : String) (r : Request) : Prop :=
  ∃ document, r = .post (ResourceKind.batchJob.collectionPath ns) document

/-- The pod whose log has a path. -/
def logPod? (ns path : String) : Option String :=
  ((Text.after? (podsPath ns ++ "/") path.toList).bind (Text.before? "/log")).map String.ofList

theorem logPod?_podLogPath (ns pod : String) : logPod? ns (podLogPath ns pod) = some pod := by
  have path : (podLogPath ns pod).toList =
      (podsPath ns ++ "/").toList ++ (pod.toList ++ "/log".toList) := by
    simp [podLogPath, podPath, String.toList_append]
  rw [logPod?, path]
  simp [Text.after?, Text.before?]

instance (ns : String) (r : Request) : Decidable (r.ReadsLog ns) :=
  decidable_of_iff (∃ pod ∈ logPod? ns r.path, r = .get (podLogPath ns pod)) <| by
    constructor
    · rintro ⟨pod, -, h⟩
      exact ⟨pod, h⟩
    · rintro ⟨pod, rfl⟩
      exact ⟨pod, logPod?_podLogPath ns pod, rfl⟩

instance (ns : String) (r : Request) : Decidable (r.PostsBatch ns) :=
  decidable_of_iff (∃ document ∈ r.body,
    r = .post (ResourceKind.batchJob.collectionPath ns) document) <| by
    constructor
    · rintro ⟨document, -, h⟩
      exact ⟨document, h⟩
    · rintro ⟨document, rfl⟩
      exact ⟨document, rfl, rfl⟩

theorem PostsBatch.not_readsLog (h : r.PostsBatch ns) : ¬ r.ReadsLog ns := by
  obtain ⟨document, rfl⟩ := h
  rintro ⟨pod, heq⟩
  cases heq

/-- Has no part in what is known of logs. -/
def Silent (ns : String) (r : Request) : Prop := ¬ r.ReadsLog ns ∧ ¬ r.PostsBatch ns

theorem silent_get {path : String} (h : ∀ pod, path ≠ podPath ns pod) : (get path).Silent ns := by
  refine ⟨?_, ?_⟩
  · rintro ⟨pod, heq⟩
    exact h _ ((congrArg Request.path heq).trans (podLogPath_eq ns pod))
  · rintro ⟨document, heq⟩
    cases heq

theorem silent_look (kind : ResourceKind) (name : String) :
    (get (kind.instancePath ns name)).Silent ns :=
  silent_get fun _ => ResourceKind.instancePath_ne_podPath

theorem silent_list (kind : ResourceKind) (selector : String) :
    (get (listPath (kind.collectionPath ns) selector)).Silent ns :=
  silent_get fun _ => ResourceKind.list_ne_podPath

theorem silent_listPods (selector : String) : (get (listPath (podsPath ns) selector)).Silent ns :=
  silent_get fun _ => listPods_ne_podPath

theorem silent_delete (path : String) : (delete path).Silent ns := by
  constructor <;>
    · rintro ⟨_, heq⟩
      cases heq

theorem silent_measure (path : String) : (⟨.metrics, .get, path, none⟩ : Request).Silent ns := by
  constructor <;>
    · rintro ⟨_, heq⟩
      cases heq

theorem silent_post {kind : ResourceKind} (h : kind ≠ .batchJob) (document : Json) :
    (post (kind.collectionPath ns) document).Silent ns := by
  constructor
  · rintro ⟨_, heq⟩
    cases heq
  · rintro ⟨_, heq⟩
    exact h (ResourceKind.collectionPath_inj (congrArg Request.path heq))

end Request

/-! ### Texts -/

/-- The text of a log, if the answer has one. -/
def logText : Reply → Option String
  | .ok document => some document.toText
  | .error _ => none

/-- The texts that requests for logs gave. -/
def logTexts (ns : String) (l : List Exchange) : List String :=
  l.filterMap fun x => if x.request.ReadsLog ns then logText x.reply else none

/-- What the last request for logs gave. A batch job that is created has no logs yet. -/
def lastText (ns : String) (l : List Exchange) : Option String :=
  l.foldl (fun last x => if x.request.ReadsLog ns then logText x.reply
    else if x.request.PostsBatch ns then none else last) none

section Texts

variable {ns : String} {l : List Exchange} {x : Exchange}

theorem Request.Silent.texts (h : x.request.Silent ns) :
    logTexts ns (l ++ [x]) = logTexts ns l ∧ lastText ns (l ++ [x]) = lastText ns l := by
  simp [logTexts, lastText, h.1, h.2]

theorem Request.ReadsLog.texts (h : x.request.ReadsLog ns) :
    logTexts ns (l ++ [x]) = logTexts ns l ++ (logText x.reply).toList ∧
      lastText ns (l ++ [x]) = logText x.reply := by
  constructor
  · cases ht : logText x.reply <;> simp [logTexts, h, ht]
  · simp [lastText, h]

theorem Request.PostsBatch.texts (h : x.request.PostsBatch ns) :
    logTexts ns (l ++ [x]) = logTexts ns l ∧ lastText ns (l ++ [x]) = none := by
  simp [logTexts, lastText, h, h.not_readsLog]

theorem mem_logTexts {document : Document} (hx : x ∈ l) (reads : x.request.ReadsLog ns)
    (reply : x.reply = .ok document) : document.toText ∈ logTexts ns l :=
  List.mem_filterMap.2 ⟨x, hx, by simp [reads, reply, logText]⟩

end Texts

/-- A text stands in stored logs, up to blanks at its end. -/
def KeptIn (logs : Option String) (text : String) : Prop :=
  ∃ stored, logs = some stored ∧ (Text.trimEnd text).toList <:+: stored.toList

end ImageryJobs
