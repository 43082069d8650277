import ImageryJobs.Proofs.Engine.Contracts
import ImageryJobs.Proofs.Engine.Reports
import ImageryJobs.Proofs.Engine.Tasks

/-!
What a run may touch. Under any answers a request of a run only reads, or concerns an object of one
of its tasks; a pod is deleted only if it was listed as a pod of one of them. The rules speak of the
log, and each part of a run meets them while its task is the one that was begun last.
-/

namespace ImageryJobs

/-- A listing under a selector gave an object of a name. -/
def Exchange.Lists (collection selector name : String) (x : Exchange) : Prop :=
  x.request = .get (listPath collection selector) ∧
    ∃ items, Calling.listed x.reply = .ok items ∧ name ∈ items.filterMap Template.nameOf

namespace Engine

open EngineScript

/-- The kinds of objects that each task has for itself. -/
def ownKinds : List ResourceKind := [.volume, .config, .build, .batchJob]

/-- The selectors of the pods of a task's build and batch job. -/
def ownSelectors (jobId : String) (task : Task) : List String :=
  [selectorOf buildPodLabel (objectName .build jobId task.id),
    selectorOf batchPodLabel (objectName .batchJob jobId task.id)]

/-- The task whose start was reported last. -/
def underway (log : List (Event engineInterface)) : Option Task :=
  ((reports log).filterMap fun
    | .started task => some task
    | .finished _ _ | .failed _ _ => none).getLast?

/-- What a run may request after a log. -/
inductive Permitted (e : Engine) (jobId : String) (tasks : List Task)
    (log : List (Event engineInterface)) : Request → Prop where
  | read {r : Request} (h : r.Reads) : Permitted e jobId tasks log r
  | create {r : Request} (task : Task) (kind : ResourceKind) (ht : task ∈ tasks)
      (hu : underway log = some task) (hk : kind ∈ ownKinds)
      (h : r.Posts (kind.collectionPath e.ns) (objectName kind jobId task.id)) :
      Permitted e jobId tasks log r
  | share {r : Request} (task : Task) (ht : task ∈ tasks) (hu : underway log = some task)
      (h : r.Posts (ResourceKind.imageStream.collectionPath e.ns) (sanitizeName task.processId)) :
      Permitted e jobId tasks log r
  | remove {r : Request} (task : Task) (kind : ResourceKind) (ht : task ∈ tasks)
      (hu : kind = .volume ∨ underway log = some task) (hk : kind ∈ ownKinds)
      (h : r.Deletes (kind.instancePath e.ns (objectName kind jobId task.id))) :
      Permitted e jobId tasks log r
  | removePod {r : Request} (task : Task) (selector pod : String) (y : Exchange) (ht : task ∈ tasks)
      (hs : selector ∈ ownSelectors jobId task) (hy : y ∈ traffic log)
      (hl : y.Lists (podsPath e.ns) selector pod) (h : r.Deletes (podPath e.ns pod)) :
      Permitted e jobId tasks log r

/-- The rules under which every request is permitted by the log before it. -/
def footprint (e : Engine) (jobId : String) (tasks : List Task) :
    Rules engineInterface (List (Event engineInterface)) :=
  .recording fun log op => match op with
    | .cluster (.send request) => e.Permitted jobId tasks log request
    | .cluster (.pause _) | .report _ => True

variable {e : Engine} {jobId : String} {tasks : List Task} {task : Task}
  {log : List (Event engineInterface)}

@[simp] theorem underway_cluster (event : Event clusterInterface) :
    underway (log ++ [ofClusterEvent event]) = underway log := by
  rw [underway, underway, reports_append]
  simp [reports, ofClusterEvent]

@[simp] theorem underway_started (answer : Except EngineError Unit) :
    underway (log ++ [⟨.report (.started task), answer⟩]) = some task := by
  rw [underway, reports_append, List.filterMap_append]
  simp [reports]

/-! ### The objects of a task -/

/-- A template of an object that a task has for itself. -/
structure Owned (e : Engine) (jobId : String) (task : Task) (t : Template) : Prop where
  kind : t.kind ∈ ownKinds
  name : t.name = objectName t.kind jobId task.id
  named : t.IsNamed
  selector : ∀ selector, t.podSelector = some selector → selector ∈ ownSelectors jobId task

theorem owned_volume : e.Owned jobId task (e.volumeOf jobId task) where
  kind := .head _
  name := rfl
  named := VolumeTemplate.isNamed _
  selector := fun _ h => by cases h

theorem owned_config {mounts : List String} : e.Owned jobId task (configOf jobId task mounts) where
  kind := .tail _ (.head _)
  name := rfl
  named := ConfigTemplate.isNamed _
  selector := fun _ h => by cases h

theorem owned_build {source : BuildSource} : e.Owned jobId task (buildOf jobId task source) where
  kind := .tail _ (.tail _ (.head _))
  name := rfl
  named := BuildTemplate.isNamed _
  selector := fun _ h => by cases h; exact .head _

theorem owned_batch {image : String} {mounts : List Mount} :
    e.Owned jobId task (e.batchOf jobId task image mounts) where
  kind := .tail _ (.tail _ (.tail _ (.head _)))
  name := rfl
  named := BatchTemplate.isNamed _
  selector := fun _ h => by cases h; exact .tail _ (.head _)

/-! ### What keeps to the rules -/

/-- The task is the one that was begun last. -/
def Under (task : Task) (log : List (Event engineInterface)) : Prop := underway log = some task

section Rules

variable {inv : List (Event engineInterface) → Prop}
  (kept : ∀ log event, inv log → inv (log ++ [ofClusterEvent event]))
include kept

theorem preserves_send {request : Request} (h : ∀ log, inv log → e.Permitted jobId tasks log request) :
    (e.footprint jobId tasks).within.Preserves inv (.send request) := by
  intro log hlog
  refine ⟨h log hlog, fun answer log' moved => ?_⟩
  rw [show log' = _ from moved]
  exact kept log _ hlog

theorem preserves_pause (span : Millis) :
    (e.footprint jobId tasks).within.Preserves inv (.pause span) := by
  intro log hlog
  refine ⟨trivial, fun answer log' moved => ?_⟩
  rw [show log' = _ from moved]
  exact kept log _ hlog

theorem preserves_read {request : Request} (h : request.Reads) :
    (e.footprint jobId tasks).within.Preserves inv (.send request) :=
  preserves_send kept fun _ _ => .read h

end Rules

theorem under_cluster (log : List (Event engineInterface)) (event : Event clusterInterface)
    (h : Under task log) : Under task (log ++ [ofClusterEvent event]) := (underway_cluster event).trans h

variable {t : Template}

/-- Removing an object of the task at hand keeps to the rules: what is known while its pods go is
the answer that listed them. -/
theorem clearing_owned (ht : task ∈ tasks) (ho : e.Owned jobId task t) :
    Resource.Clearing (e.footprint jobId tasks).within e.ns t (Under task) (Under task) := by
  let gone (pods : Option Reply) (log : List (Event engineInterface)) : Prop :=
    Under task log ∧ ∀ selector reply, t.podSelector = some selector → pods = some reply →
      ⟨.get (listPath (podsPath e.ns) selector), reply⟩ ∈ traffic log
  have still {log : List (Event engineInterface)} (event : Event engineInterface) {x : Exchange}
      (hx : x ∈ traffic log) : x ∈ traffic (log ++ [event]) := by
    rw [traffic_append]
    exact List.mem_append_left _ hx
  refine ⟨Under task, gone, ⟨fun log hlog => ⟨?_, ?_⟩, fun selector hs log hlog => ⟨?_, ?_⟩, ?_⟩,
    fun _ h => h, fun _ _ h => h.1⟩
  · exact .remove task t.kind ht (.inr hlog) ho.kind (by rw [← ho.name]; rfl)
  · intro reply log' moved
    rw [show log' = _ from moved]
    split
    · exact ⟨under_cluster log _ hlog, fun _ _ _ h => by cases h⟩
    · exact under_cluster log _ hlog
  · exact .read (Request.reads_get _)
  · intro reply log' moved
    rw [show log' = _ from moved]
    refine ⟨under_cluster log _ hlog.1, fun selector' reply' hs' heq => ?_⟩
    obtain rfl := Option.some.inj (hs.symm.trans hs')
    cases heq
    rw [traffic_append]
    exact List.mem_append_right _ (.head _)
  · intro selector reply items name hs hl hname log hlog
    refine ⟨?_, fun answer log' moved => ?_⟩
    · exact .removePod task selector name _ ht (ho.selector selector hs) (hlog.2 selector reply hs rfl)
        ⟨rfl, items, hl, hname⟩ rfl
    · rw [show log' = _ from moved]
      exact ⟨under_cluster log _ hlog.1, fun selector' reply' hs' heq =>
        still _ (hlog.2 selector' reply' hs' heq)⟩

/-- A volume of any task of the job may be removed at any time. -/
theorem clearing_volume (ht : task ∈ tasks) :
    Resource.Clearing (e.footprint jobId tasks).within e.ns (e.volumeOf jobId task)
      (fun _ => True) fun _ => True := by
  have kept : ∀ log event, (fun _ => True) log →
      (fun _ => True) (log ++ [ofClusterEvent event]) := fun _ _ _ => trivial
  refine Resource.Clearing.of_preserves (preserves_send kept fun _ _ => ?_) (fun _ h => by cases h)
    fun _ _ h => by cases h
  exact .remove task .volume ht (.inl rfl) (.head _) rfl

theorem create_owned {r : Resource} {w : Watch} (ht : task ∈ tasks) (ho : e.Owned jobId task t)
    (hr : r.template = t) (hlog : Under task log) :
    MeetsWith (e.footprint jobId tasks).within (Resource.create e.ns true w) r log
      (fun _ r log => r.template = t ∧ ∃ object, r.observed = some object ∧ Under task log)
      (fun _ r log => r.template = t ∧ Under task log) := by
  refine Resource.meetsWith_create_of_preserves (preserves_send under_cluster fun log hu => ?_)
    (preserves_read under_cluster (Request.reads_get _))
    (fun _ _ => preserves_read under_cluster (Request.reads_get _)) (preserves_pause under_cluster)
    (fun _ => clearing_owned ht ho) hr hlog
  exact .create task t.kind ht hu ho.kind ⟨t.document, rfl, by rw [← ho.name]; exact ho.named⟩

/-- The stream of the task's process is created, and an existing one is left as it is. -/
theorem create_stream {r : Resource} {w : Watch} (ht : task ∈ tasks)
    (hr : r.template = streamOf task) (hlog : Under task log) :
    MeetsWith (e.footprint jobId tasks).within (Resource.create e.ns true w) r log
      (fun _ r log => r.template = streamOf task ∧ ∃ object, r.observed = some object ∧ Under task log)
      (fun _ r log => r.template = streamOf task ∧ Under task log) := by
  refine Resource.meetsWith_create_of_preserves (preserves_send under_cluster fun log hu => ?_)
    (preserves_read under_cluster (Request.reads_get _))
    (fun _ _ => preserves_read under_cluster (Request.reads_get _)) (preserves_pause under_cluster)
    (fun h => by cases h) hr hlog
  exact .share task ht hu ⟨_, rfl, ImageStreamTemplate.isNamed _⟩

theorem inspects_reads {ns : String} {request : Request} (h : Resource.Inspects ns t request) :
    request.Reads := by
  obtain ⟨_, _, rfl⟩ | ⟨_, rfl⟩ := h <;> rfl

/-! ### A task -/

theorem existingImage_reads {b : ImageBuild} (hlog : Under task log) :
    MeetsOr (e.footprint jobId tasks).within (b.existingImage e.ns) log
      (fun found log => match found with
        | some _ => Under task log
        | none => Under task log) fun _ => Under task := by
  have look : (e.footprint jobId tasks).within.Preserves (Under task)
      (.send (.get (b.stream.path e.ns))) := preserves_read under_cluster (Request.reads_get _)
  refine (ImageBuild.meetsOr_existingImage_of_preserves look hlog).mono (fun found log h => ?_)
    fun _ _ h => h
  cases found <;> exact h

theorem awaitPeers_reads {b : ImageBuild} {w : Watch} (hlog : Under task log) :
    MeetsOr (e.footprint jobId tasks).within (b.awaitPeers e.ns w) log
      (fun found log => match found with
        | some _ => Under task log
        | none => Under task log) fun _ => Under task := by
  refine (ImageBuild.meetsOr_awaitPeers_of_preserves (preserves_pause under_cluster)
    (preserves_read under_cluster (Request.reads_get _))
    (preserves_read under_cluster (Request.reads_get _)) hlog).mono (fun found log h => ?_)
    fun _ _ h => h
  cases found <;> exact h

theorem buildImage_owned (ht : task ∈ tasks) (hlog : Under task log) :
    MeetsOr (e.footprint jobId tasks) (e.buildImage jobId task) log (fun _ => Under task)
      fun _ => Under task := by
  have read {request : Request} (h : request.Reads) :
      (e.footprint jobId tasks).within.Preserves (Under task) (.send request) :=
    preserves_read under_cluster h
  refine meetsOr_buildImage (fun _ => Under task) (Under task) (Under task) (fun _ => hlog)
    (fun spec _ => ?_) (fun _ _ _ h => read (inspects_reads h))
    fun _ _ => clearing_owned ht owned_build
  refine ImageBuild.meetsWith_run (Under task) (fun _ => Under task) (fun _ => Under task)
    (fun _ => Under task) (fun _ _ => Under task) (Under task) (existingImage_reads hlog)
    (fun log hlog => (create_stream ht rfl hlog).mono (fun _ _ _ h => h) fun _ _ _ h => h.2)
    (fun _ _ log _ _ hlog => awaitPeers_reads hlog) (fun _ _ h _ => h)
    (fun _ _ log hlog _ => (create_owned ht owned_build rfl hlog).mono
      (fun _ _ _ h => ⟨h.1, h.2.choose_spec.2⟩) fun _ _ _ h => h)
    (fun _ _ h => read (inspects_reads h)) (fun _ => ?_) rfl
  obtain ⟨broken, gone, removing, hbroken, hgone⟩ := clearing_owned ht owned_build
  exact ⟨broken, gone, removing, hbroken, fun x ⟨_, hx, _⟩ => hgone _ x hx, hgone⟩

theorem deploy_owned {image : String} {config : Resource} {output : HeldVolume Resource}
    {inputs : List (HeldVolume Resource)} (ht : task ∈ tasks) (hlog : Under task log) :
    MeetsOr (e.footprint jobId tasks) (e.deploy jobId task image config output inputs) log
      (fun _ => Under task) fun _ => Under task := by
  have read {request : Request} (h : request.Reads) :
      (e.footprint jobId tasks).within.Preserves (Under task) (.send request) :=
    preserves_read under_cluster h
  refine meetsOr_deploy (Under task) (Under task) (Under task) (Under task) rfl
    ((create_owned ht owned_batch rfl hlog).mono (fun _ _ _ h => ⟨h.1, h.2.choose_spec.2⟩)
      fun _ _ _ h => h) ?_ ?_ (fun _ => read rfl) ?_ ?_
  · exact fun _ h => read (inspects_reads h)
  · exact fun _ h => read (inspects_reads h)
  · exact clearing_owned ht owned_batch
  · exact clearing_owned ht owned_batch

theorem execute_owned {output : HeldVolume Resource} {config : Resource}
    {inputs : List (HeldVolume Resource)} {mounts : List String} (ht : task ∈ tasks)
    (ho : output.resource.template = e.volumeOf jobId task)
    (hc : config.template = configOf jobId task mounts) (hlog : Under task log) :
    (e.execute jobId task output config inputs).Meets (e.footprint jobId tasks) log fun p log =>
      p.2.resource.template = e.volumeOf jobId task ∧ Under task log := by
  refine Script.Meets.mono (meets_execute (Under task) (Under task) (fun _ => Under task)
    (fun _ => Under task) (Under task)
    ((create_owned ht owned_volume ho hlog).mono (fun _ _ _ h => ⟨h.1.trans ho.symm, h.2.choose_spec.2⟩)
      fun _ _ _ h => ⟨h.1.trans ho.symm, h.2⟩)
    (fun log hlog => (create_owned ht owned_config hc hlog).mono
      (fun _ _ _ h => ⟨h.1.trans hc.symm, h.2.choose_spec.2⟩) fun _ _ _ h => h.2)
    (fun log hlog => buildImage_owned ht hlog)
    (fun _ _ _ log _ _ _ _ hlog => deploy_owned ht hlog)) fun p log ⟨_, hv, h⟩ => ⟨hv.trans ho, ?_⟩
  obtain ⟨result, output'⟩ := p
  cases result with
  | ok outcome => exact h.choose_spec.2.2
  | error cause => exact h

/-! ### A run -/

theorem run_owned : (e.run jobId tasks).Meets (e.footprint jobId tasks) [] fun _ _ => True := by
  refine meets_run_of_preserves (fun _ _ _ => trivial) (fun owner ho => clearing_volume ho)
    (fun task ht output config inputs mounts log hv hc hlog => execute_owned ht hv hc hlog)
    (fun task ht mounts => ?_) (fun _ _ => ⟨trivial, fun _ _ _ => trivial⟩)
    (fun task ht log _ => ⟨trivial, fun answer log' moved => ?_⟩)
    (fun _ _ _ _ => ⟨trivial, fun _ _ _ => trivial⟩) trivial
  · have owned : e.Owned jobId task (configOf jobId task mounts) := owned_config
    obtain ⟨broken, gone, removing, -, -⟩ := clearing_owned ht owned
    exact ⟨broken, gone, removing, fun _ _ => trivial, fun _ _ _ => trivial⟩
  · rw [show log' = _ from moved]
    exact underway_started answer

section Permitted

variable {r : Request}

theorem verb_of_posts {collection name : String} (h : r.Posts collection name) : r.verb = .post :=
  (Request.posts_iff.1 h).2.1

theorem verb_of_deletes {path : String} (h : r.Deletes path) : r.verb = .delete :=
  congrArg Request.verb h

theorem Permitted.deletes (h : e.Permitted jobId tasks log r) (hv : r.verb = .delete) :
    (∃ task ∈ tasks, ∃ kind ∈ ownKinds,
      r.Deletes (kind.instancePath e.ns (objectName kind jobId task.id))) ∨
    ∃ task ∈ tasks, ∃ selector ∈ ownSelectors jobId task, ∃ pod, r.Deletes (podPath e.ns pod) ∧
      ∃ y ∈ traffic log, y.Lists (podsPath e.ns) selector pod := by
  cases h with
  | read h => cases hv.symm.trans h
  | create _ _ _ _ _ h => cases hv.symm.trans (verb_of_posts h)
  | share _ _ _ h => cases hv.symm.trans (verb_of_posts h)
  | remove task kind ht _ hk h => exact .inl ⟨task, ht, kind, hk, h⟩
  | removePod task selector pod y ht hs hy hl h =>
      exact .inr ⟨task, ht, selector, hs, pod, h, y, hy, hl⟩

/-- Of objects with a kind only own ones are deleted. -/
theorem Permitted.of_deletes {kind : ResourceKind} {name : String}
    (h : e.Permitted jobId tasks log r) (hd : r.Deletes (kind.instancePath e.ns name)) :
    kind ∈ ownKinds ∧ ∃ task ∈ tasks, (kind = .volume ∨ underway log = some task) ∧
      name = objectName kind jobId task.id := by
  cases h with
  | read h => cases (verb_of_deletes hd).symm.trans h
  | create _ _ _ _ _ h => cases (verb_of_deletes hd).symm.trans (verb_of_posts h)
  | share _ _ _ h => cases (verb_of_deletes hd).symm.trans (verb_of_posts h)
  | remove task kind' ht hu hk h =>
      obtain ⟨rfl, rfl⟩ := ResourceKind.instancePath_inj (congrArg Request.path (hd.symm.trans h))
      exact ⟨hk, task, ht, hu, rfl⟩
  | removePod task selector pod y _ _ _ _ h =>
      exact absurd (congrArg Request.path (hd.symm.trans h)) ResourceKind.instancePath_ne_podPath

theorem Permitted.posts (h : e.Permitted jobId tasks log r) (hv : r.verb = .post) :
    ∃ task ∈ tasks, underway log = some task ∧
      ((∃ kind ∈ ownKinds, r.Posts (kind.collectionPath e.ns) (objectName kind jobId task.id)) ∨
      r.Posts (ResourceKind.imageStream.collectionPath e.ns) (sanitizeName task.processId)) := by
  cases h with
  | read h => cases hv.symm.trans h
  | create task kind ht hu hk h => exact ⟨task, ht, hu, .inl ⟨kind, hk, h⟩⟩
  | share task ht hu h => exact ⟨task, ht, hu, .inr h⟩
  | remove _ _ _ _ _ h => cases hv.symm.trans (verb_of_deletes h)
  | removePod _ _ _ _ _ _ _ _ h => cases hv.symm.trans (verb_of_deletes h)

end Permitted

/-- Whatever a run is answered and whenever it is cancelled: it deletes objects of its own tasks
only, and pods only that were listed as pods of their builds and batch jobs; never an image stream,
and of builds only that of the task that was begun last. It creates only such objects of that task
and the image stream of its process. -/
theorem run_touches_own (e : Engine) (jobId : String) (tasks : List Task)
    {before after : List (Event engineInterface)} {request : Request} {reply : Reply}
    {rest : EngineScript (Except EngineError (List TaskOutcome))}
    (h : (e.run jobId tasks).Follows (before ++ ⟨.cluster (.send request), reply⟩ :: after) rest) :
    (request.verb = .delete →
      (∃ task ∈ tasks, ∃ kind ∈ ownKinds,
        request.Deletes (kind.instancePath e.ns (objectName kind jobId task.id))) ∨
      ∃ task ∈ tasks, ∃ selector ∈ ownSelectors jobId task, ∃ pod,
        request.Deletes (podPath e.ns pod) ∧
        ∃ y ∈ traffic before, y.Lists (podsPath e.ns) selector pod) ∧
    (∀ name, ¬ request.Deletes (ResourceKind.imageStream.instancePath e.ns name)) ∧
    (∀ name, request.Deletes (ResourceKind.build.instancePath e.ns name) →
      ∃ task ∈ tasks, underway before = some task ∧ name = objectName .build jobId task.id) ∧
    (request.verb = .post → ∃ task ∈ tasks, underway before = some task ∧
      ((∃ kind ∈ ownKinds,
        request.Posts (kind.collectionPath e.ns) (objectName kind jobId task.id)) ∨
      request.Posts (ResourceKind.imageStream.collectionPath e.ns)
        (sanitizeName task.processId))) := by
  have permitted : e.Permitted jobId tasks before request := run_owned.recorded h
  refine ⟨permitted.deletes, fun name hd => ?_, fun name hd => ?_, permitted.posts⟩
  · have own := (permitted.of_deletes hd).1
    simp [ownKinds] at own
  · obtain ⟨-, task, ht, hu, heq⟩ := permitted.of_deletes hd
    exact ⟨task, ht, hu.resolve_left (fun h => by cases h), heq⟩

/-- Answers to a run of the sample's first task under which its batch job has a pod. -/
def populous (n : Nat) : (op : EngineOp) → engineInterface.Answer op
  | .cluster (.send request) =>
      if request = .get (listPath (podsPath "ns")
          (selectorOf batchPodLabel (objectName .batchJob "j" "a"))) then
        .ok (.json (.mk [("items", .array [.mk [("metadata", .mk [("name", .string "q")])]])]))
      else obliging n (.cluster (.send request))
  | op => obliging n op

theorem run_touches_own_sample :
    ∃ before request reply after rest,
      (sampleEngine.run "j" (sampleTasks.take 1)).Follows
        (before ++ ⟨.cluster (.send request), reply⟩ :: after) rest ∧
      request.Deletes (podPath "ns" "q") ∧
      ∃ task ∈ sampleTasks.take 1, ∃ selector ∈ ownSelectors "j" task, ∃ pod,
        request.Deletes (podPath "ns" pod) ∧
        ∃ y ∈ traffic before, y.Lists (podsPath "ns") selector pod := by
  have deleted : EngineOp.cluster (.send (.delete (podPath "ns" "q"))) ∈
      ((sampleEngine.run "j" (sampleTasks.take 1)).play populous 0).1.map Event.op := by
    have single : ordered (sampleTasks.take 1) = sampleTasks.take 1 := List.mergeSort_singleton _
    rw [run, single]
    decide +kernel
  obtain ⟨⟨_, reply⟩, hmem, rfl⟩ := List.mem_map.1 deleted
  obtain ⟨before, after, hl⟩ := List.append_of_mem hmem
  have follows := Script.ran_play populous 0 (sampleEngine.run "j" (sampleTasks.take 1))
  rw [hl] at follows
  refine ⟨before, _, reply, after, _, follows, rfl, ?_⟩
  obtain ⟨_, _, _, _, own⟩ | listed :=
    (run_touches_own sampleEngine "j" (sampleTasks.take 1) follows).1 rfl
  · exact absurd (congrArg Request.path own).symm ResourceKind.instancePath_ne_podPath
  · exact listed

end Engine
end ImageryJobs
