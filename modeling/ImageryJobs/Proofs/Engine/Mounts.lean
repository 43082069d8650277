import ImageryJobs.Proofs.Cluster.PodVolumes
import ImageryJobs.Proofs.Engine.Serving
import ImageryJobs.Proofs.Engine.Tasks
import ImageryJobs.Proofs.Json.RoundTrip

/-!
What the documents of different tasks say about one output. The batch job of a task mounts what its
producers wrote at the paths at which their own batch jobs wrote it, and the config map of the task
lists these paths.
-/

namespace ImageryJobs
namespace Engine

open EngineScript Template

/-- The claim of a task's output at its path. -/
def outputMount (jobId : String) (readOnly : Bool) (task : Task) : Manifest.VolumeMount :=
  ⟨objectName .volume jobId task.id, dataPath jobId task.id, readOnly, none⟩

/-- The mounts of a task that reads from these producers. -/
def placement (e : Engine) (jobId : String) (task : Task) (producers : List Task) :
    List Manifest.VolumeMount :=
  [⟨e.config.productVolume, "/eodc", true, none⟩,
    ⟨objectName .config jobId task.id, "/job_config", true, none⟩,
    outputMount jobId false task] ++
  producers.map (outputMount jobId true) ++
  [⟨e.config.resultsVolume, "/job_results", false, some jobId⟩]

def outputPaths (jobId : String) (producers : List Task) : List String :=
  producers.map fun p => dataPath jobId p.id

/-- A document was sent to the collection of a kind. -/
def Sent (e : Engine) (kind : ResourceKind) (document : Json) (l : List Exchange) : Prop :=
  ∃ x ∈ l, x.request = .post (kind.collectionPath e.ns) document

/-- The tasks that a task reads from, in the order in which it names them. -/
structure Feeds (tasks : List Task) (task : Task) (producers : List Task) : Prop where
  known : producers ⊆ tasks
  order : producers.map (·.seqNum) = task.dependsOn

structure IsConfigOf (jobId : String) (task : Task) (producers : List Task) (config : Json) :
    Prop where
  owner : taskOf config = some task.id
  args : fileIn config ConfigTemplate.configFile = some (Json.ofMembers task.args).render
  inputs : fileIn config ConfigTemplate.inputMountsFile =
    some (Json.ofList (outputPaths jobId producers) .string).render

structure IsBatchJobOf (e : Engine) (jobId : String) (task : Task) (producers : List Task)
    (job : Json) : Prop where
  owner : taskOf job = some task.id
  mounts : mountsIn job = some (e.placement jobId task producers)

/-- A batch job was sent that writes the output of a task. -/
def Produced (e : Engine) (jobId : String) (task : Task) (l : List Exchange) : Prop :=
  ∃ job producers, e.Sent .batchJob job l ∧ e.IsBatchJobOf jobId task producers job

/-- A config map or batch job that is sent is that of a task. When a batch job is sent, the config
map of its task and the batch jobs that write what it reads were sent before. -/
structure Accords (e : Engine) (jobId : String) (tasks : List Task) (before : List Exchange)
    (x : Exchange) : Prop where
  config : ∀ config, x.request = .post (ResourceKind.config.collectionPath e.ns) config →
    ∃ task ∈ tasks, ∃ producers, Feeds tasks task producers ∧
      IsConfigOf jobId task producers config
  batch : ∀ job, x.request = .post (ResourceKind.batchJob.collectionPath e.ns) job →
    ∃ task ∈ tasks, ∃ producers, Feeds tasks task producers ∧
      e.IsBatchJobOf jobId task producers job ∧
      (∃ config, e.Sent .config config before ∧ taskOf config = some task.id) ∧
      ∀ p ∈ producers, e.Produced jobId p before

/-- Every volume that is held is the output of the task of its place, and a batch job was sent that
writes it. -/
def Supplied (e : Engine) (jobId : String) (tasks : List Task) (arena : Arena Resource)
    (l : List Exchange) : Prop :=
  ∀ p v, arena.place p = some (some v) → ∃ owner ∈ tasks, owner.seqNum = p ∧
    v.resource.template = e.volumeOf jobId owner ∧ v.mountPath = dataPath jobId owner.id ∧
    e.Produced jobId owner l

variable {e : Engine} {jobId : String} {tasks : List Task} {task : Task} {producers : List Task}
  {arena arena' left : Arena Resource} {inputs : List (HeldVolume Resource)} {succeeded : Prop}
  {tv tc ti tb dc di dv before l : List Exchange} {x : Exchange}

theorem Sent.append {kind : ResourceKind} {document : Json} (h : e.Sent kind document before) :
    e.Sent kind document (before ++ l) := by
  obtain ⟨x, hx, posted⟩ := h
  exact ⟨x, List.mem_append_left _ hx, posted⟩

theorem Produced.append (h : e.Produced jobId task before) :
    e.Produced jobId task (before ++ l) := by
  obtain ⟨job, producers, sent, ofTask⟩ := h
  exact ⟨job, producers, sent.append, ofTask⟩

theorem Feeds.unique {producers' : List Task} (numbers : (tasks.map (·.seqNum)).Nodup)
    (h : Feeds tasks task producers) (h' : Feeds tasks task producers') : producers = producers' := by
  have same := h.order.trans h'.order.symm
  refine List.ext_getElem (by simpa using congrArg List.length same) fun i hi hi' => ?_
  refine List.inj_on_of_nodup_map numbers (h.known (List.getElem_mem hi))
    (h'.known (List.getElem_mem hi')) ?_
  simpa [hi, hi'] using congrArg (·[i]?) same

/-! ### Documents -/

theorem isConfigOf (paths : inputs.map (·.mountPath) = outputPaths jobId producers) :
    IsConfigOf jobId task producers (configOf jobId task (inputs.map (·.mountPath))).document := by
  rw [paths]
  refine ⟨ConfigTemplate.taskOf_forTask .., ConfigTemplate.fileIn_document ?_,
    ConfigTemplate.fileIn_document ?_⟩
  · simp [ConfigTemplate.forTask, Dict.ofList, ConfigTemplate.configFile, ConfigTemplate.inputMountsFile]
  · simp [ConfigTemplate.forTask, Dict.ofList]

/-- A volume where another task reads it. -/
def inputMount (v : HeldVolume Resource) : Manifest.VolumeMount :=
  ⟨v.resource.name, v.mountPath, true, none⟩

theorem isBatchJobOf {image : String}
    (claims : inputs.map inputMount = producers.map (outputMount jobId true)) :
    e.IsBatchJobOf jobId task producers
      (e.batchOf jobId task image (e.mountsOf jobId task inputs)).document := by
  refine ⟨BatchTemplate.taskOf_forTask .., ?_⟩
  have some_mount : e.mountsOf jobId task inputs ≠ [] := List.cons_ne_nil _ _
  refine (BatchTemplate.mountsIn_document some_mount).trans (congrArg some ?_)
  have read : (inputs.map fun v => (Mount.claim v.resource.name v.mountPath).asReadOnly).map
      BatchTemplate.volumeMount = producers.map (outputMount jobId true) := by
    rw [← claims, List.map_map]
    rfl
  change (e.mountsOf jobId task inputs).map BatchTemplate.volumeMount = _
  rw [mountsOf, mounts, List.map_append, List.map_append, read]
  rfl

/-- With one claim for products and results no task can write its results: the products are mounted
first, for reading. -/
theorem not_servesMounts_of_one_volume (same : e.config.productVolume = e.config.resultsVolume)
    (image : String) :
    ¬ BatchTemplate.ServesMounts (e.mountsOf jobId task inputs)
      (e.batchOf jobId task image (e.mountsOf jobId task inputs)).document := by
  intro served
  let results := (Mount.claim e.config.resultsVolume resultsMount).withSubPath jobId
  have products : BatchTemplate.firstOf (e.mountsOf jobId task inputs) results.source.name =
      some (Mount.claim e.config.productVolume productMount).asReadOnly := by
    refine List.find?_cons_of_pos ?_
    exact decide_eq_true same
  have mounted : results ∈ e.mountsOf jobId task inputs := by simp [mountsOf, mounts, results]
  let job := BatchTemplate.forTask jobId task.id task.processId image
    (e.mountsOf jobId task inputs) (e.catalog.resourcesFor task.processId)
  have served : BatchTemplate.ServesMounts job.mounts job.template.document := served
  exact Bool.false_ne_true ((served.suffices mounted products).access _ rfl rfl)

/-! ### Runs -/

/-- The volumes that a task took are the outputs of tasks that it reads from. -/
theorem Supplied.feeds {ps : List Nat} (supplied : e.Supplied jobId tasks arena before)
    (h : List.Forall₂ (fun p v => arena.place p = some (some v)) ps inputs) :
    ∃ producers ⊆ tasks, producers.map (·.seqNum) = ps ∧
      inputs.map (·.mountPath) = outputPaths jobId producers ∧
      inputs.map inputMount = producers.map (outputMount jobId true) ∧
      ∀ p ∈ producers, e.Produced jobId p before := by
  induction h with
  | nil => exact ⟨[], List.nil_subset _, rfl, rfl, rfl, List.forall_mem_nil _⟩
  | @cons p v ps inputs place _ ih =>
      obtain ⟨producers, known, order, paths, claims, produced⟩ := ih
      obtain ⟨owner, ho, hseq, template, path, written⟩ := supplied p v place
      refine ⟨owner :: producers, List.cons_subset.2 ⟨ho, known⟩, ?_, ?_, ?_,
        List.forall_mem_cons.2 ⟨written, produced⟩⟩
      · rw [List.map_cons, order, hseq]
      · rw [List.map_cons, paths, path]
        rfl
      · have claim : v.resource.name = objectName .volume jobId owner.id :=
          congrArg Template.name template
        rw [List.map_cons, claims, inputMount, claim, path]
        rfl

theorem accords_of_touches {kind : ResourceKind} {name : String}
    (h : Resource.Touches e.ns kind name x.request) (config : kind ≠ .config)
    (batch : kind ≠ .batchJob) : e.Accords jobId tasks before x :=
  ⟨fun _ heq => absurd (h.of_post heq).symm config, fun _ heq => absurd (h.of_post heq).symm batch⟩

theorem accords_of_clears {kind : ResourceKind} {name : String}
    (h : Resource.Clears e.ns kind name x.request) : e.Accords jobId tasks before x :=
  ⟨fun _ heq => absurd heq h.not_post, fun _ heq => absurd heq h.not_post⟩

section Attempting

variable (a : e.Attempt jobId task arena inputs left arena' succeeded tv tc ti tb dc di dv)
include a

theorem Attempt.supplied (ht : task ∈ tasks) (supplied : e.Supplied jobId tasks arena before)
    (produced : succeeded → e.Produced jobId task (before ++ l)) :
    e.Supplied jobId tasks arena' (before ++ l) := by
  have kept : e.Supplied jobId tasks left (before ++ l) := by
    intro p v hp
    rw [(Arena.take_ok a.take).2.2] at hp
    split at hp
    · cases hq : arena.place p <;> simp [hq] at hp
    · obtain ⟨owner, ho, hseq, template, path, written⟩ := supplied p v hp
      exact ⟨owner, ho, hseq, template, path, written.append⟩
  by_cases hs : succeeded
  · obtain ⟨-, output, template, path, hplace⟩ := a.handed hs
    intro p v hp
    rw [hplace] at hp
    split at hp
    · rename_i heq
      cases hp
      exact ⟨task, ht, heq.symm, template, path, produced hs⟩
    · exact kept p v hp
  · rw [(a.volume_deleted hs).1]
    exact kept

theorem Attempt.accords (ht : task ∈ tasks) (feeds : Feeds tasks task producers)
    (paths : inputs.map (·.mountPath) = outputPaths jobId producers)
    (claims : inputs.map inputMount = producers.map (outputMount jobId true))
    (produced : ∀ p ∈ producers, e.Produced jobId p before)
    (accords : Justified (e.Accords jobId tasks) before) :
    Justified (e.Accords jobId tasks) (before ++ (tv ++ tc ++ ti ++ tb ++ dc ++ di ++ dv)) := by
  simp only [← List.append_assoc]
  -- Stage by stage: only the second and the fourth send such documents.
  have volume := accords.append (m := tv) fun _ x hx =>
    accords_of_touches (a.carried.volume_touches x hx) (by simp) (by simp)
  have config := volume.append (m := tc) fun _ x hx => by
    have manages := (a.carried.config_provided (List.ne_nil_of_mem hx)).1 x hx
    refine ⟨fun document heq => ?_, fun document heq => ?_⟩
    · obtain ⟨-, rfl⟩ := manages.of_post heq
      exact ⟨task, ht, producers, feeds, isConfigOf paths⟩
    · cases (manages.of_post heq).1
  have image := config.append (m := ti) fun _ x hx => by
    obtain ⟨stream, h⟩ | h := a.carried.image_touches x hx
    · exact accords_of_touches h (by simp) (by simp)
    · exact accords_of_touches h (by simp) (by simp)
  have batch := image.append (m := tb) fun earlier x hx => by
    obtain ⟨some_config, image, provided⟩ := a.carried.batch_provided (List.ne_nil_of_mem hx)
    have manages := provided.1 x hx
    refine ⟨fun document heq => ?_, fun document heq => ?_⟩
    · cases (manages.of_post heq).1
    · obtain ⟨-, rfl⟩ := manages.of_post heq
      obtain ⟨y, hy, posted⟩ := (a.carried.config_provided some_config).2
      have configured : ∃ config, e.Sent .config config (before ++ tv ++ tc ++ ti ++ earlier) ∧
          taskOf config = some task.id :=
        ⟨_, ⟨y, by simp [hy], posted⟩, (isConfigOf paths).owner⟩
      refine ⟨task, ht, producers, feeds, isBatchJobOf claims, configured, fun p hp => ?_⟩
      simpa using (produced p hp).append (l := tv ++ tc ++ ti ++ earlier)
  refine ((batch.append fun _ x hx => ?_).append fun _ x hx => ?_).append fun _ x hx => ?_
  · exact accords_of_clears (a.config_clears x hx)
  · obtain ⟨v, -, hc⟩ := a.inputs_clear x hx
    exact accords_of_clears hc
  · exact accords_of_clears (a.volume_clears x hx)

theorem Attempt.produced
    (claims : inputs.map inputMount = producers.map (outputMount jobId true)) (hs : succeeded) :
    e.Produced jobId task (before ++ (tv ++ tc ++ ti ++ tb ++ dc ++ di ++ dv)) := by
  obtain ⟨_, seen, _, htb, -, -⟩ := a.carried.done hs
  obtain ⟨-, image, -, y, hy, posted⟩ := a.carried.batch_provided (by simp [htb])
  exact ⟨_, producers, ⟨y, by simp [hy], posted⟩, isBatchJobOf claims⟩

end Attempting

theorem Performed.accords (ht : task ∈ tasks) (once : task.dependsOn.Nodup)
    (h : e.Performed jobId task arena arena' l)
    (hi : e.Supplied jobId tasks arena before ∧ Justified (e.Accords jobId tasks) before) :
    e.Supplied jobId tasks arena' (before ++ l) ∧ Justified (e.Accords jobId tasks) (before ++ l) := by
  obtain ⟨supplied, accords⟩ := hi
  obtain ⟨rfl, rfl⟩ | ⟨inputs, left, succeeded, tv, tc, ti, tb, dc, di, dv, rfl, a⟩ := h
  · rw [List.append_nil]
    exact ⟨supplied, accords⟩
  · obtain ⟨producers, known, order, paths, claims, produced⟩ :=
      supplied.feeds (Arena.take_in_order a.take once)
    exact ⟨a.supplied ht supplied (a.produced claims),
      a.accords ht ⟨known, order⟩ paths claims produced accords⟩

/-- A run that sent anything has accepted its tasks. -/
theorem readable_of_traffic {log : List (Event engineInterface)}
    {result : Except EngineError (List TaskOutcome)} (h : (e.run jobId tasks).Ran log result)
    (some_traffic : traffic log ≠ []) :
    Arena.Readable (tasks.map fun t => (t.seqNum, t.dependsOn)) := by
  unfold run at h
  dsimp only at h
  cases hp : (Arena.plan ((ordered tasks).map fun t => (t.seqNum, t.dependsOn)) :
      Except VolumeError (Arena Resource)) with
  | error cause =>
      rw [hp] at h
      obtain ⟨rfl, -⟩ := Script.ran_pure.1 h
      exact absurd rfl some_traffic
  | ok arena => exact (Arena.readable_of_plan hp).perm ((ordered_perm tasks).map _)

theorem run_accords {log : List (Event engineInterface)}
    {result : Except EngineError (List TaskOutcome)} (h : (e.run jobId tasks).Ran log result)
    (readable : Arena.Readable (tasks.map fun t => (t.seqNum, t.dependsOn))) :
    Justified (e.Accords jobId tasks) (traffic log) := by
  have nothing : Justified (e.Accords jobId tasks) [] := by
    intro pre x post heq
    cases pre <;> cases heq
  have once (task : Task) (ht : task ∈ tasks) : task.dependsOn.Nodup :=
    (List.nodup_flatMap.1 readable.once).1 _ (List.mem_map_of_mem ht)
  obtain hnil | ⟨arena, before, l, hl, ⟨-, accords⟩, clears, -⟩ :=
    ran_run (fun arena l => e.Supplied jobId tasks arena l ∧ Justified (e.Accords jobId tasks) l)
      (fun arena empty => ⟨fun p v hp => absurd hp (empty p v), nothing⟩)
      (fun task ht arena arena' before l _ hp hi => hp.accords ht (once task ht) hi) h
  · rw [hnil]
    exact nothing
  · rw [hl]
    refine accords.append fun _ x hx => ?_
    obtain ⟨p, v, -, hc⟩ := clears x hx
    exact accords_of_clears hc

/-- The batch job of a task is in accord with the config maps of the task and with the batch jobs of
its producers. Some of what was sent was sent before it. -/
structure Agrees (e : Engine) (jobId : String) (tasks : List Task) (before all : List Exchange)
    (job : Json) (task : Task) (producers : List Task) : Prop where
  numbers : (tasks.map (·.seqNum)).Nodup
  feeds : Feeds tasks task producers
  owner : ∀ t ∈ tasks, taskOf job = some t.id ↔ t = task
  mounts : mountsIn job = some (e.placement jobId task producers)
  configured : ∃ config, e.Sent .config config before ∧ taskOf config = some task.id
  files : ∀ config, e.Sent .config config all → taskOf config = some task.id →
    (fileIn config "config.json").bind Json.read? = some (Json.ofMembers task.args) ∧
    (fileIn config "input_mounts.json").bind Json.read? =
      some (Json.ofList (outputPaths jobId producers) .string)
  written : ∀ p ∈ producers, (∃ job', e.Sent .batchJob job' before ∧ taskOf job' = some p.id) ∧
    ∀ job', e.Sent .batchJob job' all → taskOf job' = some p.id →
      ∃ mounts, mountsIn job' = some mounts ∧ outputMount jobId false p ∈ mounts

theorem outputMount_mem_placement (producers : List Task) :
    outputMount jobId false task ∈ e.placement jobId task producers := by
  simp [placement]

/-- At any moment of a run of tasks with different ids, every batch job that was created is that of
one of the tasks. Its container mounts, in this order, the products, the config map of the task, the
claim of its own output, the claims of what it reads, and the results. The config map lists the paths
of what it reads and has its arguments, as long as these are read as they are written; and it was at
these paths that the batch jobs of the producers mounted the same claims to write to them. -/
theorem run_mounts_agree (e : Engine) (jobId : String) (tasks : List Task)
    (distinct : (tasks.map (·.id)).Nodup)
    (reread : ∀ t ∈ tasks, Json.read? (Json.ofMembers t.args).render = some (Json.ofMembers t.args))
    {log : List (Event engineInterface)}
    {rest : EngineScript (Except EngineError (List TaskOutcome))}
    (h : (e.run jobId tasks).Follows log rest) {before after : List Exchange} {x : Exchange}
    {job : Json} (hl : traffic log = before ++ x :: after)
    (hx : x.request = .post (ResourceKind.batchJob.collectionPath e.ns) job) :
    ∃ task ∈ tasks, ∃ producers, e.Agrees jobId tasks before (traffic log) job task producers := by
  obtain ⟨later, result, hrun⟩ := h.exists_ran
  have some_traffic : traffic (log ++ later) ≠ [] := by simp [hl]
  have readable := readable_of_traffic hrun some_traffic
  have numbers : (tasks.map (·.seqNum)).Nodup := by
    have nums := readable.nums
    rwa [List.map_map] at nums
  have justified := run_accords hrun readable
  have accords {y : Exchange} (hy : y ∈ traffic log) : ∃ pre, e.Accords jobId tasks pre y := by
    obtain ⟨pre, post, hm⟩ := List.append_of_mem hy
    exact ⟨pre, justified pre y (post ++ traffic later) (by simp [hm])⟩
  -- A document names the task that it belongs to, and ids differ.
  have same {t t' : Task} {object : Json} (ht : t ∈ tasks) (ht' : t' ∈ tasks)
      (owner : taskOf object = some t.id) (owner' : taskOf object = some t'.id) : t = t' :=
    List.inj_on_of_nodup_map distinct ht ht' (Option.some.inj (owner.symm.trans owner'))
  obtain ⟨task, ht, producers, feeds, ofTask, configured, produced⟩ :=
    (justified before x (after ++ traffic later) (by simp [hl])).batch job hx
  refine ⟨task, ht, producers, numbers, feeds, fun t hm => ⟨fun owner => ?_, fun heq => ?_⟩,
    ofTask.mounts, configured, fun config sent owner => ?_, fun p hp => ⟨?_, fun job' sent owner => ?_⟩⟩
  · exact same hm ht owner ofTask.owner
  · rw [heq]
    exact ofTask.owner
  · obtain ⟨y, hy, posted⟩ := sent
    obtain ⟨pre, accord⟩ := accords hy
    obtain ⟨task', ht', producers', feeds', files⟩ := accord.config config posted
    obtain rfl := same ht' ht files.owner owner
    obtain rfl := feeds'.unique numbers feeds
    constructor
    · exact (congrArg (·.bind Json.read?) files.args).trans (reread task' ht')
    · exact (congrArg (·.bind Json.read?) files.inputs).trans (Json.read?_render_strings _)
  · obtain ⟨job', _, sent, ofProducer⟩ := produced p hp
    exact ⟨job', sent, ofProducer.owner⟩
  · obtain ⟨y, hy, posted⟩ := sent
    obtain ⟨pre, accord⟩ := accords hy
    obtain ⟨task', ht', producers', -, ofTask', -⟩ := accord.batch job' posted
    obtain rfl := same ht' (feeds.known hp) ofTask'.owner owner
    exact ⟨_, ofTask'.mounts, outputMount_mem_placement producers'⟩

/-- The second task of the sample is in accord with the first. -/
theorem run_mounts_agree_sample :
    ∃ log rest before x after job, (sampleTasks.map (·.id)).Nodup ∧
      (∀ t ∈ sampleTasks,
        Json.read? (Json.ofMembers t.args).render = some (Json.ofMembers t.args)) ∧
      (sampleEngine.run "j" sampleTasks).Follows log rest ∧ traffic log = before ++ x :: after ∧
      x.request = .post (ResourceKind.batchJob.collectionPath sampleEngine.ns) job ∧
      taskOf job = some "b" ∧
      ∃ task ∈ sampleTasks, ∃ producers,
        sampleEngine.Agrees "j" sampleTasks before (traffic log) job task producers := by
  have distinct : (sampleTasks.map (·.id)).Nodup := by decide
  have reread : ∀ t ∈ sampleTasks,
      Json.read? (Json.ofMembers t.args).render = some (Json.ofMembers t.args) := by
    decide +kernel
  have posted : ∃ x ∈ traffic ((sampleEngine.run "j" sampleTasks).play obliging 0).1,
      ∃ job ∈ x.request.body, taskOf job = some "b" ∧
        x.request = .post (ResourceKind.batchJob.collectionPath sampleEngine.ns) job := by
    rw [run, ordered_sample]
    decide +kernel
  obtain ⟨x, hmem, job, -, owner, hx⟩ := posted
  obtain ⟨before, after, hl⟩ := List.append_of_mem hmem
  have ran := Script.ran_play obliging 0 (sampleEngine.run "j" sampleTasks)
  exact ⟨_, _, before, x, after, job, distinct, reread, ran, hl, hx, owner,
    run_mounts_agree sampleEngine "j" sampleTasks distinct reread ran hl hx⟩

end Engine
end ImageryJobs
