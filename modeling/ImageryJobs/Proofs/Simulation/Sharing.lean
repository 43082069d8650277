import ImageryJobs.Proofs.Simulation.Sequences
import ImageryJobs.Proofs.Simulation.Sources

/-!
Whose code a batch job runs. It is that of its own process, unless the catalog has another process whose
name becomes that of the same stream: then the image is that of the process which needed it first.
-/

namespace ImageryJobs.Simulation

open EngineScript (traffic)

/-! ### What is noted and what was sent -/

def Mark.report? : Mark → Option TaskEvent
  | .report event => some event
  | .build _ | .batch => none

section

variable {ns : String} {log : List (Event engineInterface)}

variable (ns) in
theorem marksOf_eq_nil_or (op : EngineOp) : marksOf ns op = [] ∨ ∃ mark, marksOf ns op = [mark] := by
  unfold marksOf
  split
  · exact .inr ⟨_, rfl⟩
  · split
    · exact .inr ⟨_, rfl⟩
    · split
      · exact .inr ⟨_, rfl⟩
      · exact .inl rfl
  · exact .inl rfl

/-- What was noted was noted of an event. -/
theorem split_of_marks (past : List Mark) {later : List Mark} {mark : Mark}
    (h : marks ns log = past ++ mark :: later) :
    ∃ before event after, log = before ++ event :: after ∧ marks ns before = past ∧
      marksOf ns event.op = [mark] := by
  induction log generalizing past with
  | nil => simp [marks] at h
  | cons event log ih =>
      have cons : marks ns (event :: log) = marksOf ns event.op ++ marks ns log := List.flatMap_cons
      rw [cons] at h
      obtain unnoted | ⟨first, noted⟩ := marksOf_eq_nil_or ns event.op
      · rw [unnoted] at h
        obtain ⟨before, event', after, rfl, hpast, hmark⟩ := ih past h
        exact ⟨event :: before, event', after, rfl,
          by rw [marks, List.flatMap_cons, unnoted]; exact hpast, hmark⟩
      · rw [noted] at h
        cases past with
        | nil =>
            obtain ⟨rfl, -⟩ := List.cons.inj h
            exact ⟨[], event, log, rfl, rfl, noted⟩
        | cons first' past =>
            obtain ⟨rfl, hrest⟩ := List.cons.inj h
            obtain ⟨before, event', after, rfl, hpast, hmark⟩ := ih past hrest
            exact ⟨event :: before, event', after, rfl,
              by rw [marks, List.flatMap_cons, noted]; exact congrArg _ hpast, hmark⟩

theorem post_of_marksOf {op : EngineOp} (h : marksOf ns op = [.batch]) :
    ∃ document, op = .cluster (.send (.post (ResourceKind.batchJob.collectionPath ns) document)) := by
  unfold marksOf at h
  split at h
  · cases h
  · split at h
    · cases h
    · split at h
      · rename_i hpath
        exact ⟨_, by rw [hpath]; rfl⟩
      · cases h
  · cases h

theorem reports_eq (ns : String) (log : List (Event engineInterface)) :
    Engine.reports log = (marks ns log).filterMap Mark.report? := by
  induction log with
  | nil => rfl
  | cons event log ih =>
      have cons : marks ns (event :: log) = marksOf ns event.op ++ marks ns log := List.flatMap_cons
      rw [cons, List.filterMap_append, ← ih]
      obtain ⟨op, answer⟩ := event
      cases op with
      | report event => rfl
      | cluster op =>
          have unreported : (marksOf ns (.cluster op)).filterMap Mark.report? = [] := by
            unfold marksOf
            split
            · rename_i heq
              cases heq
            · split
              · rfl
              · split <;> rfl
            · rfl
          rw [unreported]
          rfl

/-- A build that was complete was noted when it was created. -/
theorem mem_marks_of_latest {stream : String} {build : Json} (h : LatestBuild ns stream (traffic log) build) :
    .build build ∈ marks ns log := by
  obtain ⟨name, before, x, after, split, -, ⟨before', y, after', rfl, ⟨request, -, -⟩, -⟩, -⟩ := h
  have sent : y ∈ traffic log := by simp [split]
  obtain ⟨⟨op, answer⟩, hm, heq⟩ := List.mem_filterMap.1 sent
  refine List.mem_flatMap.2 ⟨_, hm, ?_⟩
  cases op with
  | report event => cases heq
  | cluster op =>
      cases op with
      | pause span => cases heq
      | send request' =>
          cases heq
          have posted : request' = .post (ResourceKind.build.collectionPath ns) build := request
          have noted : marksOf ns (.cluster (.send request')) = [.build build] :=
            posted ▸ marksOf_post .build build
          change .build build ∈ marksOf ns (.cluster (.send request'))
          rw [noted]
          exact List.mem_singleton.2 rfl

end

/-! ### Whose sources an image has -/

/-- Jobs run one after another from a cluster on. Every batch job is created for the task that was begun
last, with the image that the latest tag of a repository names which the cluster has given to a stream,
and the build for that stream that was complete most recently was created from the sources that the
catalog has for the task's process. -/
def RunsOwn (e : Engine) (jobs : List (String × List Task)) (c : SimulatedCluster) : Prop :=
  ∀ ⦃before after : List (Event engineInterface)⦄ ⦃document : Json⦄ ⦃reply : Reply⦄
    ⦃rest : EngineScript (List (Except EngineError (List TaskOutcome)))⦄ ⦃c' : SimulatedCluster⦄,
    (e.runAll jobs).Follows
      (before ++ ⟨.cluster (.send (.post (ResourceKind.batchJob.collectionPath e.ns) document)), reply⟩ ::
        after) rest →
    Answers c before c' →
    ∃ job ∈ jobs, ∃ task ∈ job.2, Engine.underway before = some task ∧
      ∃ own, e.catalog.get? task.processId = some own ∧ ∃ stream repository mounts,
        document = (e.batchOf job.1 task (ImageStreamTemplate.imageOf repository) mounts).document ∧
        Served stream repository c' ∧
        ∃ build, LatestBuild e.ns stream (traffic before) build ∧
          BuildTemplate.sourceIn build = some own.source

/-- Jobs run one after another on a simulated cluster without image streams, whatever was or is
arranged there. Every batch job is created for the task that was begun last, with the image that the
latest tag of a repository names which the cluster has given to the stream of the task's process. The
build for that stream that was complete most recently was created from sources that the catalog has
for a process with the same name; they are those of the task's own process unless the catalog has
other sources for another process with its name. -/
theorem batch_runs_cataloged (e : Engine) (jobs : List (String × List Task)) {c c' : SimulatedCluster}
    (reached : Reached e.ns c) (bare : ∀ stream, (c.objects.get .imageStream).get? stream = none)
    {before after : List (Event engineInterface)} {document : Json} {reply : Reply}
    {rest : EngineScript (List (Except EngineError (List TaskOutcome)))}
    (h : (e.runAll jobs).Follows
      (before ++ ⟨.cluster (.send (.post (ResourceKind.batchJob.collectionPath e.ns) document)), reply⟩ ::
        after) rest)
    (answers : Answers c before c') :
    ∃ job ∈ jobs, ∃ task ∈ job.2, Engine.underway before = some task ∧
      ∃ own, e.catalog.get? task.processId = some own ∧ ∃ repository mounts,
      document = (e.batchOf job.1 task (ImageStreamTemplate.imageOf repository) mounts).document ∧
      Served (sanitizeName task.processId) repository c' ∧
      ∃ build, LatestBuild e.ns (sanitizeName task.processId) (traffic before) build ∧
        (∃ processId spec, e.catalog.get? processId = some spec ∧
          sanitizeName processId = sanitizeName task.processId ∧
          BuildTemplate.sourceIn build = some spec.source) ∧
        ((∀ processId spec, e.catalog.get? processId = some spec →
            sanitizeName processId = sanitizeName task.processId → spec.source = own.source) →
          BuildTemplate.sourceIn build = some own.source) := by
  obtain ⟨job, hj, task, ht, image, mounts, hd, supplied⟩ := batch_supplied reached bare h answers
  obtain ⟨under, ⟨own, hown⟩, repository, rfl, served, source⟩ := supplied
  obtain ⟨processId, spec, build, hget, hname, latest, hsource⟩ := source
  refine ⟨job, hj, task, ht, under, own, hown, repository, mounts, hd, served, build, latest,
    ⟨processId, spec, hget, hname, hsource⟩, fun unshared => ?_⟩
  rw [hsource, unshared processId spec hget hname]

/-! ### Two processes with one stream -/

/-- Two processes with names that become one. -/
def sharingEngine : Engine :=
  ⟨"ns", ((ImageCatalog.ofResources .initial).withProcess "a_b" ⟨⟨"uri", "first", none⟩, none⟩).withProcess
    "a-b" ⟨⟨"uri", "second", none⟩, none⟩, .ofCluster .initial⟩

def firstSharing : Task := .ofSpec "x" "j" ⟨0, "a_b", ∅, []⟩

def secondSharing : Task := .ofSpec "y" "k" ⟨0, "a-b", ∅, []⟩

/-- One job for each of the processes. -/
def sharingJobs : List (String × List Task) := [("j", [firstSharing]), ("k", [secondSharing])]

/-- The cluster that the jobs start on. -/
def sharingStart : SimulatedCluster := .empty sharingEngine.ns 1

/-- The build of the first task's image. -/
def firstBuild : Json := (Engine.buildOf "j" firstSharing ⟨"uri", "first", none⟩).document

theorem sourceIn_firstBuild : BuildTemplate.sourceIn firstBuild = some ⟨"uri", "first", none⟩ :=
  BuildTemplate.sourceIn_document _

/-- What is noted of jobs that run undisturbed. The engine is any, so that nothing here is evaluated. -/
theorem marks_runAll {e : Engine} {jobs : List (String × List Task)} {looks : Nat} (inTime : InTime e looks)
    (runnable : ∀ job ∈ jobs, Runnable e job) :
    ∃ outcomes, List.Forall₂ (fun job outcomes => outcomes.length = job.2.length) jobs outcomes ∧
      Shares e.ns (allFinished jobs outcomes) ∧
      marks e.ns (runOn (e.runAll jobs) (.empty e.ns looks)).1 =
        (allFinished jobs outcomes).flatMap (Finished.marks e) := by
  obtain ⟨outcomes, -, lengths, shares, v, between, hw⟩ :=
    runOn_of_meets (runAll_completes inTime runnable settled_nothing)
  have noted := hw.noted
  rw [List.nil_append] at noted
  exact ⟨outcomes, lengths, shares, noted⟩

theorem marks_sharing : ∃ a b, marks sharingEngine.ns (runOn (sharingEngine.runAll sharingJobs) sharingStart).1 =
    [.report (.started firstSharing), .build firstBuild, .batch, .report (.finished firstSharing a),
      .report (.started secondSharing), .batch, .report (.finished secondSharing b)] := by
  have inTime : InTime sharingEngine 1 :=
    ⟨by decide +kernel, by decide, by decide, by decide, by decide⟩
  have runnable : ∀ job ∈ sharingJobs, Runnable sharingEngine job :=
    List.forall_mem_cons.2 ⟨⟨⟨_, rfl⟩, fun _ => List.nodup_singleton _, by decide⟩,
      List.forall_mem_singleton.2 ⟨⟨_, rfl⟩, fun _ => List.nodup_singleton _, by decide⟩⟩
  obtain ⟨outcomes, lengths, shares, noted⟩ := marks_runAll inTime runnable
  obtain _ | ⟨one, _ | ⟨two, _ | _⟩⟩ := lengths
  obtain ⟨a, rfl⟩ := List.length_eq_one_iff.1 one
  obtain ⟨b, rfl⟩ := List.length_eq_one_iff.1 two
  have single (jobId : String) (task : Task) (outcome : TaskOutcome) :
      finished jobId [task] [outcome] = [⟨jobId, task, outcome⟩] := by
    rw [finished, Engine.ordered, List.mergeSort_singleton]
    rfl
  have turns : allFinished sharingJobs [[a], [b]] = [⟨"j", firstSharing, a⟩, ⟨"k", secondSharing, b⟩] :=
    congrArg₂ (fun l m => [l, m].flatten) (single ..) (single ..)
  have built : a.imageReused = false := (shares [] _ _ turns).2
  have same : sanitizeName "a_b" = sanitizeName "a-b" := by decide +kernel
  have reused : b.imageReused = true := by
    have taken := (shares [_] _ [] turns).2
    rw [taken]
    exact decide_eq_true (List.mem_singleton.2 same.symm)
  rw [turns, List.flatMap_cons, List.flatMap_singleton, Finished.marks, Finished.marks, built, reused] at noted
  exact ⟨a, b, noted⟩

/-- The batch job of the second task is created after one build, that of the first task. -/
theorem sharing_run : ∃ before document reply after results c' outcome,
    (sharingEngine.runAll sharingJobs).Follows (before ++
      ⟨.cluster (.send (.post (ResourceKind.batchJob.collectionPath sharingEngine.ns) document)), reply⟩ ::
        after) (.done results) ∧
    Answers sharingStart before c' ∧
    marks sharingEngine.ns before = [.report (.started firstSharing), .build firstBuild, .batch,
      .report (.finished firstSharing outcome), .report (.started secondSharing)] := by
  obtain ⟨a, b, noted⟩ := marks_sharing
  obtain ⟨before, ⟨op, reply⟩, after, split, past, posted⟩ := split_of_marks
    [.report (.started firstSharing), .build firstBuild, .batch, .report (.finished firstSharing a),
      .report (.started secondSharing)] noted
  obtain ⟨document, rfl⟩ := post_of_marksOf posted
  have ran := ran_runOn (sharingEngine.runAll sharingJobs) sharingStart
  have answers := answers_runOn (sharingEngine.runAll sharingJobs) sharingStart
  rw [split] at ran answers
  obtain ⟨c', answers, -⟩ := answers.split
  exact ⟨before, document, reply, after, _, c', a, ran, answers, past⟩

section

variable {before : List (Event engineInterface)} {outcome : TaskOutcome}
  (noted : marks sharingEngine.ns before = [.report (.started firstSharing), .build firstBuild, .batch,
    .report (.finished firstSharing outcome), .report (.started secondSharing)])
include noted

theorem underway_sharing : Engine.underway before = some secondSharing := by
  rw [Engine.underway, reports_eq sharingEngine.ns, noted]
  rfl

theorem eq_firstBuild {stream : String} {build : Json}
    (latest : LatestBuild sharingEngine.ns stream (traffic before) build) : build = firstBuild := by
  have hm := mem_marks_of_latest latest
  rw [noted] at hm
  simpa using hm

end

theorem bare_sharingStart (stream : String) : (sharingStart.objects.get .imageStream).get? stream = none := rfl

theorem batch_runs_cataloged_sample :
    Reached sharingEngine.ns sharingStart ∧
    ∃ before document reply after results c' repository mounts build,
      (sharingEngine.runAll sharingJobs).Follows (before ++
        ⟨.cluster (.send (.post (ResourceKind.batchJob.collectionPath sharingEngine.ns) document)), reply⟩ ::
          after) (.done results) ∧
      Answers sharingStart before c' ∧ Engine.underway before = some secondSharing ∧
      document = (sharingEngine.batchOf "k" secondSharing (ImageStreamTemplate.imageOf repository) mounts).document ∧
      LatestBuild sharingEngine.ns (sanitizeName "a-b") (traffic before) build ∧
      BuildTemplate.sourceIn build = some ⟨"uri", "first", none⟩ := by
  obtain ⟨before, document, reply, after, results, c', outcome, h, answers, noted⟩ := sharing_run
  obtain ⟨job, hj, task, ht, under, own, -, repository, mounts, hd, -, build, latest, -⟩ :=
    batch_runs_cataloged sharingEngine sharingJobs (.empty 1) bare_sharingStart h answers
  obtain rfl : secondSharing = task := Option.some.inj ((underway_sharing noted).symm.trans under)
  obtain rfl : job = ("k", [secondSharing]) := by
    obtain rfl | hj := List.mem_cons.1 hj
    · have same : secondSharing.id = firstSharing.id := congrArg Task.id (List.mem_singleton.1 ht)
      exact absurd same (by decide)
    · exact List.mem_singleton.1 hj
  refine ⟨.empty 1, before, document, reply, after, results, c', repository, mounts, build, h, answers, under,
    hd, latest, ?_⟩
  rw [eq_firstBuild noted latest, sourceIn_firstBuild]

/-- The second task has the image that was built for the first one's process. -/
theorem sharing_runs_other :
    Reached sharingEngine.ns sharingStart ∧
    (∀ stream, (sharingStart.objects.get .imageStream).get? stream = none) ∧
    ¬ RunsOwn sharingEngine sharingJobs sharingStart := by
  refine ⟨.empty 1, bare_sharingStart, fun runsOwn => ?_⟩
  obtain ⟨before, document, reply, after, results, c', outcome, h, answers, noted⟩ := sharing_run
  obtain ⟨job, -, task, -, under, own, hown, stream, repository, mounts, -, -, build, latest, source⟩ :=
    runsOwn h answers
  obtain rfl : secondSharing = task := Option.some.inj ((underway_sharing noted).symm.trans under)
  have second : own.source = ⟨"uri", "second", none⟩ := by
    cases hown
    rfl
  rw [eq_firstBuild noted latest, sourceIn_firstBuild, second] at source
  exact absurd source (by decide)

end ImageryJobs.Simulation
