import ImageryJobs.Proofs.Cluster.Logs
import ImageryJobs.Proofs.Engine.Contracts
import ImageryJobs.Proofs.Engine.Observing
import Mathlib.Data.List.Induction

/-!
What becomes of the logs that a run reads. They are requested only while a task is under way. A task
that finishes is reported with every text that was obtained; one that fails otherwise than by a
cancellation is reported with what the last request for logs gave in the stage that failed.
-/

namespace ImageryJobs

/-! ### What a report carries -/

theorem Text.trimEnd_prefix (s : String) : (trimEnd s).toList <+: s.toList := by
  rw [trimEnd, String.toList_ofList, ← List.reverse_suffix, List.reverse_reverse]
  exact List.dropWhile_suffix _

/-- The logs of a finished task hold those of its build and those of its container. -/
theorem TaskOutcome.keptIn_allLogs (o : TaskOutcome) :
    ∀ text ∈ o.buildLogs.toList ++ o.logs.toList, KeptIn o.allLogs text := by
  have own (text : String) : (Text.trimEnd text).toList <:+: text.toList :=
    (Text.trimEnd_prefix text).isInfix
  intro text htext
  obtain ⟨image, reused, build, run, metrics⟩ := o
  cases build with
  | none =>
      obtain rfl : run = some text := by simpa using htext
      exact ⟨text, rfl, own text⟩
  | some build =>
      cases run with
      | none =>
          obtain rfl : text = build := by simpa using htext
          exact ⟨text, rfl, own text⟩
      | some run =>
          refine ⟨_, rfl, ?_⟩
          rw [String.toList_append, String.toList_append, List.append_assoc]
          obtain rfl | rfl : text = build ∨ text = run := by simpa using htext
          · exact (List.prefix_append _ _).isInfix
          · exact (own text).trans ((List.suffix_append _ _).trans (List.suffix_append _ _)).isInfix

namespace Engine

open EngineScript

/-- What is known of the logs of a task that is under way. -/
structure Noted where
  task : Task
  /-- The texts that were obtained. -/
  texts : List String
  /-- What the last request for logs gave. -/
  last : Option String

namespace Noted

def read (n : Noted) (reply : Reply) : Noted :=
  { n with texts := n.texts ++ (logText reply).toList, last := logText reply }

/-- What the report of the end of the task carries. -/
inductive Reported (n : Noted) : TaskEvent → Prop where
  | finished (outcome : TaskOutcome) (kept : ∀ text ∈ n.texts, KeptIn outcome.allLogs text) :
      Reported n (.finished n.task outcome)
  | failed (error : EngineError) (kept : error.isCancelled = false → error.logs? = n.last) :
      Reported n (.failed n.task error)

end Noted

/-- The task that is under way and what was sent for it, after another event. -/
def underwayStep : Option (Task × List Exchange) → Event engineInterface →
    Option (Task × List Exchange)
  | _, ⟨.report (.started task), .ok _⟩ => some (task, [])
  | _, ⟨.report _, _⟩ => none
  | now, ⟨.cluster (.send request), reply⟩ => now.map fun p => (p.1, p.2 ++ [⟨request, reply⟩])
  | now, ⟨.cluster (.pause _), _⟩ => now

/-- The task that was started and has not ended, and what was sent since. -/
def sentFor (log : List (Event engineInterface)) : Option (Task × List Exchange) :=
  log.foldl underwayStep none

theorem sentFor_concat (log : List (Event engineInterface)) (event : Event engineInterface) :
    sentFor (log ++ [event]) = underwayStep (sentFor log) event := List.foldl_concat ..

def noted (ns : String) (log : List (Event engineInterface)) : Option Noted :=
  (sentFor log).map fun p => ⟨p.1, logTexts ns p.2, lastText ns p.2⟩

/-- Logs are requested for a task that is under way, and when it ends they are reported. -/
def LogsReported (ns : String) (tasks : List Task) (log : List (Event engineInterface)) :
    EngineOp → Prop
  | .cluster (.send request) => request.ReadsLog ns → (noted ns log).isSome = true
  | .cluster (.pause _) => True
  | .report event =>
      match noted ns log with
      | none => ∀ task, event = .started task → task ∈ tasks
      | some n => n.Reported event

def logRules (ns : String) (tasks : List Task) :
    Rules engineInterface (List (Event engineInterface)) :=
  .recording (LogsReported ns tasks)

/-- This is known of logs: nothing if no task is under way. -/
def Known (ns : String) (now : Option Noted) (log : List (Event engineInterface)) : Prop :=
  noted ns log = now

variable {ns : String} {tasks : List Task} {log : List (Event engineInterface)} {now : Option Noted}
  {n : Noted} {task : Task}

/-! ### Single requests -/

section Requests

variable {request : Request} {reply : Reply}

theorem noted_sent (log : List (Event engineInterface)) (request : Request) (reply : Reply) :
    noted ns (log ++ [ofClusterEvent ⟨.send request, reply⟩]) = (sentFor log).map fun p =>
      ⟨p.1, logTexts ns (p.2 ++ [⟨request, reply⟩]), lastText ns (p.2 ++ [⟨request, reply⟩])⟩ := by
  rw [noted, sentFor_concat]
  cases sentFor log <;> rfl

theorem known_silent (h : request.Silent ns) :
    (logRules ns tasks).within.Preserves (Known ns now) (.send request) := by
  intro log known
  refine ⟨fun reads => absurd reads h.1, fun reply log' moved => ?_⟩
  obtain rfl : log' = _ := moved
  rw [Known, noted_sent, ← known, noted]
  cases sentFor log with
  | none => rfl
  | some p =>
      obtain ⟨texts, last⟩ := Request.Silent.texts (x := ⟨request, reply⟩) (l := p.2) h
      simp [texts, last]

theorem known_pause (span : Millis) :
    (logRules ns tasks).within.Preserves (Known ns now) (.pause span) := by
  intro log known
  refine ⟨trivial, fun tripped log' moved => ?_⟩
  obtain rfl : log' = _ := moved
  rw [Known, ← known, noted, noted, sentFor_concat]
  rfl

theorem step_read (pod : String) :
    (logRules ns tasks).within.Step (Known ns (some n)) (.send (.get (podLogPath ns pod)))
      fun reply => Known ns (some (n.read reply)) := by
  have reads : (Request.get (podLogPath ns pod)).ReadsLog ns := ⟨pod, rfl⟩
  intro log known
  refine ⟨fun _ => Option.isSome_iff_exists.2 ⟨n, known⟩, fun reply log' moved => ?_⟩
  obtain rfl : log' = _ := moved
  obtain ⟨p, hp, rfl⟩ := Option.map_eq_some_iff.1 known
  obtain ⟨texts, last⟩ := reads.texts (x := ⟨.get (podLogPath ns pod), reply⟩) (l := p.2)
  rw [Known, noted_sent, hp]
  simp [texts, last, Noted.read]

theorem step_postBatch (document : Json) :
    (logRules ns tasks).within.Step (Known ns (some n))
      (.send (.post (ResourceKind.batchJob.collectionPath ns) document))
      fun _ => Known ns (some { n with last := none }) := by
  have posts : (Request.post (ResourceKind.batchJob.collectionPath ns) document).PostsBatch ns :=
    ⟨document, rfl⟩
  intro log known
  refine ⟨fun reads => absurd reads posts.not_readsLog, fun reply log' moved => ?_⟩
  obtain rfl : log' = _ := moved
  obtain ⟨p, hp, rfl⟩ := Option.map_eq_some_iff.1 known
  obtain ⟨texts, last⟩ := posts.texts (l := p.2)
    (x := ⟨.post (ResourceKind.batchJob.collectionPath ns) document, reply⟩)
  rw [Known, noted_sent, hp]
  simp [texts, last]

end Requests

/-! ### Objects -/

section Objects

variable {t : Template} {r : Resource} {w : Watch}

theorem clearing_known (t : Template) :
    Resource.Clearing (logRules ns tasks).within ns t (Known ns now) (Known ns now) :=
  Resource.Clearing.of_preserves (known_silent (Request.silent_delete _))
    (fun selector _ => known_silent (Request.silent_listPods selector))
    fun _ _ _ => known_silent (Request.silent_delete _)

theorem create_known (ht : r.template = t) (hk : t.kind ≠ .batchJob) (known : Known ns now log) :
    MeetsWith (logRules ns tasks).within (Resource.create ns true w) r log
      (fun _ r log => r.template = t ∧ ∃ object, r.observed = some object ∧ Known ns now log)
      (fun _ r log => r.template = t ∧ Known ns now log) :=
  Resource.meetsWith_create_of_preserves (known_silent (Request.silent_post hk _))
    (known_silent (Request.silent_look _ _))
    (fun selector _ => known_silent (Request.silent_listPods selector)) known_pause
    (fun _ => clearing_known t) ht known

/-- A batch job that is created has no logs yet. -/
theorem create_batch (ht : r.template = t) (hk : t.kind = .batchJob)
    (known : Known ns (some n) log) :
    MeetsWith (logRules ns tasks).within (Resource.create ns true w) r log
      (fun _ r log => r.template = t ∧ ∃ object, r.observed = some object ∧
        Known ns (some { n with last := none }) log)
      (fun _ r log => r.template = t ∧ Known ns (some { n with last := none }) log) := by
  refine Resource.meetsWith_create_of_step ?_ ?_
    (known_silent (Request.silent_look _ _))
    (fun selector _ => known_silent (Request.silent_listPods selector)) known_pause
    (fun _ => clearing_known t) ht known
  · rw [hk]
    exact step_postBatch t.document
  · rw [hk]
    exact step_postBatch t.document

theorem last_of_unread (h : n.last = none) : { n with last := none } = n := by
  rw [← h]

theorem readLog_known (ht : r.template = t) (unread : r.pod = none → n.last = none)
    (known : Known ns (some n) log) :
    MeetsWith (logRules ns tasks).within (Resource.readLog ns) r log
      (fun text r' log => r'.template = t ∧ (r'.pod = none → text = none) ∧
        Known ns (some { n with texts := n.texts ++ text.toList, last := text }) log)
      (fun _ r' log => r'.template = t ∧ Known ns (some { n with last := none }) log) := by
  rw [Resource.readLog, meetsWith_get_bind]
  cases hp : r.pod with
  | none =>
      refine ⟨ht, fun _ => rfl, ?_⟩
      simpa [last_of_unread (unread hp)] using known
  | some pod =>
      refine Managing.meetsWith_ofCall.2 (Calling.meetsOr_orMissing.2 (meetsOr_bind.2
        (Calling.meetsOr_send.2 ?_)))
      have reading : (logRules ns tasks).within.Step (Known ns (some n)) _ _ := step_read pod
      obtain ⟨allowed, step⟩ := reading log known
      refine ⟨allowed, fun reply log' moved => ?_⟩
      have known' := step reply log' moved
      cases reply with
      | ok document => exact ⟨ht, by simp [hp], known'⟩
      | error cause =>
          have nothing : Known ns (some { n with last := none }) log' := by
            simpa [Noted.read, logText] using known'
          simp only [Ending]
          split
          · exact ⟨ht, by simp, by simpa using nothing⟩
          · exact ⟨ht, nothing⟩

/-- Reading the logs of an object gives what the request gave, if one was made. None is made only
if no pod is known, and then none was made before. -/
theorem logs_known (unread : r.pod = none → n.last = none) (known : Known ns (some n) log) :
    MeetsWith (logRules ns tasks).within (Resource.logs ns) r log
      (fun text r' log => r'.template = r.template ∧ (r'.pod = none → text = none) ∧
        Known ns (some { n with texts := n.texts ++ text.toList, last := text }) log)
      (fun _ r' log => r'.template = r.template ∧ Known ns (some { n with last := none }) log) := by
  rw [Resource.logs, meetsWith_get_bind]
  split
  · rename_i unknown
    have silent := unread (Option.isNone_iff_eq_none.1 unknown)
    refine meetsWith_bind.2 ((Resource.meetsWith_findPod (t := r.template)
      (fun _ => Known ns (some n)) (fun selector _ => known_silent
        (Request.silent_listPods selector)) rfl known).mono (fun _ r' log found => ?_)
      fun _ r' log lost => ?_)
    · obtain ⟨⟨ht, -⟩, _, known, -⟩ := found
      exact readLog_known ht (fun _ => silent) known
    · obtain ⟨⟨ht, -⟩, _, known, -⟩ := lost
      exact ⟨ht, by rwa [last_of_unread silent]⟩
  · exact readLog_known rfl unread known

end Objects

/-! ### Images -/

section Images

variable {b : ImageBuild} {w : Watch}

theorem buildLogs_known (unread : b.build.pod = none → n.last = none)
    (known : Known ns (some n) log) :
    ((ImageBuild.logs ns).run b).Meets (logRules ns tasks).within log fun p log =>
      p.2.build.template = b.build.template ∧ (p.2.build.pod = none → p.1 = none) ∧
        Known ns (some { n with texts := n.texts ++ p.1.toList, last := p.1 }) log := by
  have read : MeetsWith (logRules ns tasks).within (ImageBuild.onBuild (Resource.logs ns)) b log
      (fun text b' log => b'.build.template = b.build.template ∧ (b'.build.pod = none → text = none) ∧
        Known ns (some { n with texts := n.texts ++ text.toList, last := text }) log)
      fun _ b' log => b'.build.template = b.build.template ∧
        Known ns (some { n with last := none }) log :=
    ImageBuild.meetsWith_onBuild.2 (logs_known unread known)
  refine Script.meets_bind.2 (Script.Meets.mono read fun p log hp => ?_)
  obtain ⟨result, b'⟩ := p
  cases result with
  | ok text => exact hp
  | error cause =>
      obtain ⟨ht, known⟩ := hp
      exact ⟨ht, fun _ => rfl, by simpa using known⟩

/-- The last reading is of a build whose pod is known. -/
def BuildRead (ns : String) (task : Task) (b : ImageBuild) (log : List (Event engineInterface)) : Prop :=
  ∃ texts last, (b.build.pod = none → last = none) ∧ Known ns (some ⟨task, texts, last⟩) log

theorem BuildRead.unread (known : Known ns (some ⟨task, [], none⟩) log) : BuildRead ns task b log :=
  ⟨_, _, fun _ => rfl, known⟩

theorem buildFor_known (hb : b.build.template.kind ≠ .batchJob)
    (known : Known ns (some ⟨task, [], none⟩) log) :
    MeetsWith (logRules ns tasks).within (ImageBuild.buildFor ns w) b log
      (fun built _ log => ∃ last, Known ns (some ⟨task, built.logs.toList, last⟩) log)
      (fun _ b' log => b'.build.template = b.build.template ∧ BuildRead ns task b' log) := by
  rw [ImageBuild.buildFor, meetsWith_get_bind]
  cases b.stream.observed.bind ImageStreamTemplate.repository? with
  | none => exact ⟨rfl, .unread known⟩
  | some repository =>
      dsimp only
      rw [meetsWith_bind, ImageBuild.meetsWith_onBuild]
      refine (create_known rfl hb known).mono (fun _ build log made => ?_)
        fun _ build log unmade => ⟨unmade.1, .unread unmade.2⟩
      obtain ⟨ht, -, -, known⟩ := made
      rw [meetsWith_bind, meetsWith_liftM_state]
      refine Script.Meets.mono (buildLogs_known (fun _ => rfl) known) fun p log read => ?_
      obtain ⟨text, b'⟩ := p
      obtain ⟨ht', unread, known⟩ := read
      rw [meetsWith_bind, ImageBuild.cleanup, ImageBuild.meetsWith_onBuild]
      refine (Resource.meetsWith_delete_of_removeAll
        ((clearing_known _).removeAll rfl known)).mono (fun _ r log gone => ⟨text, gone.2⟩)
        fun _ r log left => ?_
      rw [left.1]
      exact ⟨ht'.trans ht, _, _, unread, left.2⟩

/-- An image comes with all that was read of its build. Where there is none, the last reading stands
as long as the pod of the build is known. -/
theorem image_known (hs : b.stream.template.kind ≠ .batchJob) (hb : b.build.template.kind ≠ .batchJob)
    (known : Known ns (some ⟨task, [], none⟩) log) :
    MeetsWith (logRules ns tasks).within (ImageBuild.run ns w) b log
      (fun built _ log => ∃ last, Known ns (some ⟨task, built.logs.toList, last⟩) log)
      (fun _ b' log => b'.build.template = b.build.template ∧ BuildRead ns task b' log) := by
  have look : (logRules ns tasks).within.Preserves (Known ns (some ⟨task, [], none⟩))
      (.send (.get (b.stream.path ns))) := known_silent (Request.silent_look _ _)
  rw [ImageBuild.run, meetsWith_get_bind, meetsWith_bind, meetsWith_mk_liftM]
  refine (ImageBuild.meetsOr_existingImage_of_preserves look known).mono
    (fun found log known => ?_) fun _ log known => ⟨rfl, .unread known⟩
  cases found with
  | some image => exact ⟨none, known⟩
  | none =>
      rw [meetsWith_bind, ImageBuild.meetsWith_onStream]
      refine (create_known rfl hs known).mono (fun _ stream log made => ?_)
        fun _ _ log unmade => ⟨rfl, .unread unmade.2⟩
      obtain ⟨-, object, -, known⟩ := made
      rw [meetsWith_get_bind, meetsWith_bind, meetsWith_mk_liftM]
      refine (ImageBuild.meetsOr_awaitPeers_of_preserves known_pause
        (known_silent (Request.silent_list _ _)) (known_silent (Request.silent_look _ _))
        known).mono (fun found log known => ?_) fun _ log known => ⟨rfl, .unread known⟩
      cases found with
      | some image => exact ⟨none, known⟩
      | none => exact buildFor_known hb known

end Images

/-! ### A task -/

/-- The error of a task carries the logs that it is given, unless the task was cancelled. -/
theorem logs_taskError (task : Task) (logs : Option String) (cause : LifecycleError)
    (h : (taskError task logs cause).isCancelled = false) : (taskError task logs cause).logs? = logs := by
  unfold taskError at h ⊢
  split
  · rename_i cancelled
    rw [if_pos cancelled] at h
    cases h
  · rfl

/-- What is known of the logs of a task by what carrying it out ends with. -/
def Noted.Ends (n : Noted) : Except EngineError TaskOutcome → Prop
  | .ok outcome => ∀ text ∈ n.texts, KeptIn outcome.allLogs text
  | .error error => error.isCancelled = false → error.logs? = n.last

/-- A task came to an error that carries the last logs that were read. -/
def Fails (ns : String) (task : Task) (error : EngineError) (log : List (Event engineInterface)) :
    Prop :=
  ∃ n : Noted, Known ns (some n) log ∧ n.task = task ∧
    (error.isCancelled = false → error.logs? = n.last)

section Tasks

variable {e : Engine} {jobId : String}

theorem buildImage_known (known : Known e.ns (some ⟨task, [], none⟩) log) :
    MeetsOr (logRules e.ns tasks) (e.buildImage jobId task) log
      (fun built log => ∃ last, Known e.ns (some ⟨task, built.logs.toList, last⟩) log)
      (Fails e.ns task) := by
  unfold buildImage
  cases hs : e.catalog.get? task.processId with
  | none => exact ⟨_, known, rfl, fun _ => rfl⟩
  | some spec =>
      refine meets_ofCluster.2 (Script.meets_bind.2 (Script.Meets.mono
        (image_known nofun nofun known) fun p log hp => ?_))
      obtain ⟨result, b⟩ := p
      cases result with
      | ok built => exact hp
      | error cause =>
          obtain ⟨-, texts, last, unread, known⟩ := hp
          refine Script.meets_bind.2 (Script.Meets.mono (buildLogs_known unread known)
            fun p log read => ?_)
          obtain ⟨text, b'⟩ := p
          obtain ⟨-, -, known⟩ := read
          refine Script.meets_bind.2 (Script.Meets.mono
            (ImageBuild.meets_cleanup (clearing_known _) ⟨rfl, rfl, known⟩) fun p log held => ?_)
          exact ⟨_, held.2.2, rfl, logs_taskError task text cause⟩

theorem deploy_known {image : String} {config : Resource} {output : HeldVolume Resource}
    {inputs : List (HeldVolume Resource)} (known : Known e.ns (some n) log) :
    MeetsOr (logRules e.ns tasks) (e.deploy jobId n.task image config output inputs) log
      (fun found log =>
        Known e.ns (some { n with texts := n.texts ++ found.1.toList, last := found.1 }) log)
      (Fails e.ns n.task) := by
  have discard (batch : Resource) {log : List (Event engineInterface)} {now : Option Noted}
      (known : Known e.ns now log) :
      ((Resource.delete e.ns).run.run batch).Meets (logRules e.ns tasks).within log
        fun _ log => Known e.ns now log :=
    Script.Meets.mono (Resource.meets_delete (clearing_known _) rfl known) fun _ _ hp => hp.2
  refine meets_ofCluster.2 (Script.meets_bind.2 (Script.Meets.mono
    (create_batch rfl rfl known) fun p log hp => ?_))
  obtain ⟨created, batch⟩ := p
  have known : Known e.ns (some { n with last := none }) log := by
    cases created with
    | ok _ => exact hp.2.choose_spec.2
    | error cause => exact hp.2
  refine Script.meets_bind.2 (Script.Meets.mono (logs_known (fun _ => rfl) known) fun p log hp => ?_)
  obtain ⟨read, batch'⟩ := p
  have known : Known e.ns (some { n with
      texts := n.texts ++ read.toOption.join.toList, last := read.toOption.join }) log := by
    cases read with
    | ok text => exact hp.2.2
    | error cause => simpa [Except.toOption] using hp.2
  cases created with
  | ok _ =>
      refine Script.meets_bind.2 (Script.Meets.mono (meets_metrics
        (fun path => known_silent (Request.silent_measure path)) known) fun found log known => ?_)
      refine Script.meets_bind.2 (Script.meets_pure.2 ?_)
      exact Script.meets_bind.2 (Script.Meets.mono (discard batch' known) fun _ _ known => known)
  | error cause =>
      refine Script.meets_bind.2 (Script.meets_pure.2 ?_)
      exact Script.meets_bind.2 (Script.Meets.mono (discard batch' known) fun _ _ known =>
        ⟨_, known, rfl, logs_taskError n.task _ cause⟩)

theorem execute_known {output : HeldVolume Resource} {config : Resource}
    {inputs : List (HeldVolume Resource)} (hv : output.resource.template.kind ≠ .batchJob)
    (hc : config.template.kind ≠ .batchJob) (known : Known e.ns (some ⟨task, [], none⟩) log) :
    (e.execute jobId task output config inputs).Meets (logRules e.ns tasks) log fun p log =>
      p.2.producer = output.producer ∧
        ∃ n, Known e.ns (some n) log ∧ n.task = task ∧ n.Ends p.1 := by
  let Done (outcome : TaskOutcome) (log : List (Event engineInterface)) : Prop :=
    ∃ n, Known e.ns (some n) log ∧ n.task = task ∧ n.Ends (.ok outcome)
  have unread {log : List (Event engineInterface)} (cause : LifecycleError)
      (known : Known e.ns (some ⟨task, [], none⟩) log) : Fails e.ns task (taskError task none cause) log :=
    ⟨_, known, rfl, logs_taskError task none cause⟩
  refine Script.meets_bind.2 (Script.Meets.mono (meets_manage.2 (create_known rfl hv known))
    fun p log hp => ?_)
  obtain ⟨made, resource⟩ := p
  refine Script.meets_bind.2 (Script.Meets.mono
    (show MeetsOr (logRules e.ns tasks) _ log Done (Fails e.ns task) from ?_) fun result log h => ?_)
  · refine meetsOr_bind.2 ?_
    cases made with
    | error cause => exact unread cause hp.2
    | ok _ =>
        change MeetsOr _ (liftM _ >>= _) log Done _
        refine meetsOr_bind.2 (meetsOr_liftM.2 (Script.Meets.mono
          (meets_manage.2 (create_known rfl hc hp.2.choose_spec.2)) fun p log hp => ?_))
        obtain ⟨made, config'⟩ := p
        refine meetsOr_bind.2 ?_
        cases made with
        | error cause => exact unread cause hp.2
        | ok _ =>
            refine meetsOr_bind.2 ((buildImage_known hp.2.choose_spec.2).mono
              (fun built log ⟨last, known⟩ => ?_) fun _ _ fails => fails)
            refine meetsOr_bind.2 ((deploy_known known).mono (fun found log known => ?_)
              fun _ _ fails => fails)
            exact ⟨_, known, rfl, TaskOutcome.keptIn_allLogs
              ⟨built.image, built.reused, built.logs, found.1, found.2⟩⟩
  · refine ⟨rfl, ?_⟩
    cases result <;> exact h

theorem runTask_known {arena : Arena Resource} (vacant : arena.place task.seqNum = some none)
    (known : Known e.ns (some ⟨task, [], none⟩) log) :
    (e.runTask jobId task arena).Meets (logRules e.ns tasks) log fun p log =>
      (∀ q, q ≠ task.seqNum → arena.place q = some none → p.2.place q = some none) ∧
        ∃ n, Known e.ns (some n) log ∧ n.task = task ∧ n.Ends p.1 := by
  have discard (r : Resource) {log : List (Event engineInterface)} {now : Option Noted}
      (known : Known e.ns now log) :
      (e.discard r).Meets (logRules e.ns tasks) log fun _ log => Known e.ns now log :=
    meets_discard (clearing_known _) rfl known
  unfold runTask
  cases htake : arena.take task.seqNum task.dependsOn with
  | error cause => exact ⟨fun _ _ hq => hq, _, known, rfl, fun _ => rfl⟩
  | ok taken =>
      obtain ⟨inputs, left⟩ := taken
      have free (q : Nat) (hq : arena.place q = some none) : left.place q = some none := by
        rw [(Arena.take_ok htake).2.2, hq]
        split <;> rfl
      refine Script.meets_bind.2 (Script.Meets.mono (execute_known nofun nofun known)
        fun p log ⟨producer, n, known, own, ends⟩ => ?_)
      obtain ⟨result, output⟩ := p
      refine Script.meets_bind.2 (Script.Meets.mono (discard _ known) fun _ log known => ?_)
      refine Script.meets_bind.2 (Script.Meets.mono
        (meets_discardAll (fun v _ _ known => discard v.resource known) known) fun _ log known => ?_)
      cases result with
      | error cause =>
          exact Script.meets_bind.2 (Script.Meets.mono (discard _ known) fun _ log known =>
            ⟨fun q _ hq => free q hq, n, known, own, ends⟩)
      | ok outcome =>
          have producer : output.producer = task.seqNum := producer
          -- The place of the output is empty, so it is registered.
          obtain ⟨arena', registered, places⟩ :=
            Arena.register_of_vacant (a := left) (v := output) (by rw [producer]; exact free _ vacant)
          simp only [registered]
          refine ⟨fun q hne hq => ?_, n, known, own, ends⟩
          rw [places, producer, if_neg hne]
          exact free q hq

end Tasks

/-! ### A run -/

section Run

variable {e : Engine} {jobId : String} {event : TaskEvent}

/-- What is known after a report. -/
def opening : TaskEvent → Except EngineError Unit → Option Noted
  | .started task, .ok _ => some ⟨task, [], none⟩
  | _, _ => none

theorem noted_report (log : List (Event engineInterface)) (event : TaskEvent)
    (answer : Except EngineError Unit) : noted ns (log ++ [told event answer]) = opening event answer := by
  rw [noted, sentFor_concat]
  cases event <;> cases answer <;> rfl

theorem report_at_rest (known : Known ns none log) (h : ∀ task, event = .started task → task ∈ tasks) :
    (report event).Meets (logRules ns tasks) log fun answer log => Known ns (opening event answer) log := by
  refine meets_report.2 ⟨?_, fun answer log' moved => ?_⟩
  · change match noted ns log with | none => _ | some n => _
    rw [show noted ns log = none from known]
    exact h
  · obtain rfl : log' = _ := moved
    exact noted_report log event answer

theorem report_end (known : Known ns (some n) log) (h : n.Reported event) :
    (report event).Meets (logRules ns tasks) log fun _ log => Known ns none log := by
  refine meets_report.2 ⟨?_, fun answer log' moved => ?_⟩
  · change match noted ns log with | none => _ | some n => _
    rw [show noted ns log = some n from known]
    exact h
  · obtain rfl : log' = _ := moved
    refine (noted_report log event answer).trans ?_
    cases h <;> rfl

theorem turn_known {arena : Arena Resource} {next : TaskOutcome → Arena Resource →
      List (Event engineInterface) → Prop} (ht : task ∈ tasks)
    (vacant : arena.place task.seqNum = some none) (known : Known e.ns none log)
    (hnext : ∀ outcome arena' log, (∀ q, q ≠ task.seqNum → arena.place q = some none →
      arena'.place q = some none) → Known e.ns none log → next outcome arena' log) :
    Turn (logRules e.ns tasks) e jobId task arena log next fun _ log => Known e.ns none log := by
  have looked : (logRules e.ns tasks).within.Preserves (Known e.ns none) (.pause 0) := known_pause 0
  obtain ⟨allowed, kept⟩ := looked log known
  refine ⟨allowed, fun tripped log moved => ?_⟩
  have known := kept tripped log moved
  cases tripped with
  | true =>
      change (report _).Meets (logRules e.ns tasks) log _
      refine Script.Meets.mono (report_at_rest known fun t heq => by cases heq)
        fun answer log known => ?_
      cases answer <;> exact known
  | false =>
      change (report _).Meets (logRules e.ns tasks) log _
      refine Script.Meets.mono (report_at_rest known fun t heq => ?_) fun started log known => ?_
      · cases heq
        exact ht
      cases started with
      | error cause => exact known
      | ok _ =>
          refine Script.Meets.mono (runTask_known vacant known) fun p log h => ?_
          obtain ⟨places, n, underway, rfl, ends⟩ := h
          obtain ⟨result, arena'⟩ := p
          cases result with
          | error cause => exact report_end underway (.failed cause ends)
          | ok outcome =>
              refine Script.Meets.mono (report_end underway (.finished outcome ends))
                fun finished log known => ?_
              cases finished with
              | error cause => exact known
              | ok _ => exact hnext outcome arena' log places known

/-- Throughout a run logs are requested for tasks under way and reported when these end, and at the
end of the run no task is under way. -/
theorem run_reportsLogs :
    (e.run jobId tasks).Meets (logRules e.ns tasks) [] fun _ log => Known e.ns none log := by
  have perm := ordered_perm tasks
  let inv (_ : List TaskOutcome) (rest : List Task) (arena : Arena Resource)
      (log : List (Event engineInterface)) : Prop :=
    rest ⊆ tasks ∧ (rest.map (·.seqNum)).Nodup ∧
      (∀ t ∈ rest, arena.place t.seqNum = some none) ∧ Known e.ns none log
  have discards (arena : Arena Resource) {log : List (Event engineInterface)}
      (known : Known e.ns none log) :
      (arena.volumes.forM fun v => e.discard v.resource).Meets (logRules e.ns tasks) log
        fun _ log => Known e.ns none log :=
    meets_discardAll (fun v _ _ known => meets_discard (clearing_known _) rfl known) known
  have ends : (e.run jobId tasks).Meets (logRules e.ns tasks) []
      (Ending (fun _ log => Known e.ns none log) fun _ log => Known e.ns none log) := by
    refine meets_run inv (fun _ log => Known e.ns none log) (fun _ _ => rfl) (fun arena planned => ?_)
      (fun past task rest arena log hinv => ?_) (fun _ arena log hinv => discards arena hinv.2.2.2)
      fun _ arena log known => discards arena known
    · obtain ⟨distinct, places⟩ := Arena.plan_ok planned
      rw [List.map_map] at distinct places
      refine ⟨perm.subset, distinct, fun t ht => ?_, rfl⟩
      rw [places, if_pos]
      exact List.mem_map.2 ⟨t, ht, rfl⟩
    · obtain ⟨hsub, distinct, vacant, known⟩ := hinv
      obtain ⟨ht, hrest⟩ := List.cons_subset.1 hsub
      obtain ⟨hnew, distinct⟩ := List.nodup_cons.1 distinct
      refine turn_known ht (vacant task List.mem_cons_self) known fun outcome arena' log places known =>
        ⟨hrest, distinct, fun t ht => ?_, known⟩
      refine places _ (fun heq => hnew (List.mem_map.2 ⟨t, ht, heq⟩)) ?_
      exact vacant t (List.mem_cons_of_mem _ ht)
  refine Script.Meets.mono ends fun result log known => ?_
  cases result <;> exact known

/-! ### What was read -/

/-- What was sent for the task that is under way was sent since it was started. -/
theorem sentFor_eq_some {sent : List Exchange} (h : sentFor log = some (task, sent)) :
    ∃ earlier work, log = earlier ++ told (.started task) (.ok ()) :: work ∧ calls work = [] ∧
      traffic work = sent := by
  induction log using List.reverseRecOn generalizing sent with
  | nil => cases h
  | append_singleton log event ih =>
      rw [sentFor_concat] at h
      obtain ⟨op, answer⟩ := event
      cases op with
      | report event =>
          cases event with
          | started task' =>
              cases answer with
              | error cause => cases h
              | ok _ =>
                  cases h
                  exact ⟨log, [], rfl, rfl, rfl⟩
          | finished _ _ | failed _ _ => cases h
      | cluster op =>
          cases op with
          | send request =>
              obtain ⟨p, hp, heq⟩ := Option.map_eq_some_iff.1 h
              cases heq
              obtain ⟨earlier, work, rfl, quiet, hsent⟩ := ih hp
              refine ⟨earlier, work ++ [⟨.cluster (.send request), answer⟩], by simp, ?_, ?_⟩
              · rw [calls_append, quiet]
                rfl
              · rw [traffic_append, hsent]
                rfl
          | pause span =>
              obtain ⟨earlier, work, rfl, quiet, hsent⟩ := ih h
              refine ⟨earlier, work ++ [⟨.cluster (.pause span), answer⟩], by simp, ?_, ?_⟩
              · rw [calls_append, quiet]
                rfl
              · rw [traffic_append, hsent]
                exact List.append_nil _

theorem sentFor_append {sent : List Exchange} {work : List (Event engineInterface)}
    (h : sentFor log = some (task, sent)) (quiet : calls work = []) :
    sentFor (log ++ work) = some (task, sent ++ traffic work) := by
  induction work using List.reverseRecOn with
  | nil => simpa using h
  | append_singleton work event ih =>
      rw [calls_append, List.append_eq_nil_iff] at quiet
      rw [← List.append_assoc, sentFor_concat, ih quiet.1]
      obtain ⟨op, answer⟩ := event
      cases op with
      | report event => cases quiet.2
      | cluster op => cases op <;> simp [underwayStep, traffic, exchange?]

/-- Either nothing is reported, or there is a first report. -/
theorem quiet_or_told (log : List (Event engineInterface)) :
    calls log = [] ∨ ∃ work event answer later,
      log = work ++ told event answer :: later ∧ calls work = [] := by
  induction log with
  | nil => exact .inl rfl
  | cons x log ih =>
      obtain ⟨op, answer⟩ := x
      cases op with
      | report event => exact .inr ⟨[], event, answer, log, rfl, rfl⟩
      | cluster op =>
          obtain quiet | ⟨work, event, answer', later, rfl, quiet⟩ := ih
          · exact .inl quiet
          · exact .inr ⟨_ :: work, event, answer', later, rfl, quiet⟩

/-- Logs are read for a task that was started, and the next that is reported is how it ended. -/
theorem ran_reads {before after : List (Event engineInterface)} {request : Request} {reply : Reply}
    {result : Except EngineError (List TaskOutcome)} (reads : request.ReadsLog e.ns)
    (ran : (e.run jobId tasks).Ran (before ++ ofClusterEvent ⟨.send request, reply⟩ :: after) result) :
    ∃ task ∈ tasks, ∃ earlier work₁ work₂ event answer later,
      before = earlier ++ told (.started task) (.ok ()) :: work₁ ∧ calls work₁ = [] ∧
      after = work₂ ++ told event answer :: later ∧ calls work₂ = [] ∧
      Noted.Reported ⟨task, logTexts e.ns (traffic work₁ ++ ⟨request, reply⟩ :: traffic work₂),
        lastText e.ns (traffic work₁ ++ ⟨request, reply⟩ :: traffic work₂)⟩ event := by
  let x : Event engineInterface := ofClusterEvent ⟨.send request, reply⟩
  have rules : (e.run jobId tasks).Meets (logRules e.ns tasks) [] fun _ log => Known e.ns none log :=
    run_reportsLogs
  -- The task is under way when its logs are read.
  have underway : (noted e.ns before).isSome = true := rules.recorded ran reads
  rw [noted, Option.isSome_map] at underway
  obtain ⟨⟨task, sent⟩, hsent⟩ := Option.isSome_iff_exists.1 underway
  obtain ⟨earlier, work₁, rfl, quiet₁, rfl⟩ := sentFor_eq_some hsent
  have since {work : List (Event engineInterface)} (quiet : calls work = []) :
      noted e.ns ((earlier ++ told (.started task) (.ok ()) :: work₁) ++ x :: work) =
        some ⟨task, logTexts e.ns (traffic work₁ ++ ⟨request, reply⟩ :: traffic work),
          lastText e.ns (traffic work₁ ++ ⟨request, reply⟩ :: traffic work)⟩ := by
    have quiet' : calls (x :: work) = [] := quiet
    rw [noted, sentFor_append hsent quiet']
    rfl
  have started : task ∈ tasks := by
    rw [List.append_assoc] at ran
    have allowed : LogsReported e.ns tasks earlier (.report (.started task)) := rules.recorded ran
    simp only [LogsReported] at allowed
    split at allowed
    · exact allowed task rfl
    · cases allowed
  obtain quiet | ⟨work₂, event, answer, later, rfl, quiet₂⟩ := quiet_or_told after
  · -- At the end of a run no task is under way.
    have known : Known e.ns none _ := rules.rest ran (Rules.path_recording _ [] _)
    rw [Known, List.nil_append, since quiet] at known
    cases known
  · refine ⟨task, started, earlier, work₁, work₂, event, answer, later, rfl, quiet₁, rfl, quiet₂, ?_⟩
    rw [← List.cons_append, ← List.append_assoc] at ran
    have allowed : LogsReported e.ns tasks _ (.report event) := rules.recorded ran
    simp only [LogsReported] at allowed
    rw [since quiet₂] at allowed
    exact allowed

end Run

end Engine
end ImageryJobs
