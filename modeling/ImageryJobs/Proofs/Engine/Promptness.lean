import ImageryJobs.Proofs.Engine.Moments
import ImageryJobs.Proofs.Engine.Tasks
import ImageryJobs.Proofs.Orders

/-!
A run stops promptly. Under the rules of the count, whatever creates something begins when something
may be created, and comes back to that only after a look at the object; a look follows a pause that
was not cut short. So a run that is cancelled creates one object more at most, and if it ends well
all the same, the look that decided it was still to be made.
-/

namespace ImageryJobs
namespace Engine

open EngineScript

@[simp] theorem verb_get (path : String) : (Request.get path).verb = .get := rfl

@[simp] theorem verb_delete (path : String) : (Request.delete path).verb = .delete := rfl

variable {ns : String} {t : Template} {a a' : Alarm} {event : Event engineInterface}
  {s : Alarm × List (Event engineInterface)} {K : List (Event engineInterface) → Prop}

/-! ### Single events -/

theorem Alarm.Clear.of_moves (h : a.Clear ∨ a = .checked) (moved : a.Moves event a')
    (full : ¬ IsFullPause event) (none : created [event] = 0) : a'.Clear := by
  obtain (rfl | rfl) | rfl := h
  · exact moved.resolve_left (fun h => full h.1) |>.2
  · obtain ⟨-, rfl⟩ := moved
    rw [none]
    exact .inr rfl
  · exact moved.resolve_left (fun h => full h.1) |>.2

theorem Alarm.Moves.of_full (moved : a.Moves event a') (full : IsFullPause event) : a' = .checked := by
  cases a with
  | raised n => exact absurd full moved.1
  | silent | checked =>
      obtain ⟨-, h⟩ | ⟨h, -⟩ := moved
      · exact h
      · exact absurd full h

theorem created_send {request : Request} {reply : Reply} (h : request.verb ≠ .post) :
    created [⟨.cluster (.send request), reply⟩] = 0 := by
  simp [created, traffic, exchange?, h]

/-- What creating nothing leaves as it is. -/
def Lasting (K : List (Event engineInterface) → Prop) : Prop :=
  ∀ log event, created [event] = 0 → K log → K (log ++ [event])

/-- Something may be created, and the log is as said. -/
def Ready (K : List (Event engineInterface) → Prop) (s : Alarm × List (Event engineInterface)) : Prop :=
  s.1.Clear ∧ K s.2

theorem lasting_true : Lasting fun _ => True := fun _ _ _ _ => trivial

/-- A request that creates nothing may be sent at any time. -/
theorem prompt_send {request : Request} (h : request.verb ≠ .post) :
    prompt.within.Preserves (fun _ => True) (.send request) :=
  fun _ _ => ⟨fun hp => absurd hp h, fun _ _ _ => trivial⟩

theorem ready_send {request : Request} (h : request.verb ≠ .post) (hk : Lasting K) :
    prompt.within.Preserves (Ready K) (.send request) := by
  refine fun s hs => ⟨fun hp => absurd hp h, fun reply s' moved => ?_⟩
  obtain ⟨moves, log⟩ : s.1.Moves _ s'.1 ∧ s'.2 = _ := moved
  refine ⟨Alarm.Clear.of_moves (.inl hs.1) moves id (created_send h), ?_⟩
  rw [log]
  exact hk _ _ (created_send h) hs.2

theorem ready_clearing (hk : Lasting K) :
    Resource.Clearing prompt.within ns t (Ready K) (Ready K) :=
  .of_preserves (ready_send (by simp) hk) (fun _ _ => ready_send (by simp) hk)
    fun _ _ _ => ready_send (by simp) hk

variable (ns t) in
theorem prompt_clearing :
    Resource.Clearing prompt.within ns t (fun _ => True) fun _ => True :=
  .of_preserves (prompt_send (by simp)) (fun _ _ => prompt_send (by simp))
    fun _ _ _ => prompt_send (by simp)

/-! ### Creating an object -/

/-- A pause has just shown that the work is not cancelled. -/
def Due (s : Alarm × List (Event engineInterface)) : Prop :=
  s.1 = .checked ∧ ∃ init span, s.2 = init ++ [⟨.cluster (.pause span), false⟩]

/-- After a pause that was not cut short a look was answered, and nothing was created since. -/
def Looked (path : String) (reply : Reply) (log : List (Event engineInterface)) : Prop :=
  ∃ init span post, created post = 0 ∧ log =
    init ++ ⟨.cluster (.pause span), false⟩ :: ⟨.cluster (.send (.get path)), reply⟩ :: post

theorem lasting_looked {path : String} {reply : Reply} : Lasting (Looked path reply) := by
  intro log event quiet h
  obtain ⟨init, span, post, none, rfl⟩ := h
  refine ⟨init, span, post ++ [event], ?_, by simp⟩
  rw [created, traffic_append, List.countP_append]
  exact Nat.add_eq_zero_iff.2 ⟨none, quiet⟩

theorem prompt_pause (span : Millis) :
    prompt.within.Step (fun _ => True) (.pause span) fun (tripped : Bool) s =>
      if tripped then True else Due s := by
  refine fun s _ => ⟨trivial, fun tripped s' moved => ?_⟩
  obtain ⟨moves, log⟩ : s.1.Moves _ s'.1 ∧ s'.2 = _ := moved
  cases tripped with
  | true => trivial
  | false => exact ⟨moves.of_full rfl, s.2, span, log⟩

theorem due_get (path : String) :
    prompt.within.Step Due (.send (.get path)) fun reply => Ready (Looked path reply) := by
  intro s ⟨hs, init, span, hlog⟩
  refine ⟨nofun, fun reply s' moved => ?_⟩
  obtain ⟨moves, log⟩ : s.1.Moves _ s'.1 ∧ s'.2 = _ := moved
  refine ⟨Alarm.Clear.of_moves (.inr hs) moves id (created_send (by simp)), init, span, [], rfl, ?_⟩
  rw [log, hlog]
  simp [ofClusterEvent]

/-- An object that was created was looked at after the last time that anything was created. -/
theorem create_prompt {r : Resource} {w : Watch} (ht : r.template = t) (hs : Ready K s) :
    MeetsWith prompt.within (Resource.create ns true w) r s
      (fun _ r s => r.template = t ∧ ∃ reply pods object, r.observed = some object ∧
        t.judge reply pods = .ok (object, .ready) ∧
        Ready (Looked (t.kind.instancePath ns t.name) reply) s)
      (fun _ r _ => r.template = t ∧ True) := by
  let path := t.kind.instancePath ns t.name
  let seen (_ : Nat) (reply : Reply) (_ : Option Reply) := Ready (Looked path reply)
  have submitting : Resource.Submitting prompt.within ns t (Ready K) (fun _ => True) (fun _ => True)
      fun _ => True := by
    refine ⟨fun s hs => ?_, fun _ => ?_⟩
    · refine ⟨fun _ => hs.1, fun reply _ _ => ?_⟩
      cases reply <;> simp
    · obtain ⟨broken, gone, removing, -, -⟩ := prompt_clearing ns t
      refine ⟨broken, gone, fun _ => True, Due, Ready fun _ => True, removing, fun _ _ => trivial,
        fun _ _ _ => ⟨trivial, trivial⟩, prompt_pause, ?_, fun _ _ => trivial, fun s hs => ?_⟩
      · intro s hs
        obtain ⟨allowed, step⟩ := due_get path s hs
        refine ⟨allowed, fun reply s' moved => ?_⟩
        have clear := (step reply s' moved).1
        cases reply with
        | ok _ => trivial
        | error e =>
            dsimp only
            split
            · exact ⟨clear, trivial⟩
            · trivial
      · exact ⟨fun _ => hs.1, fun reply _ _ => by simp⟩
  have watching : ImageryJobs.Watching prompt.within ns t (fun _ _ => True) (fun _ => Due) seen
      fun _ => True :=
    ⟨fun _ => prompt_pause, fun _ => ⟨due_get path, fun _ _ _ => ready_send (by simp) lasting_looked⟩,
      fun _ _ _ _ _ _ => trivial⟩
  refine (Resource.meetsWith_create submitting watching (fun _ _ => trivial) ht hs).mono ?_ ?_
  · intro _ r s ⟨ht, _, object, ho, reply, pods, hs, _, judged⟩
    exact ⟨ht, reply, pods, object, ho, judged, hs⟩
  · exact fun _ r _ h => ⟨h.1, trivial⟩

abbrev Fresh : Alarm × List (Event engineInterface) → Prop := Ready fun _ => True

theorem create_fresh {r : Resource} {w : Watch} (ht : r.template = t) (hs : Ready K s) :
    MeetsWith prompt.within (Resource.create ns true w) r s
      (fun _ r s => r.template = t ∧ ∃ object, r.observed = some object ∧ Fresh s)
      (fun _ r _ => r.template = t ∧ True) :=
  (create_prompt ht hs).mono
    (fun _ _ _ ⟨ht, _, _, object, ho, _, hs⟩ => ⟨ht, object, ho, hs.1, trivial⟩) fun _ _ _ h => h

/-! ### A task -/

variable {e : Engine} {jobId : String} {tasks : List Task} {task : Task}

theorem existingImage_prompt {b : ImageBuild} (hs : Fresh s) :
    MeetsOr prompt.within (b.existingImage e.ns) s
      (fun found s => match found with
        | some _ => Fresh s
        | none => Fresh s) fun _ _ => True := by
  have look : (Request.get (b.stream.path e.ns)).verb ≠ .post := by simp
  refine (ImageBuild.meetsOr_existingImage_of_preserves (ready_send look lasting_true) hs).mono
    (fun found s h => ?_) fun _ _ _ => trivial
  cases found <;> exact h

/-- The wait for other builds begins with a look, after which something may be created. -/
theorem awaitPeers_prompt {b : ImageBuild} {w : Watch} (hs : Fresh s) :
    MeetsOr prompt.within (b.awaitPeers e.ns w) s
      (fun found s => match found with
        | some _ => Fresh s
        | none => Fresh s) fun _ _ => True := by
  have awaiting : ImageBuild.Awaiting prompt.within e.ns b (fun _ _ => True)
      (fun _ s => s.1.Clear ∨ s.1 = .checked) (fun _ _ => Fresh) (fun _ _ _ => Fresh)
      fun _ => True := by
    refine ⟨fun _ span s hs => ?_, fun _ s hs => ⟨nofun, fun reply s' moved => ?_⟩,
      fun _ _ => ready_send (by simp) lasting_true, fun _ _ _ _ _ _ _ _ => trivial⟩
    · obtain ⟨allowed, step⟩ := prompt_pause span s hs
      refine ⟨allowed, fun tripped s' moved => ?_⟩
      have paused := step tripped s' moved
      cases tripped with
      | true => trivial
      | false => exact .inr paused.1
    · exact ⟨Alarm.Clear.of_moves hs moved.1 id (created_send (by simp)), trivial⟩
  refine (ImageBuild.meetsOr_awaitPeers awaiting (.inl hs.1)).mono (fun found s h => ?_)
    fun _ _ _ => trivial
  obtain ⟨_, _, _, _, _, h, -⟩ := h
  cases found <;> exact h

theorem inspects_verb {request : Request} (h : Resource.Inspects ns t request) :
    request.verb ≠ .post := by
  obtain ⟨_, _, rfl⟩ | ⟨_, rfl⟩ := h <;> nofun

theorem buildImage_prompt (hs : Fresh s) :
    MeetsOr prompt (e.buildImage jobId task) s (fun _ => Fresh) fun _ _ => True := by
  refine meetsOr_buildImage (fun _ => Fresh) (fun _ => True) (fun _ => True) (fun _ => trivial)
    (fun spec _ => ?_) (fun _ _ _ h => prompt_send (inspects_verb h)) fun _ _ => prompt_clearing _ _
  refine ImageBuild.meetsWith_run Fresh (fun _ => Fresh) (fun _ => Fresh) (fun _ => Fresh)
    (fun _ _ => Fresh) (fun _ => True) (existingImage_prompt hs)
    (fun s hs => (create_fresh rfl hs).mono (fun _ _ _ h => h) fun _ _ _ _ => trivial)
    (fun _ _ s _ _ hs => awaitPeers_prompt hs) (fun _ _ _ _ => trivial)
    (fun _ _ s hs _ => (create_fresh rfl hs).mono (fun _ _ _ ⟨ht, _, _, hs⟩ => ⟨ht, hs⟩)
      fun _ _ _ h => h)
    (fun _ _ h => ready_send (inspects_verb h) lasting_true) (fun _ => ?_) rfl
  have clearing : Resource.Clearing prompt.within e.ns (buildOf jobId task spec.source) Fresh Fresh :=
    ready_clearing lasting_true
  obtain ⟨broken, gone, removing, -, hgone⟩ := clearing
  exact ⟨broken, gone, removing, fun _ _ => trivial, fun _ _ => trivial, hgone⟩

/-- After a pause that was not cut short a look showed that the task's batch job succeeded, and
nothing was created since. -/
def Decided (e : Engine) (jobId : String) (task : Task) (log : List (Event engineInterface)) : Prop :=
  ∃ init span x post, e.ShowsSucceeded jobId task x ∧ created post = 0 ∧
    log = init ++ ⟨.cluster (.pause span), false⟩ :: ⟨.cluster (.send x.request), x.reply⟩ :: post

theorem lasting_decided : Lasting (e.Decided jobId task) := by
  intro log event quiet h
  obtain ⟨init, span, x, post, shows, none, rfl⟩ := h
  refine ⟨init, span, x, post ++ [event], shows, ?_, by simp⟩
  rw [created, traffic_append, List.countP_append]
  exact Nat.add_eq_zero_iff.2 ⟨none, quiet⟩

theorem deploy_prompt {image : String} {config : Resource} {output : HeldVolume Resource}
    {inputs : List (HeldVolume Resource)} (hs : Fresh s) :
    MeetsOr prompt (e.deploy jobId task image config output inputs) s
      (fun _ => Ready (e.Decided jobId task)) fun _ _ => True := by
  refine meetsOr_deploy (Ready (e.Decided jobId task)) (fun _ => True) (Ready (e.Decided jobId task))
    (fun _ => True) rfl ((create_prompt rfl hs).mono ?_ fun _ _ _ h => h) ?_ ?_ ?_ ?_ ?_
  · intro _ r s ⟨ht, reply, pods, object, _, judged, clear, init, span, post, quiet, log⟩
    obtain ⟨document, _, rfl, hd, -, verdict⟩ := Template.judge_ok judged
    exact ⟨ht, clear, init, span, ⟨_, .ok document⟩, post,
      ⟨rfl, document, object, rfl, hd, ready_batch verdict⟩, quiet, log⟩
  · exact fun _ h => ready_send (inspects_verb h) lasting_decided
  · exact fun _ h => prompt_send (inspects_verb h)
  · exact fun _ => ready_send (by simp) lasting_decided
  · exact ready_clearing lasting_decided
  · exact prompt_clearing _ _

theorem execute_prompt {output : HeldVolume Resource} {config : Resource}
    {inputs : List (HeldVolume Resource)} (hs : Fresh s) :
    (e.execute jobId task output config inputs).Meets prompt s fun p s =>
      ∀ outcome, p.1 = .ok outcome → Ready (e.Decided jobId task) s := by
  refine Script.Meets.mono (meets_execute Fresh Fresh (fun _ => Fresh)
    (fun _ => Ready (e.Decided jobId task)) (fun _ => True)
    ((create_fresh rfl hs).mono (fun _ _ _ ⟨ht, _, _, hs⟩ => ⟨ht, hs⟩) fun _ _ _ h => h)
    (fun _ hs => (create_fresh rfl hs).mono (fun _ _ _ ⟨ht, _, _, hs⟩ => ⟨ht, hs⟩)
      fun _ _ _ _ => trivial)
    (fun _ hs => buildImage_prompt hs) fun _ _ _ _ _ _ _ _ hs => deploy_prompt hs)
    fun p s ⟨_, _, h⟩ outcome hp => ?_
  rw [hp] at h
  obtain ⟨_, -, -, h⟩ := h
  exact h

theorem discard_ready {r : Resource} (hk : Lasting K) (hs : Ready K s) :
    (e.discard r).Meets prompt s fun _ => Ready K :=
  meets_discard (ready_clearing hk) rfl hs

theorem discard_prompt {r : Resource} : (e.discard r).Meets prompt s fun _ _ => True :=
  meets_discard (prompt_clearing _ _) rfl trivial

theorem discardAll_ready {volumes : List (HeldVolume Resource)} (hk : Lasting K) (hs : Ready K s) :
    (volumes.forM fun v => e.discard v.resource).Meets prompt s fun _ => Ready K :=
  meets_discardAll (fun _ _ _ hs => discard_ready hk hs) hs

theorem discardAll_prompt {volumes : List (HeldVolume Resource)} :
    (volumes.forM fun v => e.discard v.resource).Meets prompt s fun _ _ => True :=
  meets_discardAll (fun _ _ _ _ => discard_prompt) trivial

theorem runTask_prompt {arena : Arena Resource} (hs : Fresh s) :
    (e.runTask jobId task arena).Meets prompt s fun p s =>
      ∀ outcome, p.1 = .ok outcome → Ready (e.Decided jobId task) s := by
  unfold runTask
  cases arena.take task.seqNum task.dependsOn with
  | error cause => nofun
  | ok taken =>
      refine Script.meets_bind.2 (Script.Meets.mono (execute_prompt hs) fun p s hp => ?_)
      obtain ⟨result, output⟩ := p
      cases result with
      | error cause =>
          refine Script.meets_bind.2 (Script.Meets.mono discard_prompt fun _ s _ => ?_)
          refine Script.meets_bind.2 (Script.Meets.mono discardAll_prompt fun _ s _ => ?_)
          exact Script.meets_bind.2 (Script.Meets.mono discard_prompt fun _ _ _ => nofun)
      | ok outcome =>
          refine Script.meets_bind.2 (Script.Meets.mono
            (discard_ready lasting_decided (hp outcome rfl)) fun _ s hs => ?_)
          refine Script.meets_bind.2 (Script.Meets.mono (discardAll_ready lasting_decided hs)
            fun _ s hs => ?_)
          dsimp only
          cases taken.2.register output with
          | error cause => nofun
          | ok arena' => exact fun _ _ => hs

/-! ### A run -/

/-- The last of the tasks that are done was seen to succeed, if there is one. -/
def LastDecided (e : Engine) (jobId : String) (done : List Task)
    (log : List (Event engineInterface)) : Prop :=
  ∀ task, done.getLast? = some task → e.Decided jobId task log

theorem lasting_lastDecided {done : List Task} : Lasting (e.LastDecided jobId done) :=
  fun log event quiet h task ht => lasting_decided log event quiet (h task ht)

theorem report_ready {event : TaskEvent} (hk : Lasting K) (hs : s.1.Clear ∨ s.1 = .checked)
    (hlog : K s.2) (allowed : s.1.Allows (.report event)) :
    (report event).Meets prompt s fun _ => Ready K := by
  refine meets_report.2 ⟨allowed, fun answer s' moved => ?_⟩
  obtain ⟨moves, log⟩ : s.1.Moves _ s'.1 ∧ s'.2 = _ := moved
  refine ⟨Alarm.Clear.of_moves hs moves id rfl, ?_⟩
  rw [log]
  exact hk _ _ rfl hlog

theorem turn_prompt {arena : Arena Resource} {next : TaskOutcome → Arena Resource →
      Alarm × List (Event engineInterface) → Prop}
    (hnext : ∀ outcome arena s, Ready (e.Decided jobId task) s → next outcome arena s) :
    Turn prompt e jobId task arena s next fun _ _ => True := by
  refine ⟨trivial, fun tripped s₁ moved => ?_⟩
  have paused := (prompt_pause 0 s trivial).2 tripped s₁ moved
  cases tripped with
  | true => exact ⟨trivial, fun _ _ _ => trivial⟩
  | false =>
      have allowed : s₁.1.Allows (.report (.started task)) := by
        rw [paused.1]
        nofun
      change (report (.started task)).Meets prompt s₁ _
      refine Script.Meets.mono (report_ready lasting_true (.inr paused.1) trivial allowed)
        fun started s₂ hs => ?_
      cases started with
      | error _ => trivial
      | ok _ =>
          refine Script.Meets.mono (runTask_prompt hs) fun p s₃ hp => ?_
          obtain ⟨ended, arena⟩ := p
          cases ended with
          | error cause => exact ⟨trivial, fun _ _ _ => trivial⟩
          | ok outcome =>
              have hs := hp outcome rfl
              refine Script.Meets.mono (report_ready lasting_decided (.inl hs.1) hs.2 trivial)
                fun finished s₄ hs => ?_
              cases finished with
              | error _ => trivial
              | ok _ => exact hnext outcome arena s₄ hs

theorem run_prompt (hs : s.1.Clear) :
    (e.run jobId tasks).Meets prompt s
      (Ending (fun _ => Ready (e.LastDecided jobId (ordered tasks))) fun _ _ => True) := by
  let inv (_ : List TaskOutcome) (rest : List Task) (_ : Arena Resource) :=
    Ready fun log => ∃ done, ordered tasks = done ++ rest ∧ e.LastDecided jobId done log
  refine meets_run inv (fun _ _ => True) (fun _ _ => trivial) ?_ ?_ ?_ ?_
  · exact fun _ _ => ⟨hs, [], rfl, nofun⟩
  · intro past task rest arena s ⟨_, done, split, _⟩
    refine turn_prompt fun outcome arena s hs => ⟨hs.1, done ++ [task], ?_, fun last hl => ?_⟩
    · rw [split, List.append_assoc]
      rfl
    · rw [List.getLast?_concat] at hl
      cases hl
      exact hs.2
  · intro outcomes arena s ⟨clear, done, split, decided⟩
    rw [List.append_nil] at split
    rw [split]
    exact discardAll_ready lasting_lastDecided ⟨clear, decided⟩
  · exact fun _ _ _ _ => discardAll_prompt

/-- A run that is cancelled at some moment, the check before a task and the report of its start
counted as one step: from then on it creates one object at most, lets no time pass and begins no
task. If it ends well all the same, it was cancelled no earlier than the look that showed the batch
job of the last task to have succeeded, after which nothing was created, was sent. -/
theorem run_stops_promptly (e : Engine) (jobId : String) (tasks : List Task)
    {before after : List (Event engineInterface)}
    {rest : EngineScript (Except EngineError (List TaskOutcome))} {now last : Moment}
    (h : (e.run jobId tasks).Follows (before ++ after) rest) (cancelled : now.cancelled = true)
    (course : Course now after last)
    (whole : ∀ task answer later, after ≠ ⟨.report (.started task), answer⟩ :: later) :
    created after ≤ 1 ∧ last.time = now.time ∧ BeginsNone after ∧
      ∀ outcomes task, rest = .done (.ok outcomes) → (ordered tasks).getLast? = some task →
        ∃ init x post, before ++ after = init ++ ⟨.cluster (.send x.request), x.reply⟩ :: post ∧
          e.ShowsSucceeded jobId task x ∧ created post = 0 ∧ init.length ≤ before.length := by
  obtain ⟨count, none, a, ends⟩ :=
    counted_from (fun a clear => run_prompt (s := (a, [])) clear) h course cancelled whole
  refine ⟨count, (course.of_cancelled cancelled).1, none, fun outcomes task hrest hlast => ?_⟩
  subst hrest
  obtain ⟨init, span, x, post, shows, quiet, log⟩ := (Script.meets_done.1 ends).2 task hlast
  refine ⟨init ++ [⟨.cluster (.pause span), false⟩], x, post, by simpa using log, shows, quiet, ?_⟩
  obtain ⟨_, rfl, -⟩ | ⟨early, -, hafter⟩ := append_eq_split log
  · simp
  · have pause : (⟨.cluster (.pause span), false⟩ : Event engineInterface) ∈ after := by simp [hafter]
    exact absurd rfl (course.no_full_pause cancelled _ pause)

/-- The sample's first task is cancelled just before its batch job is seen to have succeeded. -/
theorem run_stops_promptly_sample :
    ∃ before after outcomes now last task,
      (sampleEngine.run "j" (sampleTasks.take 1)).Follows (before ++ after) (.done (.ok outcomes)) ∧
      now.cancelled = true ∧ Course now after last ∧
      (∀ task answer later, after ≠ ⟨.report (.started task), answer⟩ :: later) ∧
      (ordered (sampleTasks.take 1)).getLast? = some task ∧ before.length = 11 ∧
      created after ≤ 1 ∧ last.time = now.time ∧ BeginsNone after ∧
      ∃ init x post, before ++ after = init ++ ⟨.cluster (.send x.request), x.reply⟩ :: post ∧
        sampleEngine.ShowsSucceeded "j" task x ∧ created post = 0 ∧ init.length ≤ before.length := by
  have single : ordered (sampleTasks.take 1) = sampleTasks.take 1 := List.mergeSort_singleton _
  have follows := Script.ran_play obliging 0 (sampleEngine.run "j" (sampleTasks.take 1))
  have length : (((sampleEngine.run "j" (sampleTasks.take 1)).play obliging 0).1.take 11).length =
      11 := by
    rw [run, single]
    decide +kernel
  have timeless : (((sampleEngine.run "j" (sampleTasks.take 1)).play obliging 0).1.drop 11).all
      isTimeless = true := by
    rw [run, single]
    decide +kernel
  have first : (((sampleEngine.run "j" (sampleTasks.take 1)).play obliging 0).1.drop 11).head?.map
      Event.op = some (.cluster (.send (.get (ResourceKind.batchJob.instancePath "ns"
        (objectName .batchJob "j" "a"))))) := by
    rw [run, single]
    decide +kernel
  have ends : ((sampleEngine.run "j" (sampleTasks.take 1)).play obliging 0).2.isOk = true := by
    rw [run, single]
    decide +kernel
  generalize (sampleEngine.run "j" (sampleTasks.take 1)).play obliging 0 = p at *
  obtain ⟨log, result⟩ := p
  cases result with
  | error cause => cases ends
  | ok outcomes =>
      rw [← List.take_append_drop 11 log] at follows
      have whole : ∀ task answer later,
          log.drop 11 ≠ ⟨.report (.started task), answer⟩ :: later := by
        intro task answer later heq
        rw [heq] at first
        cases first
      have course := course_of_timeless timeless ⟨0, true⟩
      obtain ⟨count, time, none, decided⟩ := run_stops_promptly sampleEngine "j" (sampleTasks.take 1)
        follows rfl course whole
      have last : (ordered (sampleTasks.take 1)).getLast? = some (.ofSpec "a" "j" ⟨0, "p", ∅, []⟩) := by
        rw [single]
        rfl
      exact ⟨_, _, outcomes, _, _, _, follows, rfl, course, whole, last, length, count,
        time, none, decided outcomes _ rfl last⟩

end Engine
end ImageryJobs
