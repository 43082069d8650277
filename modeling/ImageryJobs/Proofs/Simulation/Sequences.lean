import ImageryJobs.Proofs.Engine.Lifetime
import ImageryJobs.Proofs.Engine.Serving
import ImageryJobs.Proofs.Simulation.Completion
import Mathlib.Data.List.Induction

/-!
Jobs that run one after another undisturbed, on a cluster in which nothing stands at first. Every task
finishes; the first that needs a stream has its image built, the later ones take it; and what stays
after a job are the streams.
-/

namespace ImageryJobs

namespace Arena

variable {ρ : Type} {a a' left : Arena ρ} {v h : HeldVolume ρ} {inputs : List (HeldVolume ρ)}

/-- Nothing is lost in a turn: what was held or was put in is taken or is held. -/
theorem kept_of_turn {c : Nat} {ps : List Nat} (taken : a.take c ps = .ok (inputs, left))
    (vacant : left.place v.producer = some none) (registered : left.register v = .ok a')
    (hh : h = v ∨ h ∈ a.volumes) : h ∈ inputs ∨ h ∈ a'.volumes := by
  have place := register_ok registered
  obtain rfl | hh := hh
  · refine .inr (mem_volumes.2 ⟨h.producer, ?_⟩)
    rw [place, if_pos rfl]
  · obtain ⟨p, hp⟩ := mem_volumes.1 hh
    obtain ⟨given, -, emptied⟩ := take_ok taken
    by_cases hm : p ∈ ps
    · obtain ⟨v', hv', hp'⟩ := given p hm
      cases hp.symm.trans hp'
      exact .inl hv'
    · have still : left.place p = some (some h) := by rw [emptied, if_neg hm, hp]
      have other : p ≠ v.producer := by
        intro heq
        rw [heq, vacant] at still
        cases still
      refine .inr (mem_volumes.2 ⟨p, ?_⟩)
      rw [place, if_neg other, still]

end Arena

namespace Simulation

open SimulatedCluster

/-! ### Tasks that have finished -/

/-- A task of a job that has finished. -/
structure Finished where
  jobId : String
  task : Task
  outcome : TaskOutcome

namespace Finished

/-- The name of the stream that the image of a task is in. -/
def stream (f : Finished) : String := sanitizeName f.task.processId

/-- The build of the image, from the source that the catalog has. -/
def build? (e : Engine) (f : Finished) : Option Json :=
  (e.catalog.get? f.task.processId).map fun spec => (Engine.buildOf f.jobId f.task spec.source).document

/-- What is noted of a task, in its order. -/
def marks (e : Engine) (f : Finished) : List Mark :=
  .report (.started f.task) ::
    ((if f.outcome.imageReused then [] else (f.build? e).toList.map .build) ++
      [.batch, .report (.finished f.task f.outcome)])

end Finished

/-- Each task ran the image in its stream, and took the one that was there if an earlier task had
needed it. -/
def Shares (ns : String) (turns : List Finished) : Prop :=
  ∀ before f after, turns = before ++ f :: after →
    f.outcome.image = ImageStreamTemplate.imageOf (repositoryIn ns f.stream) ∧
    f.outcome.imageReused = decide (f.stream ∈ before.map Finished.stream)

theorem Shares.snoc {ns : String} {turns : List Finished} {f : Finished} (h : Shares ns turns)
    (image : f.outcome.image = ImageStreamTemplate.imageOf (repositoryIn ns f.stream))
    (reused : f.outcome.imageReused = decide (f.stream ∈ turns.map Finished.stream)) :
    Shares ns (turns ++ [f]) := by
  intro before f' after heq
  obtain ⟨rest, hl, -⟩ | ⟨rest, rfl, hm⟩ := append_eq_split heq
  · exact h before f' rest hl
  · cases rest with
    | nil =>
        obtain ⟨rfl, -⟩ := List.cons.inj hm
        rw [List.append_nil]
        exact ⟨image, reused⟩
    | cons _ _ => simp at hm

/-- A volume with this name is held. -/
def Holds (arena : Arena Resource) (name : String) : Prop :=
  ∃ h ∈ arena.volumes, h.resource.name = name

/-- Some tasks have finished, and this was noted of them and stands in the cluster. -/
def Settled (e : Engine) (looks : Nat) (held : String → Prop) (turns : List Finished) (w : Situation) :
    Prop :=
  Shares e.ns turns ∧ ∃ v, Between e.ns held (turns.map Finished.stream) v ∧
    At e.ns looks v (turns.flatMap (Finished.marks e)) w

theorem settled_nothing {e : Engine} {looks : Nat} :
    Settled e looks (fun _ => False) [] ([], .empty e.ns looks) :=
  ⟨fun before f after heq => by simp at heq, _, between_nothing, plain_empty, view_empty, rfl⟩

section

variable {e : Engine} {looks : Nat} {jobId : String} {task : Task} {v : View} {l : List Mark}
  {w : Situation} {needed : List String} (time : InTime e looks)
include time

/-! ### One task -/

/-- A task finishes, and leaves its volume in the arena and an image in the stream of its process. -/
theorem runTask_completes {spec : ImageSpec} {arena left : Arena Resource}
    {inputs : List (HeldVolume Resource)} (hspec : e.catalog.get? task.processId = some spec)
    (between : Between e.ns (Holds arena) needed v) (fresh : ¬ Holds arena (e.volumeOf jobId task).name)
    (taken : arena.take task.seqNum task.dependsOn = .ok (inputs, left))
    (vacant : left.place task.seqNum = some none)
    (owned : ∀ h ∈ inputs, ∃ owner, h.resource.template = e.volumeOf jobId owner)
    (hw : At e.ns looks v l w) :
    (e.runTask jobId task arena).Meets course w fun p w => ∃ outcome output, p.1 = .ok outcome ∧
      outcome.image = ImageStreamTemplate.imageOf (repositoryIn e.ns (sanitizeName task.processId)) ∧
      outcome.imageReused = decide (sanitizeName task.processId ∈ needed) ∧
      output.producer = task.seqNum ∧ output.resource.template = e.volumeOf jobId task ∧
      left.register output = .ok p.2 ∧
      ∃ v', Between e.ns (Holds p.2) (needed ++ [sanitizeName task.processId]) v' ∧
        At e.ns looks v' (l ++ builtUnless (sanitizeName task.processId ∈ needed : Bool)
          (Engine.buildOf jobId task spec.source).document ++ [.batch]) w := by
  rw [Engine.runTask, taken]
  refine Script.meets_bind.2 (Script.Meets.mono
    (execute_completes time hspec between.idle (between.streams _) (between.volumes _ fresh) between.configs
      rfl rfl hw) fun p w ⟨producer, template, ended⟩ => ?_)
  obtain ⟨result, output⟩ := p
  cases result with
  | error cause => exact ended.elim
  | ok outcome =>
      obtain ⟨volume, files, image, reused, object, imaged, hw⟩ := ended
      have label : IsLabel (Engine.configOf jobId task (inputs.map (·.mountPath))).name :=
        isLabel_objectName .config jobId task.id
      refine Script.meets_bind.2 (Script.Meets.mono
        (Engine.meets_discard (clear_podless time.ns label rfl rfl) rfl hw) fun _ w hw => ?_)
      refine Script.meets_bind.2 (Script.Meets.mono (discardAll_completes time owned hw) fun _ w hw => ?_)
      have free : left.place output.producer = some none := producer ▸ vacant
      obtain ⟨arena', registered, -⟩ := Arena.register_of_vacant free
      simp only [registered]
      refine ⟨outcome, output, rfl, image, reused, producer, template, registered, _, ?_, hw⟩
      refine (between.work imaged).clear fun name hname => ?_
      have known : ∃ h, (h = output ∨ h ∈ arena.volumes) ∧ h.resource.name = name := by
        obtain rfl | ⟨h, hm, hn⟩ := hname
        · exact ⟨output, .inl rfl, congrArg Template.name template⟩
        · exact ⟨h, .inr hm, hn⟩
      obtain ⟨h, hh, rfl⟩ := known
      obtain given | kept := Arena.kept_of_turn taken free registered hh
      · exact .inl (List.mem_map.2 ⟨h, given, rfl⟩)
      · exact .inr ⟨h, kept, rfl⟩

/-! ### One job -/

/-- The tasks of a job that have finished, in the order in which they ran. -/
def finished (jobId : String) (tasks : List Task) (outcomes : List TaskOutcome) : List Finished :=
  List.zipWith (.mk jobId) (Engine.ordered tasks) outcomes

omit time in
theorem finished_snoc {tasks done rest : List Task} {past : List TaskOutcome}
    (split : Engine.ordered tasks = done ++ task :: rest) (count : done.length = past.length)
    (outcome : TaskOutcome) : finished jobId tasks (past ++ [outcome]) =
      finished jobId tasks past ++ [⟨jobId, task, outcome⟩] := by
  have begun : finished jobId tasks past = List.zipWith (.mk jobId) done past := by
    have whole : List.zipWith (.mk jobId) (done ++ task :: rest) (past ++ []) =
        List.zipWith (.mk jobId) done past ++ List.zipWith (Finished.mk jobId) (task :: rest) [] :=
      List.zipWith_append count
    rw [List.append_nil, List.zipWith_nil_right, List.append_nil] at whole
    rw [finished, split, whole]
  rw [begun, finished, split, List.zipWith_append count, List.zipWith_cons_cons, List.zipWith_nil_right]

/-- In the middle of a job: some of its tasks are done, and the others can go on. -/
structure Underway (e : Engine) (looks : Nat) (jobId : String) (tasks : List Task) (before : List Finished)
    (past : List TaskOutcome) (rest : List Task) (arena : Arena Resource) (w : Situation) : Prop where
  split : ∃ done, Engine.ordered tasks = done ++ rest ∧ done.length = past.length
  serves : arena.Serves (rest.map fun t => (t.seqNum, t.dependsOn))
  owned : ∀ p h, arena.place p = some (some h) → ∃ owner ∈ tasks, owner.seqNum = p ∧
    h.resource.template = e.volumeOf jobId owner
  settled : Settled e looks (Holds arena) (before ++ finished jobId tasks past) w

variable {tasks : List Task} {before : List Finished}

/-- The next task finishes. -/
theorem turn_completes {past : List TaskOutcome} {rest : List Task}
    {arena : Arena Resource} (distinct : Engine.Distinct jobId tasks)
    (cataloged : ∀ task ∈ tasks, ∃ spec, e.catalog.get? task.processId = some spec)
    (h : Underway e looks jobId tasks before past (task :: rest) arena w) :
    Engine.Turn course e jobId task arena w
      (fun outcome => Underway e looks jobId tasks before (past ++ [outcome]) rest)
      fun _ _ => False := by
  obtain ⟨shares, v, between, hw⟩ := h.settled
  obtain ⟨done, split, count⟩ := h.split
  have member : task ∈ tasks := by
    have ordered : task ∈ Engine.ordered tasks := by simp [split]
    exact (Engine.ordered_perm _).mem_iff.1 ordered
  obtain ⟨spec, hspec⟩ := cataloged task member
  obtain ⟨inputs, left, taken, vacant, served⟩ := h.serves.turn
  have fresh : ¬ Holds arena (e.volumeOf jobId task).name := by
    rintro ⟨held, hm, hn⟩
    obtain ⟨p, hp⟩ := Arena.mem_volumes.1 hm
    obtain ⟨owner, ho, rfl, template⟩ := h.owned p held hp
    have name : objectName .volume jobId task.id = objectName .volume jobId owner.id :=
      hn.symm.trans (congrArg Template.name template)
    cases distinct.eq_of_name member ho name
    cases hp.symm.trans (h.serves.vacant (task.seqNum, task.dependsOn) List.mem_cons_self)
  have owned : ∀ held ∈ inputs, ∃ owner, held.resource.template = e.volumeOf jobId owner := by
    intro held hm
    obtain ⟨-, given, -⟩ := Arena.take_ok taken
    obtain ⟨p, -, hp⟩ := given held hm
    obtain ⟨owner, -, -, template⟩ := h.owned p held hp
    exact ⟨owner, template⟩
  obtain ⟨allowed, step⟩ := step_pause 0 w hw
  refine ⟨allowed, fun tripped w moved => ?_⟩
  obtain ⟨rfl, hw⟩ := step tripped w moved
  obtain ⟨allowed, step⟩ := step_report (.started task) w hw
  refine EngineScript.meets_report.2 ⟨allowed, fun answer w moved => ?_⟩
  obtain ⟨rfl, hw⟩ := step answer w moved
  refine Script.Meets.mono (runTask_completes time hspec between fresh taken vacant owned hw) fun p w hp => ?_
  obtain ⟨result, arena'⟩ := p
  obtain ⟨outcome, output, rfl, image, reused, producer, template, registered, v', between', hw⟩ := hp
  obtain ⟨allowed, step⟩ := step_report (.finished task outcome) w hw
  refine EngineScript.meets_report.2 ⟨allowed, fun answer w moved => ?_⟩
  obtain ⟨rfl, hw⟩ := step answer w moved
  refine ⟨⟨done ++ [task], by simp [split], by simp [count]⟩, served output arena' producer registered,
    fun p held hp => ?_, ?_⟩
  · rw [Arena.register_ok registered] at hp
    split at hp
    · cases hp
      rename_i heq
      exact ⟨task, member, (heq.trans producer).symm, template⟩
    · obtain ⟨-, -, emptied⟩ := Arena.take_ok taken
      rw [emptied] at hp
      split at hp
      · cases hq : arena.place p <;> simp [hq] at hp
      · exact h.owned p held hp
  · rw [finished_snoc split count, ← List.append_assoc]
    refine ⟨shares.snoc image reused, v', ?_, ?_⟩
    · rw [List.map_append]
      exact between'
    · rw [List.flatMap_append, List.flatMap_singleton, Finished.marks, reused]
      simpa [Finished.build?, hspec, builtUnless] using hw

/-- A job completes, and nothing of it stays but its streams. -/
theorem job_completes (distinct : Engine.Distinct jobId tasks)
    (accepted : ∃ arena : Arena Resource, Arena.plan (tasks.map fun t => (t.seqNum, t.dependsOn)) = .ok arena)
    (cataloged : ∀ task ∈ tasks, ∃ spec, e.catalog.get? task.processId = some spec)
    (hw : Settled e looks (fun _ => False) before w) :
    (e.run jobId tasks).Meets course w fun result w => ∃ outcomes, result = .ok outcomes ∧
      outcomes.length = tasks.length ∧
      Settled e looks (fun _ => False) (before ++ finished jobId tasks outcomes) w := by
  have perm := Engine.ordered_perm tasks
  have order := Engine.ordered_sorted tasks
  let ok (outcomes : List TaskOutcome) (w : Situation) : Prop := outcomes.length = tasks.length ∧
    Settled e looks (fun _ => False) (before ++ finished jobId tasks outcomes) w
  have turn : ∀ past task rest arena w, Underway e looks jobId tasks before past (task :: rest) arena w →
      Engine.Turn course e jobId task arena w
        (fun outcome => Underway e looks jobId tasks before (past ++ [outcome]) rest) fun _ _ => False :=
    fun _ _ _ _ _ h => turn_completes time distinct cataloged h
  have runs : (e.run jobId tasks).Meets course w (Ending ok fun _ _ => False) := by
    refine Engine.meets_run (Underway e looks jobId tasks before) (fun _ _ => False)
      (fun cause unplanned => ?unplanned) (fun arena planned => ?start) turn
      (fun outcomes arena w h => ?drained) fun _ _ _ h => h.elim
    case unplanned =>
      obtain ⟨arena, planned⟩ := Arena.plan_ok_iff.2 ((Arena.plan_ok_iff.1 accepted).perm (perm.symm.map _))
      cases unplanned.symm.trans planned
    case start =>
      obtain ⟨shares, v, between, hw⟩ := hw
      refine ⟨⟨[], rfl, rfl⟩, ?_, fun p held hp => ?_, ?_⟩
      · exact Arena.serves_of_plan planned (by simpa [List.pairwise_map] using order)
      · rw [(Arena.plan_ok planned).2] at hp
        split at hp <;> cases hp
      · rw [finished, List.zipWith_nil_right, List.append_nil]
        exact ⟨shares, v, ⟨between.idle, between.configs, fun name _ => between.volumes name not_false,
          between.streams⟩, hw⟩
    case drained =>
      obtain ⟨shares, v, between, hw⟩ := h.settled
      obtain ⟨done, split, count⟩ := h.split
      have owned : ∀ held ∈ arena.volumes, ∃ owner, held.resource.template = e.volumeOf jobId owner := by
        intro held hm
        obtain ⟨p, hp⟩ := Arena.mem_volumes.1 hm
        obtain ⟨owner, -, -, template⟩ := h.owned p held hp
        exact ⟨owner, template⟩
      refine Script.Meets.mono (discardAll_completes time owned hw) fun _ w hw => ⟨?_, shares, _, ?_, hw⟩
      · rw [← count, ← perm.length_eq, split, List.append_nil]
      · exact between.clear fun name ⟨held, hm, hn⟩ => .inl (List.mem_map.2 ⟨held, hm, hn⟩)
  refine Script.Meets.mono runs fun result w h => ?_
  cases result with
  | ok outcomes => exact ⟨outcomes, rfl, h⟩
  | error cause => exact h.elim

/-! ### Jobs one after another -/

omit time in
/-- A job that nothing but the cluster could stop: what its tasks read can be handed over, its objects
have names of their own, and the catalog has its processes. -/
structure Runnable (e : Engine) (job : String × List Task) : Prop where
  planned : ∃ arena : Arena Resource, Arena.plan (job.2.map fun t => (t.seqNum, t.dependsOn)) = .ok arena
  distinct : Engine.Distinct job.1 job.2
  cataloged : ∀ task ∈ job.2, e.catalog.contains task.processId = true

omit time in
theorem Runnable.get? {job : String × List Task} (h : Runnable e job) (ht : task ∈ job.2) :
    ∃ spec, e.catalog.get? task.processId = some spec :=
  Option.isSome_iff_exists.1 (h.cataloged task ht)

/-- The tasks of several jobs that have finished. -/
def allFinished (jobs : List (String × List Task)) (outcomes : List (List TaskOutcome)) : List Finished :=
  (List.zipWith (fun job outcomes => finished job.1 job.2 outcomes) jobs outcomes).flatten

theorem runAll_completes {jobs : List (String × List Task)} (runnable : ∀ job ∈ jobs, Runnable e job)
    (hw : Settled e looks (fun _ => False) [] w) :
    (e.runAll jobs).Meets course w fun results w => ∃ outcomes : List (List TaskOutcome),
      results = outcomes.map .ok ∧
      List.Forall₂ (fun job outcomes => outcomes.length = job.2.length) jobs outcomes ∧
      Settled e looks (fun _ => False) (allFinished jobs outcomes) w := by
  let inv (past : List (String × List Task)) (results : List (Except EngineError (List TaskOutcome)))
      (w : Situation) : Prop := ∃ outcomes : List (List TaskOutcome), results = outcomes.map .ok ∧
    List.Forall₂ (fun job outcomes => outcomes.length = job.2.length) past outcomes ∧
    Settled e looks (fun _ => False) (allFinished past outcomes) w
  have step : ∀ past results job w, job ∈ jobs → inv past results w →
      (e.run job.1 job.2).Meets course w fun result => inv (past ++ [job]) (results ++ [result]) := by
    intro past results job w hj ⟨outcomes, hresults, lengths, hw⟩
    have job' := runnable job hj
    refine Script.Meets.mono (job_completes time job'.distinct job'.planned (fun task ht => job'.get? ht) hw)
      fun result w ⟨outcome, hresult, length, hw⟩ => ⟨outcomes ++ [outcome], ?_, ?_, ?_⟩
    · rw [hresults, hresult, List.map_append]
      rfl
    · exact List.rel_append lengths (.cons length .nil)
    · rw [allFinished, List.zipWith_append lengths.length_eq, List.flatten_append]
      simpa [allFinished] using hw
  exact Engine.meets_runAll step ⟨[], rfl, .nil, hw⟩

end

/-! ### What was built -/

/-- The builds that were created. -/
def buildsOf (l : List Mark) : List Json :=
  l.filterMap fun
    | .build document => some document
    | .report _ | .batch => none

/-- A build is for a stream. -/
def IsFor (stream : String) (build : Json) : Prop := targetOf build = some stream

instance (stream : String) : DecidablePred (IsFor stream) := fun build =>
  inferInstanceAs (Decidable (targetOf build = some stream))

variable {e : Engine} {turns : List Finished}

theorem Finished.isFor {f : Finished} {build : Json} (h : f.build? e = some build) :
    targetOf build = some f.stream := by
  obtain ⟨spec, -, rfl⟩ := Option.map_eq_some_iff.1 h
  have label : IsLabel (sanitizeName f.task.processId) := isLabel_sanitizeName f.task.processId
  exact targetOf_build (.forTask f.jobId f.task.id f.task.processId (.forProcess f.task.processId) spec.source)
    (label.notMem (by decide) (by decide))

theorem buildsOf_marks (f : Finished) :
    buildsOf (f.marks e) = if f.outcome.imageReused then [] else (f.build? e).toList := by
  cases hr : f.outcome.imageReused <;> cases hb : f.build? e <;>
    simp [buildsOf, Finished.marks, hr, hb]

/-- For a stream that several tasks share only the first of them has a build. -/
theorem Shares.filter_builds {ns : String} (h : Shares ns turns) (stream : String) :
    (buildsOf (turns.flatMap (Finished.marks e))).filter (IsFor stream) =
      ((turns.find? (·.stream = stream)).bind (Finished.build? e)).toList := by
  induction turns using List.reverseRecOn with
  | nil => rfl
  | append_singleton turns f ih =>
      have prior : Shares ns turns := fun before g after heq =>
        h before g (after ++ [f]) (by rw [heq, List.append_assoc]; rfl)
      obtain ⟨-, reused⟩ := h turns f [] rfl
      have split : buildsOf ((turns ++ [f]).flatMap (Finished.marks e)) =
          buildsOf (turns.flatMap (Finished.marks e)) ++ buildsOf (f.marks e) := by
        rw [List.flatMap_append, List.flatMap_singleton, buildsOf, buildsOf, buildsOf, List.filterMap_append]
      rw [split, List.filter_append, ih prior, buildsOf_marks, List.find?_append]
      by_cases hs : f.stream = stream
      · subst hs
        by_cases hn : f.stream ∈ turns.map Finished.stream
        · obtain ⟨g, hg, heq⟩ := List.mem_map.1 hn
          have found : (turns.find? (·.stream = f.stream)).isSome :=
            List.find?_isSome.2 ⟨g, hg, decide_eq_true heq⟩
          obtain ⟨first, hfirst⟩ := Option.isSome_iff_exists.1 found
          simp [reused, hn, hfirst]
        · have missed : turns.find? (·.stream = f.stream) = none :=
            List.find?_eq_none.2 fun g hg => by
              simpa using fun heq : g.stream = f.stream => hn (heq ▸ List.mem_map_of_mem hg)
          have all : ∀ build ∈ (f.build? e).toList, decide (IsFor f.stream build) = true :=
            fun build hb => decide_eq_true (Finished.isFor (Option.mem_toList.1 hb))
          rw [reused, decide_eq_false hn, if_neg (by decide), List.filter_eq_self.2 all, missed]
          simp
      · have none : ∀ build ∈ (f.build? e).toList, ¬ decide (IsFor stream build) = true := by
          intro build hb
          have other := Finished.isFor (Option.mem_toList.1 hb)
          simp [IsFor, other, hs]
        have nothing : (if f.outcome.imageReused = true then [] else (f.build? e).toList).filter (IsFor stream) =
            [] := by
          split
          · rfl
          · exact List.filter_eq_nil_iff.2 none
        rw [nothing]
        simp [hs]

/-! ### What stays -/

/-- Nothing stands in a cluster but image streams with these names. -/
structure OnlyStreams (c : SimulatedCluster) (streams : List String) : Prop where
  objects : ∀ kind, kind ≠ .imageStream → c.objects.get kind = ∅
  pods : c.pods = ∅
  streams : ∀ name, (c.objects.get .imageStream).contains name = true ↔ name ∈ streams

theorem Between.onlyStreams {ns : String} {needed : List String} {c : SimulatedCluster}
    (h : Between ns (fun _ => False) needed c.view) : OnlyStreams c needed := by
  refine ⟨fun kind hk => Dict.eq_empty_of_get? fun name => ?_, Dict.eq_empty_of_get? h.idle.pods,
    fun name => ?_⟩
  · cases kind with
    | volume => exact h.volumes name not_false
    | config => exact h.configs name
    | imageStream => exact absurd rfl hk
    | build => exact h.idle.builds name
    | batchJob => exact h.idle.batches name
  · have streamed := h.streams name
    have there (object : Option StoredObject) (heq : c.view.objects .imageStream name = object) :
        (c.objects.get .imageStream).contains name = object.isSome := congrArg Option.isSome heq
    by_cases hn : name ∈ needed
    · rw [decide_eq_true hn] at streamed
      obtain ⟨object, heq, -⟩ := streamed
      simp [there _ heq, hn]
    · rw [decide_eq_false hn] at streamed
      simp [there none streamed, hn]

theorem mem_streams_finished {jobs : List (String × List Task)} {outcomes : List (List TaskOutcome)}
    (h : List.Forall₂ (fun job outcomes => outcomes.length = job.2.length) jobs outcomes) (name : String) :
    name ∈ (allFinished jobs outcomes).map Finished.stream ↔
      name ∈ (jobs.flatMap (·.2)).map fun task => sanitizeName task.processId := by
  induction h with
  | nil => exact Iff.rfl
  | @cons job outcome jobs outcomes length _ ih =>
      have perm := Engine.ordered_perm job.2
      have own : (finished job.1 job.2 outcome).map Finished.stream =
          (Engine.ordered job.2).map fun task => sanitizeName task.processId := by
        have firsts : ((Engine.ordered job.2).zip outcome).map Prod.fst = Engine.ordered job.2 :=
          List.map_fst_zip (by rw [perm.length_eq, length])
        rw [finished, List.map_zipWith, ← List.map_uncurry_zip_eq_zipWith]
        conv_rhs => rw [← firsts, List.map_map]
        rfl
      have first : allFinished (job :: jobs) (outcome :: outcomes) =
          finished job.1 job.2 outcome ++ allFinished jobs outcomes := rfl
      rw [first, List.map_append, List.mem_append, ih, own, List.flatMap_cons, List.map_append,
        List.mem_append, (perm.map _).mem_iff]

theorem mem_allFinished {jobs : List (String × List Task)} {outcomes : List (List TaskOutcome)} {f : Finished}
    (h : f ∈ allFinished jobs outcomes) : ∃ job ∈ jobs, f.jobId = job.1 ∧ f.task ∈ job.2 := by
  obtain ⟨turns, hturns, hf⟩ := List.mem_flatten.1 h
  rw [← List.map_uncurry_zip_eq_zipWith] at hturns
  obtain ⟨⟨job, outcome⟩, hjob, rfl⟩ := List.mem_map.1 hturns
  rw [Function.uncurry_apply_pair, finished, ← List.map_uncurry_zip_eq_zipWith] at hf
  obtain ⟨⟨task, _⟩, htask, rfl⟩ := List.mem_map.1 hf
  have perm := Engine.ordered_perm job.2
  exact ⟨job, (List.of_mem_zip hjob).1, rfl, perm.mem_iff.1 (List.of_mem_zip htask).1⟩

/-- Jobs that run after others begin where those end. -/
theorem runOn_runAll_append (e : Engine) (past rest : List (String × List Task)) (c : SimulatedCluster) :
    runOn (e.runAll (past ++ rest)) c =
      ((runOn (e.runAll past) c).1 ++ (runOn (e.runAll rest) (runOn (e.runAll past) c).2.2).1,
        (runOn (e.runAll past) c).2.1 ++ (runOn (e.runAll rest) (runOn (e.runAll past) c).2.2).2.1,
        (runOn (e.runAll rest) (runOn (e.runAll past) c).2.2).2.2) := by
  have split : e.runAll (past ++ rest) = do
      let first ← e.runAll past
      let later ← e.runAll rest
      return first ++ later := List.mapM_append
  rw [split, runOn_bind, runOn_bind]
  exact congrArg (fun log => (_ ++ log, _, _)) (List.append_nil _)

/-- Jobs that run one after another undisturbed, on a cluster in which nothing stands at first, and of
which builds and batch jobs are complete before their deadlines. Every job completes, with one outcome
for each task in the order of their numbers. Of each task it is noted that it starts, then the build of
its image unless it takes one, then its batch job, then that it finishes. The first task that needs a
stream has its image built, which is the only build for that stream, and all later ones take it. After
each job only streams stand in the cluster, those of the tasks so far. -/
theorem jobs_complete (e : Engine) (jobs : List (String × List Task)) (looks : Nat)
    (hns : '?' ∉ e.ns.toList) (interval : 0 < e.config.cluster.pollInterval)
    (watch : 0 < e.config.cluster.watchTimeout)
    (time : (max looks 1 - 1) * e.config.cluster.pollInterval <
      min e.config.buildTimeout e.config.batchTimeout)
    (runnable : ∀ job ∈ jobs, Runnable e job) :
    ∃ outcomes : List (List TaskOutcome),
      (runOn (e.runAll jobs) (.empty e.ns looks)).2.1 = outcomes.map .ok ∧
      List.Forall₂ (fun job outcomes => outcomes.length = job.2.length) jobs outcomes ∧
      marks e.ns (runOn (e.runAll jobs) (.empty e.ns looks)).1 =
        (allFinished jobs outcomes).flatMap (Finished.marks e) ∧
      Shares e.ns (allFinished jobs outcomes) ∧
      (∀ before f after, allFinished jobs outcomes = before ++ f :: after →
        f.stream ∉ before.map Finished.stream → ∃ build, f.build? e = some build ∧
          (buildsOf (marks e.ns (runOn (e.runAll jobs) (.empty e.ns looks)).1)).filter (IsFor f.stream) =
            [build]) ∧
      ∀ past rest, jobs = past ++ rest →
        OnlyStreams (runOn (e.runAll past) (.empty e.ns looks)).2.2
          ((past.flatMap (·.2)).map fun task => sanitizeName task.processId) ∧
        (runOn (e.runAll jobs) (.empty e.ns looks)).2.2 =
          (runOn (e.runAll rest) (runOn (e.runAll past) (.empty e.ns looks)).2.2).2.2 := by
  have same : max looks 1 - 1 = looks - 1 := by omega
  rw [same] at time
  have inTime : InTime e looks :=
    ⟨hns, interval, watch, time.trans_le (min_le_left _ _), time.trans_le (min_le_right _ _)⟩
  have completes (past : List (String × List Task)) (h : ∀ job ∈ past, Runnable e job) :=
    runOn_of_meets (runAll_completes inTime h settled_nothing)
  obtain ⟨outcomes, results, lengths, shares, v, between, hw⟩ := completes jobs runnable
  refine ⟨outcomes, results, lengths, hw.noted, shares, fun before f after heq first => ?_,
    fun past rest heq => ?_⟩
  · have noted := hw.noted
    rw [List.nil_append] at noted
    rw [noted, shares.filter_builds]
    obtain ⟨job, hj, -, ht⟩ := mem_allFinished (heq ▸ List.mem_append_right before List.mem_cons_self)
    obtain ⟨spec, hspec⟩ := (runnable job hj).get? ht
    have missed : before.find? (·.stream = f.stream) = none :=
      List.find?_eq_none.2 fun g hg => by
        simpa using fun same : g.stream = f.stream => first (same ▸ List.mem_map_of_mem hg)
    have found : (allFinished jobs outcomes).find? (·.stream = f.stream) = some f := by
      rw [heq, List.find?_append, missed]
      simp
    have build : f.build? e = some (Engine.buildOf f.jobId f.task spec.source).document := by
      rw [Finished.build?, hspec]
      rfl
    rw [found, Option.bind_some, build]
    exact ⟨_, rfl, rfl⟩
  · obtain ⟨outcomes', -, lengths', -, v', between', hw'⟩ :=
      completes past fun job hj => runnable job (heq ▸ List.mem_append_left rest hj)
    have stays := (hw'.view ▸ between').onlyStreams
    refine ⟨⟨stays.objects, stays.pods, fun name =>
      (stays.streams name).trans (mem_streams_finished lengths' name)⟩, ?_⟩
    rw [heq, runOn_runAll_append]

/-- A job of two tasks, and one of the first of them. -/
def sampleJobs : List (String × List Task) :=
  [("j", Engine.sampleTasks), ("k", Engine.sampleTasks.take 1)]

theorem jobs_complete_sample :
    (∀ job ∈ sampleJobs, Runnable Engine.sampleEngine job) ∧ ∃ outcomes : List (List TaskOutcome),
      (runOn (Engine.sampleEngine.runAll sampleJobs) (.empty "ns" 2)).2.1 = outcomes.map .ok ∧
      outcomes.map (·.map (·.imageReused)) = [[false, true], [true]] := by
  have runnable : ∀ job ∈ sampleJobs, Runnable Engine.sampleEngine job := by
    refine List.forall_mem_cons.2 ⟨⟨⟨_, rfl⟩, fun kind => ?_, by decide⟩,
      List.forall_mem_singleton.2 ⟨⟨_, rfl⟩, fun kind => List.nodup_singleton _, by decide⟩⟩
    cases kind <;> decide +kernel
  obtain ⟨outcomes, results, lengths, -, shares, -⟩ := jobs_complete Engine.sampleEngine sampleJobs 2
    (by decide +kernel) (by decide) (by decide) (by decide) runnable
  refine ⟨runnable, outcomes, results, ?_⟩
  obtain _ | ⟨two, _ | ⟨one, _ | _⟩⟩ := lengths
  obtain ⟨a, b, rfl⟩ := List.length_eq_two.1 two
  obtain ⟨c, rfl⟩ := List.length_eq_one_iff.1 one
  let first : Task := .ofSpec "a" "j" ⟨0, "p", ∅, []⟩
  let second : Task := .ofSpec "b" "j" ⟨1, "p", ∅, [0]⟩
  have single : Engine.ordered [first] = [first] := List.mergeSort_singleton _
  have turns : allFinished sampleJobs [[a, b], [c]] = [⟨"j", first, a⟩, ⟨"j", second, b⟩, ⟨"k", first, c⟩] := by
    have own : finished "j" Engine.sampleTasks [a, b] = [⟨"j", first, a⟩, ⟨"j", second, b⟩] := by
      rw [finished, Engine.ordered_sample]
      rfl
    have other : finished "k" [first] [c] = [⟨"k", first, c⟩] := by
      rw [finished, single]
      rfl
    exact congrArg₂ (fun l m => [l, m].flatten) own other
  have ha : a.imageReused = false := (shares [] _ _ turns).2
  have hb : b.imageReused = true := (shares [_] _ _ turns).2.trans (decide_eq_true (.head _))
  have hc : c.imageReused = true := (shares [_, _] _ [] turns).2.trans (decide_eq_true (.head _))
  simp only [List.map_cons, ha, hb, hc, List.map_nil]

end Simulation
end ImageryJobs
