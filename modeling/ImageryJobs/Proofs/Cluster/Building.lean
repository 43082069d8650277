import ImageryJobs.Cluster.ImageBuild
import ImageryJobs.Proofs.Cluster.Contracts

/-!
Contracts of the work on images, under any rules: the look for an image that exists, the wait for
builds of other tasks, and the build.
-/

namespace ImageryJobs

open ClusterScript

variable {σ α ε : Type} {R : Rules clusterInterface σ} {x : σ}

namespace ImageBuild

variable {ns : String} {w : Watch} {b : ImageBuild}

theorem meetsWith_onStream {work : Managing ε α} {ok : α → ImageBuild → σ → Prop}
    {error : ε → ImageBuild → σ → Prop} :
    MeetsWith R (onStream work) b x ok error ↔
      MeetsWith R work b.stream x (fun value stream => ok value { b with stream })
        fun e stream => error e { b with stream } := by
  have h : (onStream work).run.run b = (fun p => (p.1, { b with stream := p.2 })) <$>
      (work.run.run b.stream : ClusterScript _) := by
    simp [onStream, liftM, monadLift, MonadLift.monadLift]
  rw [MeetsWith, h, Script.meets_map]
  rfl

theorem meetsWith_onBuild {work : Managing ε α} {ok : α → ImageBuild → σ → Prop}
    {error : ε → ImageBuild → σ → Prop} :
    MeetsWith R (onBuild work) b x ok error ↔
      MeetsWith R work b.build x (fun value build => ok value { b with build })
        fun e build => error e { b with build } := by
  have h : (onBuild work).run.run b = (fun p => (p.1, { b with build := p.2 })) <$>
      (work.run.run b.build : ClusterScript _) := by
    simp [onBuild, liftM, monadLift, MonadLift.monadLift]
  rw [MeetsWith, h, Script.meets_map]
  rfl

theorem meetsOr_existingImage {ok : Option String → σ → Prop} {error : LifecycleError → σ → Prop} :
    MeetsOr R (existingImage ns b) x ok error ↔ R.allows x (.send (.get (b.stream.path ns))) ∧
      ∀ (reply : Reply) x', R.moves x ⟨.send (.get (b.stream.path ns)), reply⟩ x' →
        Ending (fun stream => ok (stream.bind imageIn)) (fun e => error (.cluster e))
          (Resource.fetched reply) x' := by
  rw [existingImage, meetsOr_adapt, meetsOr_bind, Resource.meetsOr_fetch]
  rfl

/-- What a look at the stream does not change holds whatever the look shows. -/
theorem meetsOr_existingImage_of_preserves {inv : σ → Prop}
    (get : R.Preserves inv (.send (.get (b.stream.path ns)))) (hx : inv x) :
    MeetsOr R (existingImage ns b) x (fun _ => inv) fun _ => inv := by
  obtain ⟨allowed, kept⟩ := get x hx
  refine meetsOr_existingImage.2 ⟨allowed, fun reply x' moved => ?_⟩
  have hx' := kept reply x' moved
  cases Resource.fetched reply <;> exact hx'

/-- The names in a list of builds that still run, all but one. -/
def others (name : String) (builds : List Json) : List String :=
  ((builds.filter fun build => !BuildTemplate.isOver build).filterMap Template.nameOf).filter
    (· ≠ name)

theorem meetsOr_peers {ok : List String → σ → Prop} {error : LifecycleError → σ → Prop} :
    MeetsOr R (peers ns b) x ok error ↔
      R.allows x (.send (.get (listPath (ResourceKind.build.collectionPath ns)
        (selectorOf processLabel b.stream.name)))) ∧
      ∀ (reply : Reply) x', R.moves x ⟨.send (.get (listPath (ResourceKind.build.collectionPath ns)
          (selectorOf processLabel b.stream.name))), reply⟩ x' →
        Ending (fun builds => ok (others b.build.name builds)) (fun e => error (.cluster e))
          (Calling.listed reply) x' := by
  rw [peers, meetsOr_adapt, meetsOr_bind, Calling.meetsOr_list]
  rfl

/-- The image of a stream, by the answer to a look at it. -/
def streamImage (reply : Reply) : Except LifecycleError (Option String) :=
  match Resource.fetched reply with
  | .ok stream => .ok (stream.bind imageIn)
  | .error e => .error (.cluster e)

theorem streamImage_eq_ok {reply : Reply} {found : Option String} :
    streamImage reply = .ok found ↔
      ∃ stream, Resource.fetched reply = .ok stream ∧ stream.bind imageIn = found := by
  unfold streamImage
  cases Resource.fetched reply <;> simp

theorem streamImage_eq_error {reply : Reply} {e : LifecycleError} :
    streamImage reply = .error e ↔ ∃ cause, Resource.fetched reply = .error cause ∧ e = .cluster cause := by
  unfold streamImage
  cases Resource.fetched reply <;> simp [eq_comm]

/-- The answers to one look for builds of other tasks: the builds, and the stream if the builds could be
read. -/
structure PeerPoll where
  builds : Reply
  stream : Option Reply

namespace PeerPoll

/-- The stream was looked at if the builds could be read. -/
def Asked (p : PeerPoll) : Prop := p.stream.isSome = true ↔ ∃ items, Calling.listed p.builds = .ok items

/-- What a look decides: on an image, or on none if all the builds are one's own or over, or that the wait
fails. -/
def verdict (name : String) (p : PeerPoll) : Option (Except LifecycleError (Option String)) :=
  match Calling.listed p.builds, p.stream.map streamImage with
  | .error e, _ => some (.error (.cluster e))
  | .ok _, none => none
  | .ok _, some (.error e) => some (.error e)
  | .ok _, some (.ok (some image)) => some (.ok (some image))
  | .ok items, some (.ok none) => if others name items = [] then some (.ok none) else none

variable {name : String} {p : PeerPoll}

theorem of_verdict_ok {found : Option String} (h : p.verdict name = some (.ok found)) :
    ∃ items reply, Calling.listed p.builds = .ok items ∧ p.stream = some reply ∧
      streamImage reply = .ok found ∧ (found = none → others name items = []) := by
  unfold verdict at h
  split at h <;> try cases h
  case h_4 items image hl hs =>
    obtain ⟨reply, hp, hi⟩ := Option.map_eq_some_iff.1 hs
    exact ⟨items, reply, hl, hp, hi, nofun⟩
  case h_5 items hl hs =>
    obtain ⟨reply, hp, hi⟩ := Option.map_eq_some_iff.1 hs
    split at h
    case isTrue alone =>
      cases h
      exact ⟨items, reply, hl, hp, hi, fun _ => alone⟩
    case isFalse => cases h

theorem of_verdict_error {e : LifecycleError} (asked : p.Asked) (h : p.verdict name = some (.error e)) :
    (p.stream = none ∧ ∃ cause, Calling.listed p.builds = .error cause ∧ e = .cluster cause) ∨
      ∃ reply, p.stream = some reply ∧ streamImage reply = .error e := by
  unfold verdict at h
  split at h <;> try cases h
  case h_1 cause hl =>
    refine .inl ⟨?_, cause, hl, rfl⟩
    cases hs : p.stream with
    | none => rfl
    | some reply =>
        obtain ⟨items, hl'⟩ := asked.1 (by rw [hs]; rfl)
        rw [hl] at hl'
        cases hl'
  case h_3 hs =>
    obtain ⟨reply, hp, hi⟩ := Option.map_eq_some_iff.1 hs
    exact .inr ⟨reply, hp, hi⟩
  case h_5 =>
    split at h <;> cases h

theorem of_verdict_none (asked : p.Asked) (h : p.verdict name = none) :
    ∃ items reply, Calling.listed p.builds = .ok items ∧ p.stream = some reply ∧
      others name items ≠ [] := by
  unfold verdict at h
  split at h <;> try cases h
  case h_2 items hl hs =>
    have looked := asked.2 ⟨items, hl⟩
    rw [Option.map_eq_none_iff.1 hs] at looked
    cases looked
  case h_5 items hl hs =>
    obtain ⟨reply, hp, -⟩ := Option.map_eq_some_iff.1 hs
    split at h
    case isTrue => cases h
    case isFalse busy => exact ⟨items, reply, hl, hp, busy⟩

/-- What is known after the answers to a look. -/
def Told (listing : Reply → σ → Prop) (seen : Reply → Reply → σ → Prop) (p : PeerPoll) (x : σ) : Prop :=
  match p.stream with
  | none => listing p.builds x
  | some reply => seen p.builds reply x

theorem told_same {known : σ → Prop} {p : PeerPoll} {x : σ} :
    p.Told (fun _ => known) (fun _ _ => known) x ↔ known x := by
  unfold Told
  split <;> rfl

end PeerPoll

/-- A look for builds of other tasks ends with the verdict on its answers. -/
theorem meetsOr_lookForPeers {due : σ → Prop} {listing : Reply → σ → Prop} {seen : Reply → Reply → σ → Prop}
    (list : R.Step due (.send (.get (listPath (ResourceKind.build.collectionPath ns)
      (selectorOf processLabel b.stream.name)))) listing)
    (get : ∀ builds, R.Step (listing builds) (.send (.get (b.stream.path ns))) (seen builds))
    (hx : due x) :
    MeetsOr R (lookForPeers ns b) x
      (fun found x => ∃ p : PeerPoll, p.Asked ∧ p.Told listing seen x ∧
        p.verdict b.build.name = found.map .ok)
      fun e x => ∃ p : PeerPoll, p.Asked ∧ p.Told listing seen x ∧
        p.verdict b.build.name = some (.error e) := by
  obtain ⟨allowed, step⟩ := list x hx
  refine meetsOr_bind.2 (meetsOr_peers.2 ⟨allowed, fun builds x₁ moved => ?_⟩)
  have listed := step builds x₁ moved
  cases hl : Calling.listed builds with
  | error e => exact ⟨⟨builds, none⟩, by simp [PeerPoll.Asked, hl], listed, by simp [PeerPoll.verdict, hl]⟩
  | ok items =>
      obtain ⟨allowed, step⟩ := get builds x₁ listed
      refine meetsOr_bind.2 (meetsOr_existingImage.2 ⟨allowed, fun reply x₂ moved => ?_⟩)
      have both := step reply x₂ moved
      have asked : PeerPoll.Asked ⟨builds, some reply⟩ := by simp [PeerPoll.Asked, hl]
      cases hf : Resource.fetched reply with
      | error e =>
          exact ⟨⟨builds, some reply⟩, asked, both, by simp [PeerPoll.verdict, streamImage, hl, hf]⟩
      | ok stream =>
          simp only [Ending]
          cases hi : stream.bind imageIn with
          | some image =>
              refine ⟨⟨builds, some reply⟩, asked, both, ?_⟩
              simp [PeerPoll.verdict, streamImage, hl, hf, hi]
          | none =>
              refine ⟨⟨builds, some reply⟩, asked, both, ?_⟩
              cases ho : others b.build.name items <;>
                simp [PeerPoll.verdict, streamImage, hl, hf, hi, ho]

/-- What is known after so many looks for builds of other tasks: while the next one is waited for,
when it is due, after the builds were listed, after the stream was looked at too, and once the work
is cancelled. -/
structure Awaiting (R : Rules clusterInterface σ) (ns : String) (b : ImageBuild)
    (waiting due : Nat → σ → Prop) (listing : Nat → Reply → σ → Prop)
    (seen : Nat → Reply → Reply → σ → Prop) (stopped : σ → Prop) : Prop where
  pause : ∀ k span, R.Step (waiting k) (.pause span) fun (tripped : Bool) x =>
    if tripped then stopped x else due k x
  list : ∀ k, R.Step (due k) (.send (.get (listPath (ResourceKind.build.collectionPath ns)
    (selectorOf processLabel b.stream.name)))) (listing k)
  get : ∀ k builds, R.Step (listing k builds) (.send (.get (b.stream.path ns))) (seen k builds)
  again : ∀ k builds items reply x, seen k builds reply x → Calling.listed builds = .ok items →
    others b.build.name items ≠ [] → waiting (k + 1) x

section Awaiting

variable {waiting due : Nat → σ → Prop} {listing : Nat → Reply → σ → Prop}
  {seen : Nat → Reply → Reply → σ → Prop} {stopped : σ → Prop}

/-- The end of the wait for other builds: the stream has an image, or nobody else builds. -/
def Awaited (b : ImageBuild) (seen : Nat → Reply → Reply → σ → Prop) (found : Option String) (x : σ) :
    Prop :=
  ∃ k builds items reply stream, seen k builds reply x ∧ Calling.listed builds = .ok items ∧
    Resource.fetched reply = .ok stream ∧ stream.bind imageIn = found ∧
    (found = none → others b.build.name items = [])

/-- The wait for other builds ended before. -/
def Unawaited (w : Watch) (due : Nat → σ → Prop) (listing : Nat → Reply → σ → Prop)
    (seen : Nat → Reply → Reply → σ → Prop) (stopped : σ → Prop) (x : σ) : Prop :=
  stopped x ∨ (∃ k, due k x ∧ Watch.Spent w.interval w.timeout k) ∨
    (∃ k builds e, listing k builds x ∧ Calling.listed builds = .error e) ∨
    ∃ k builds reply e, seen k builds reply x ∧ Resource.fetched reply = .error e

theorem meetsOr_awaitPeers (h : Awaiting R ns b waiting due listing seen stopped) (hx : due 0 x) :
    MeetsOr R (awaitPeers ns w b) x (b.Awaited seen)
      fun _ => Unawaited w due listing seen stopped := by
  refine Watch.meets_untilDecided
    (C := .failing R fun _ => Unawaited w due listing seen stopped)
    (W := waiting) (D := due) (Q := b.Awaited seen) ?_ ?_ ?_ (s := x) hx
  · intro k x hx
    refine Calculus.meets_failing.2 ((meetsOr_lookForPeers (h.list k) (h.get k) hx).mono
      (fun found x decided => ?_) fun e x failed => ?_)
    · obtain ⟨p, asked, told, verdict⟩ := decided
      cases found with
      | some found =>
          obtain ⟨items, reply, hl, hp, hi, alone⟩ := PeerPoll.of_verdict_ok verdict
          obtain ⟨stream, hf, hi⟩ := streamImage_eq_ok.1 hi
          rw [PeerPoll.Told, hp] at told
          exact ⟨k, p.builds, items, reply, stream, told, hl, hf, hi, alone⟩
      | none =>
          obtain ⟨items, reply, hl, hp, busy⟩ := PeerPoll.of_verdict_none asked verdict
          rw [PeerPoll.Told, hp] at told
          exact h.again k p.builds items reply x told hl busy
    · obtain ⟨p, asked, told, verdict⟩ := failed
      obtain ⟨hp, cause, hl, -⟩ | ⟨reply, hp, hi⟩ := PeerPoll.of_verdict_error asked verdict
      · rw [PeerPoll.Told, hp] at told
        exact .inr (.inr (.inl ⟨k, p.builds, cause, told, hl⟩))
      · rw [PeerPoll.Told, hp] at told
        obtain ⟨cause, hf, -⟩ := streamImage_eq_error.1 hi
        exact .inr (.inr (.inr ⟨k, p.builds, reply, cause, told, hf⟩))
  · intro k span x hx
    refine Calculus.meets_failing.2 (meetsOr_liftM.2 ?_)
    obtain ⟨allowed, step⟩ := h.pause k span x hx
    refine ⟨allowed, fun tripped x' moved => ?_⟩
    have paused := step tripped x' moved
    cases tripped with
    | true => exact .inl paused
    | false => exact paused
  · exact fun k x hx spent => .inr (.inl ⟨k, hx, spent⟩)

/-- What no look changes holds whatever comes of the wait for other builds. -/
theorem meetsOr_awaitPeers_of_preserves {inv : σ → Prop}
    (pause : ∀ span, R.Preserves inv (.pause span))
    (list : R.Preserves inv (.send (.get (listPath (ResourceKind.build.collectionPath ns)
      (selectorOf processLabel b.stream.name)))))
    (get : R.Preserves inv (.send (.get (b.stream.path ns)))) (hx : inv x) :
    MeetsOr R (awaitPeers ns w b) x (fun _ => inv) fun _ => inv := by
  have awaiting : Awaiting R ns b (fun _ => inv) (fun _ => inv) (fun _ _ => inv) (fun _ _ _ => inv)
      inv := by
    refine ⟨fun _ span x hx => ?_, fun _ => list, fun _ _ => get, fun _ _ _ _ _ hx _ _ => hx⟩
    simpa only [ite_self] using pause span x hx
  refine (meetsOr_awaitPeers awaiting hx).mono (fun found x awaited => ?_) fun _ x ended => ?_
  · obtain ⟨_, _, _, _, _, hx, -⟩ := awaited
    exact hx
  · obtain hx | ⟨_, hx, -⟩ | ⟨_, _, _, hx, -⟩ | ⟨_, _, _, _, hx, -⟩ := ended <;> exact hx

end Awaiting

/-- What holds before and after work on the build, and leaves the stream as it is known. -/
def Holds (stream : Resource) (t : Template) (inv : σ → Prop) (b : ImageBuild) (x : σ) : Prop :=
  b.stream = stream ∧ b.build.template = t ∧ inv x

variable {stream : Resource} {t : Template}

theorem meets_logs {inv : σ → Prop}
    (h : ∀ request, Resource.Inspects ns t request → R.Preserves inv (.send request))
    (hb : b.Holds stream t inv x) :
    ((logs ns).run b).Meets R x fun p x' => p.2.Holds stream t inv x' := by
  obtain ⟨hs, ht, hx⟩ := hb
  have read : MeetsWith R (onBuild (Resource.logs ns)) b x (fun _ b' x' => b'.Holds stream t inv x')
      fun _ b' x' => b'.Holds stream t inv x' :=
    meetsWith_onBuild.2 ((Resource.meetsWith_logs h ht hx).mono
      (fun _ _ _ ⟨ht, hx⟩ => ⟨hs, ht, hx⟩) fun _ _ _ ⟨ht, hx⟩ => ⟨hs, ht, hx⟩)
  refine Script.meets_bind.2 (Script.Meets.mono read.meets fun p x' hp => ?_)
  obtain ⟨result, b'⟩ := p
  cases result <;> exact hp

theorem meets_cleanup {before after : σ → Prop} (h : Resource.Clearing R ns t before after)
    (hb : b.Holds stream t before x) :
    ((cleanup ns).run.run b).Meets R x fun p x' => p.2.Holds stream t after x' := by
  have split : (cleanup ns).run.run b = (fun p => (p.1, { b with build := p.2 })) <$>
      ((Resource.delete ns).run.run b.build : ClusterScript _) := by
    simp [cleanup, onBuild, liftM, monadLift, MonadLift.monadLift]
  rw [split, Script.meets_map]
  exact Script.Meets.mono (Resource.meets_delete h hb.2.1 hb.2.2)
    fun p x' hp => ⟨hb.1, hp.1, hp.2⟩

/-- An image is taken where there is one, else where another task builds it, else it is built. -/
theorem meetsWith_run {ts tb : Template} (fresh : σ → Prop) (streamed alone : Json → σ → Prop)
    (built : String → σ → Prop) (provided : String → Bool → σ → Prop) (lost : σ → Prop)
    (existing : MeetsOr R (existingImage ns b) x
      (fun found x => match found with
        | some image => provided image true x
        | none => fresh x) fun _ => lost)
    (create : ∀ x, fresh x → MeetsWith R (Resource.create ns true w) b.stream x
      (fun _ r x => r.template = ts ∧ ∃ object, r.observed = some object ∧ streamed object x)
      fun _ _ => lost)
    (await : ∀ (b' : ImageBuild) object x, b'.stream.template = ts → b'.build = b.build →
      streamed object x → MeetsOr R (awaitPeers ns w b') x
        (fun found x => match found with
          | some image => provided image true x
          | none => alone object x) fun _ => lost)
    (unnamed : ∀ object x, alone object x → ImageStreamTemplate.repository? object = none → lost x)
    (build : ∀ object repository x, alone object x →
      ImageStreamTemplate.repository? object = some repository →
      MeetsWith R (Resource.create ns true w) b.build x
        (fun _ r x => r.template = tb ∧ built repository x)
        (fun _ r x => r.template = tb ∧ lost x))
    (inspect : ∀ repository request, Resource.Inspects ns tb request →
      R.Preserves (built repository) (.send request))
    (remove : ∀ repository, ∃ broken gone, Resource.Removing R ns tb (built repository) broken gone ∧
      (∀ x, broken x → lost x) ∧ (∀ x, Resource.Remaining gone x → lost x) ∧
        ∀ pods x, gone pods x → provided (ImageStreamTemplate.imageOf repository) false x)
    (hb : b.build.template = tb) :
    MeetsWith R (run ns w) b x (fun image _ x => provided image.image image.reused x)
      (fun _ b' x => b'.build.template = tb ∧ lost x) := by
  rw [run, meetsWith_get_bind, meetsWith_bind, meetsWith_mk_liftM]
  refine existing.mono (fun found x hx => ?_) fun _ x hx => ⟨hb, hx⟩
  cases found with
  | some image => exact hx
  | none =>
      rw [meetsWith_bind, meetsWith_onStream]
      refine (create x hx).mono (fun _ stream x ⟨hs, object, ho, hx⟩ => ?_) fun _ _ x hx => ⟨hb, hx⟩
      rw [meetsWith_get_bind, meetsWith_bind, meetsWith_mk_liftM]
      refine (await ⟨stream, b.build⟩ object x hs rfl hx).mono (fun found x hx => ?_) fun _ x hx => ⟨hb, hx⟩
      cases found with
      | some image => exact hx
      | none =>
          rw [buildFor, meetsWith_get_bind]
          simp only [ho, Option.bind_some]
          cases hr : ImageStreamTemplate.repository? object with
          | none => exact ⟨hb, unnamed object x hx hr⟩
          | some repository =>
              dsimp only
              rw [meetsWith_bind, meetsWith_onBuild]
              refine (build object repository x hx hr).mono (fun _ r x ⟨ht, hx⟩ => ?_)
                fun _ _ _ hx => hx
              rw [meetsWith_bind, meetsWith_liftM_state]
              have hb' : Holds stream tb (built repository) ⟨stream, r⟩ x := ⟨rfl, ht, hx⟩
              refine Script.Meets.mono (meets_logs (inspect repository) hb') fun p x hp => ?_
              obtain ⟨broken, gone, removing, hbroken, hremaining, hgone⟩ := remove repository
              rw [meetsWith_bind, cleanup, meetsWith_onBuild]
              refine (Resource.meetsWith_delete removing hp.2.1 hp.2.2).mono
                (fun _ r x ⟨ht, pods, hx⟩ => ?_) fun _ r x ⟨ht, hx⟩ => ⟨ht, ?_⟩
              · exact hgone pods x hx
              · exact hx.elim (hbroken x) (hremaining x)

end ImageBuild
end ImageryJobs
