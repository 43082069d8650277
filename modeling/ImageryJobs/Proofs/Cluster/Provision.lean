import ImageryJobs.Proofs.Cluster.Building
import ImageryJobs.Proofs.Cluster.Creation
import ImageryJobs.Proofs.Cluster.Images

/-!
What providing an image sends. The stream is looked at, created, and looked at again while other tasks
build; only where it still has no image and nobody else builds is the build posted, watched and, if it
went well, removed.
-/

namespace ImageryJobs

open ClusterScript

namespace Resource

variable {ns : String} {w : Watch} {r r' : Resource} {log : List (Event clusterInterface)}

theorem observed_waitReady {object : Json} (h : RanWith (waitReady ns w) r log (.ok object) r') :
    r'.observed = some object := by
  have watching : Watching tracing ns r.template (fun _ _ => True) (fun _ _ => True)
      (fun _ _ _ _ => True) fun _ => True := by
    refine ⟨fun _ _ _ _ => ⟨trivial, fun tripped _ _ => ?_⟩, fun _ => ⟨?_, ?_⟩,
      fun _ _ _ _ _ _ => trivial⟩
    · cases tripped <;> trivial
    · exact fun _ _ => ⟨trivial, fun _ _ _ => trivial⟩
    · exact fun _ _ _ _ _ => ⟨trivial, fun _ _ _ => trivial⟩
  exact (traced (meetsWith_waitReady_verdict watching rfl trivial) h).2.1

theorem create_observes (h : RanWith (create ns true w) r log (.ok ()) r') :
    ∃ object sent p, r'.observed = some object ∧ r.template.verdict p = some (.ok object) ∧
      traffic log = sent ++ r.template.exchanges ns p := by
  obtain ⟨log₁, _, r₁, log₂, rfl, submission, settles⟩ := ranWith_bind_ok.1 h
  have ht : r₁.template = r.template := (keeps_submit r rfl _ _ _ submission).1
  obtain ⟨log₃, object, r₂, log₄, rfl, wait, done⟩ := ranWith_bind_ok.1 (ranWith_modify_bind.1 settles)
  obtain ⟨rfl, -, rfl⟩ := ranWith_pure.1 done
  obtain ⟨polls, p, -, -, verdict, sent⟩ := (ran_waitReady wait).of_ok
  rw [← ht]
  refine ⟨object, traffic log₁ ++ polls.flatMap (r₁.template.exchanges ns), p, observed_waitReady wait,
    verdict, ?_⟩
  rw [List.append_nil, traffic_append, sent, List.append_assoc]
  rfl

/-- A deletion removes all there is of the object, or fails at a request. -/
theorem ran_delete {result : Except LifecycleError Unit} (h : RanWith (delete ns) r log result r') :
    (result = .ok () ∧ Removed ns r.template (traffic log)) ∨
      (∃ e, result = .error (.cluster e)) ∧
        ∀ x ∈ traffic log, Clears ns r.template.kind r.template.name x.request := by
  obtain ⟨e, removal, rfl⟩ | ⟨log₁, _, r₁, log₂, rfl, removal, done⟩ :=
    ranWith_bind.1 (ranWith_get_bind.1 h)
  · obtain ⟨first, ran, heq, -⟩ := Managing.ranWith_ofCall.1 removal
    refine .inr ⟨?_, sends_removeAll _ _ _ ran⟩
    cases first with
    | ok value => cases heq
    | error cause =>
        cases heq
        exact ⟨cause, rfl⟩
  · obtain ⟨first, ran, heq, -⟩ := Managing.ranWith_ofCall.1 removal
    obtain ⟨rfl, rfl, -⟩ := ranWith_modify.1 done
    cases first with
    | error cause => cases heq
    | ok value =>
        rw [List.append_nil]
        exact .inl ⟨rfl, ran_removeAll_ok ran⟩

end Resource

namespace ImageBuild

variable {ns : String} {w : Watch} {b b' : ImageBuild} {log : List (Event clusterInterface)}

/-! ### Looking for an image -/

theorem ran_existingImage {result : Except LifecycleError (Option String)}
    (h : (existingImage ns b).run.Ran log result) :
    ∃ reply, traffic log = [⟨.get (b.stream.path ns), reply⟩] ∧ streamImage reply = result := by
  refine tracedOr (P := fun result sent =>
    ∃ reply, sent = [⟨.get (b.stream.path ns), reply⟩] ∧ streamImage reply = result) ?_ h
  refine meetsOr_existingImage.2 ⟨trivial, fun reply sent moved => ?_⟩
  cases hf : Resource.fetched reply with
  | ok stream => exact ⟨reply, moved, by rw [streamImage, hf]⟩
  | error e => exact ⟨reply, moved, by rw [streamImage, hf]⟩

/-- The path under which the builds for a stream are listed. -/
def listing (ns stream : String) : String :=
  listPath (ResourceKind.build.collectionPath ns) (selectorOf processLabel stream)

/-- The wait while other tasks build. -/
def peersWait (ns : String) (ts tb : Template) (w : Watch) :
    Wait PeerPoll LifecycleError (Option String) where
  asked := PeerPoll.Asked
  exchanges p := ⟨.get (listing ns ts.name), p.builds⟩ ::
    p.stream.toList.map fun reply => ⟨.get (ts.kind.instancePath ns ts.name), reply⟩
  verdict := PeerPoll.verdict tb.name
  cancelled := .cancelled .imageStream ts.name
  expired := .watchTimeout .imageStream ts.name w.timeout

theorem parts_awaitPeers {σ : Type} {R : Rules clusterInterface σ} {noted : σ → List Exchange → σ}
    (notes : Notes R noted) (ns : String) (b : ImageBuild) (w : Watch)
    (ended : Except LifecycleError (Option String) → σ → Prop) :
    (peersWait ns b.stream.template b.build.template w).Parts R noted
      (.failing R fun e => ended (.error e)) id (fun _ => True) ended (b.lookForPeers ns)
      (throw (.cancelled .imageStream b.stream.name))
      (throw (.watchTimeout .imageStream b.stream.name w.timeout)) where
  look x post _ found failed := by
    let wait := peersWait ns b.stream.template b.build.template w
    let listed (builds : Reply) (x' : σ) : Prop := x' = noted x (wait.exchanges ⟨builds, none⟩)
    let seen (builds reply : Reply) (x' : σ) : Prop := x' = noted x (wait.exchanges ⟨builds, some reply⟩)
    have list : R.Step (· = x) (.send (.get (listPath (ResourceKind.build.collectionPath ns)
        (selectorOf processLabel b.stream.name)))) listed := by
      rintro _ rfl
      exact ⟨notes.allows _ _, fun builds x' moved => notes.send moved⟩
    have get (builds : Reply) :
        R.Step (listed builds) (.send (.get (b.stream.path ns))) (seen builds) := by
      rintro _ rfl
      exact ⟨notes.allows _ _, fun reply x' moved => (notes.send moved).trans (notes.append _ _ _)⟩
    have told {p : PeerPoll} {x' : σ} (h : p.Told listed seen x') : x' = noted x (wait.exchanges p) := by
      obtain ⟨builds, _ | reply⟩ := p <;> exact h
    refine Calculus.meets_failing.2 ((meetsOr_lookForPeers list get rfl).mono ?_ ?_)
    · rintro image x' ⟨p, asked, h, verdict⟩
      exact found p image x' trivial asked (told h) verdict
    · rintro e x' ⟨p, asked, h, verdict⟩
      exact failed p e x' trivial asked (told h) verdict
  pause span x post _ paused := by
    refine Calculus.meets_failing.2 (meetsOr_liftM.2 ⟨notes.allows _ _, fun early x' moved => ?_⟩)
    exact paused early x' trivial moved
  cancelled _ _ h := h
  expired _ _ h := h

theorem ran_awaitPeers {result : Except LifecycleError (Option String)}
    (h : (awaitPeers ns w b).run.Ran log result) :
    (peersWait ns b.stream.template b.build.template w).Ends (traffic log) result := by
  refine tracedOr (P := fun result sent =>
    (peersWait ns b.stream.template b.build.template w).Ends sent result) ?_ h
  exact Calculus.meets_failing.1 (Watch.meets_untilDecided_ends
    (parts_awaitPeers notes_tracing ns b w _) trivial rfl)

/-! ### Building -/

/-- What was sent until it was known whether there is an image, and what came of it. -/
inductive Prelude (ns : String) (ts tb : Template) (w : Watch) :
    List Exchange → Except LifecycleError (Option String) → Prop where
  | looked {reply : Reply} {outcome : Except LifecycleError (Option String)}
      (image : streamImage reply = outcome) (known : outcome ≠ .ok none) :
      Prelude ns ts tb w [⟨.get (ts.kind.instancePath ns ts.name), reply⟩] outcome
  | uncreated {reply : Reply} {made : List Exchange} {e : LifecycleError}
      (creation : Resource.Creation ns ts true w made (.error e)) :
      Prelude ns ts tb w (⟨.get (ts.kind.instancePath ns ts.name), reply⟩ :: made) (.error e)
  | awaited {reply : Reply} {made looks : List Exchange}
      {outcome : Except LifecycleError (Option String)}
      (creation : Resource.Creation ns ts true w made (.ok ()))
      (peers : (peersWait ns ts tb w).Ends looks outcome) :
      Prelude ns ts tb w (⟨.get (ts.kind.instancePath ns ts.name), reply⟩ :: (made ++ looks)) outcome

/-- What was sent once it was known how the creation of the build ended, and what came of it. -/
inductive Finish (ns : String) (tb : Template) (repository : String) : Except LifecycleError Unit →
    List Exchange → Except LifecycleError BuiltImage → Prop where
  | unbuilt {e : LifecycleError} : Finish ns tb repository (.error e) [] (.error e)
  | unremoved {tail : List Exchange} {e : ClusterError}
      (clears : ∀ x ∈ tail, Resource.Clears ns tb.kind tb.name x.request) :
      Finish ns tb repository (.ok ()) tail (.error (.cluster e))
  | removed {reads removal : List Exchange} (logs : Option String) (read : ∀ x ∈ reads, x.request.Reads)
      (removed : Resource.Removed ns tb removal) : Finish ns tb repository (.ok ()) (reads ++ removal)
        (.ok ⟨ImageStreamTemplate.imageOf repository, logs, false⟩)

/-- An answer showed the stream with a repository. -/
def ShowsRepository (ns : String) (ts : Template) (repository : String) : Exchange → Prop :=
  Exchange.Shows (ts.kind.instancePath ns ts.name) fun stream =>
    ImageStreamTemplate.repository? stream = some repository

/-- What was sent to provide an image, and what came of it. -/
inductive Provision (ns : String) (ts tb : Template) (w : Watch) :
    List Exchange → Except LifecycleError BuiltImage → Prop where
  | failed {sent : List Exchange} {e : LifecycleError} (prelude : Prelude ns ts tb w sent (.error e)) :
      Provision ns ts tb w sent (.error e)
  | reused {sent : List Exchange} {image : String}
      (prelude : Prelude ns ts tb w sent (.ok (some image))) :
      Provision ns ts tb w sent (.ok ⟨image, none, true⟩)
  | built {sent made rest : List Exchange} {created : Except LifecycleError Unit}
      {result : Except LifecycleError BuiltImage} {repository : String}
      (prelude : Prelude ns ts tb w sent (.ok none))
      (shown : ∃ x ∈ sent, ShowsRepository ns ts repository x)
      (creation : Resource.Creation ns tb true w made created)
      (finish : Finish ns tb repository created rest result) :
      Provision ns ts tb w (sent ++ (made ++ rest)) result

theorem ran_buildFor {ts tb : Template} (hb : HasTemplates ts tb b) {object : Json} {repository : String}
    (observed : b.stream.observed = some object)
    (given : ImageStreamTemplate.repository? object = some repository)
    {result : Except LifecycleError BuiltImage} (h : RanWith (buildFor ns w) b log result b') :
    ∃ made rest created, traffic log = made ++ rest ∧ Resource.Creation ns tb true w made created ∧
      Finish ns tb repository created rest result := by
  have h := ranWith_get_bind.1 h
  rw [observed, Option.bind_some, given] at h
  obtain ⟨e, creation, rfl⟩ | ⟨log₁, _, b₁, log₂, rfl, creation, built⟩ := ranWith_bind.1 h
  · obtain ⟨build, creation, -⟩ := ranWith_onBuild.1 creation
    exact ⟨traffic log, [], _, (List.append_nil _).symm, hb.2 ▸ Resource.ran_create creation, .unbuilt⟩
  have hb₁ := (keeps_onBuild (Resource.keeps_create true) b hb _ _ _ creation).1
  obtain ⟨build, creation, -⟩ := ranWith_onBuild.1 creation
  have creation := hb.2 ▸ Resource.ran_create creation
  refine ⟨traffic log₁, traffic log₂, _, traffic_append _ _, creation, ?_⟩
  obtain ⟨e, unread, -⟩ | ⟨log₃, logs, b₂, log₄, rfl, reads, cleaned⟩ := ranWith_bind.1 built
  · obtain ⟨_, -, heq⟩ := ranWith_liftM_state.1 unread
    cases heq
  obtain ⟨hb₂, read⟩ := keeps_logs b₁ hb₁ _ _ _ reads
  rw [traffic_append]
  obtain ⟨e, cleanup, rfl⟩ | ⟨log₅, _, b₃, log₆, rfl, cleanup, done⟩ := ranWith_bind.1 cleaned
  · obtain ⟨build, removal, -⟩ := ranWith_onBuild.1 cleanup
    obtain ⟨heq, -⟩ | ⟨⟨cause, heq⟩, clears⟩ := Resource.ran_delete removal
    · cases heq
    · cases heq
      refine .unremoved (List.forall_mem_append.2 ⟨fun x hx => .inl (read x hx), ?_⟩)
      rwa [← hb₂.2]
  · obtain ⟨rfl, rfl, -⟩ := ranWith_pure.1 done
    obtain ⟨build, removal, -⟩ := ranWith_onBuild.1 cleanup
    obtain ⟨-, removed⟩ | ⟨⟨cause, heq⟩, -⟩ := Resource.ran_delete removal
    · rw [List.append_nil]
      exact .removed logs read (hb₂.2 ▸ removed)
    · cases heq

theorem shows_of_verdict (ns : String) {ts : Template} {p : Poll} {object : Json}
    (h : ts.verdict p = some (.ok object)) :
    ∃ x ∈ ts.exchanges ns p, x.Shows (ts.kind.instancePath ns ts.name) (· = object) := by
  obtain ⟨document, found, hreply, hjson, -⟩ := Template.judge_ok (Template.verdict_eq_ok.1 h)
  exact ⟨_, List.mem_cons_self, rfl, document, object, hreply, hjson, rfl⟩

theorem ran_run {ts tb : Template} (hb : HasTemplates ts tb b)
    (ready : ∀ p object, ts.verdict p = some (.ok object) →
      ∃ repository, ImageStreamTemplate.repository? object = some repository)
    {result : Except LifecycleError BuiltImage} (h : RanWith (run ns w) b log result b') :
    Provision ns ts tb w (traffic log) result := by
  obtain ⟨hs, hb'⟩ := hb
  subst hs hb'
  -- The stream is looked at.
  obtain ⟨e, looked, rfl⟩ | ⟨log₁, found, b₁, log₂, rfl, looked, rest⟩ :=
    ranWith_bind.1 (ranWith_get_bind.1 h)
  · obtain ⟨looked, -⟩ := ranWith_mk_liftM.1 looked
    obtain ⟨reply, sent, image⟩ := ran_existingImage looked
    rw [sent]
    exact .failed (.looked image nofun)
  obtain ⟨looked, rfl⟩ := ranWith_mk_liftM.1 looked
  obtain ⟨reply, sent, image⟩ := ran_existingImage looked
  rw [traffic_append, sent, List.singleton_append]
  cases found with
  | some image =>
      obtain ⟨rfl, rfl, -⟩ := ranWith_pure.1 rest
      exact .reused (.looked ‹_› nofun)
  | none =>
      -- It is created, or taken over, and then has a repository.
      obtain ⟨e, creation, rfl⟩ | ⟨log₃, _, b₂, log₄, rfl, creation, rest⟩ := ranWith_bind.1 rest
      · obtain ⟨stream, creation, -⟩ := ranWith_onStream.1 creation
        exact .failed (.uncreated (Resource.ran_create creation))
      have kept : HasTemplates b₁.stream.template b₁.build.template b₂ :=
        (keeps_onStream (Resource.keeps_create true) b₁ ⟨rfl, rfl⟩ _ _ _ creation).1
      obtain ⟨stream, made, rfl⟩ := ranWith_onStream.1 creation
      obtain ⟨object, before, p, observed, verdict, looks⟩ := Resource.create_observes made
      have creation := Resource.ran_create made
      obtain ⟨repository, given⟩ := ready p object verdict
      rw [traffic_append]
      -- Other tasks are waited for, and the stream is looked at again.
      obtain ⟨e, awaited, rfl⟩ | ⟨log₅, found, b₃, log₆, rfl, awaited, rest⟩ :=
        ranWith_bind.1 (ranWith_get_bind.1 rest)
      · obtain ⟨ran, -⟩ := ranWith_mk_liftM.1 awaited
        have peers := ran_awaitPeers ran
        rw [kept.1] at peers
        exact .failed (.awaited creation peers)
      · obtain ⟨ran, rfl⟩ := ranWith_mk_liftM.1 awaited
        have peers := ran_awaitPeers ran
        rw [kept.1] at peers
        rw [traffic_append]
        cases found with
        | some image =>
            obtain ⟨rfl, rfl, -⟩ := ranWith_pure.1 rest
            rw [traffic_nil, List.append_nil]
            exact .reused (.awaited creation peers)
        | none =>
            obtain ⟨made', rest', created, built, creation', finish⟩ :=
              ran_buildFor kept observed given rest
            obtain ⟨x, hx, shows⟩ := shows_of_verdict ns verdict
            have shown : ∃ x ∈ ⟨.get (b₁.stream.path ns), reply⟩ :: (traffic log₃ ++ traffic log₅),
                ShowsRepository ns b₁.stream.template repository x := by
              refine ⟨x, by simp [looks, hx], shows.mono fun stream heq => ?_⟩
              rw [heq, given]
            rw [built, ← List.append_assoc, ← List.cons_append]
            exact .built (.awaited creation peers) shown creation' finish

/-! ### What is sent and when -/

/-- A build was posted. -/
def Builds (ns : String) (x : Exchange) : Prop :=
  ∃ document, x.request = .post (ResourceKind.build.collectionPath ns) document

theorem Builds.isPost {x : Exchange} (h : Builds ns x) : x.isPost = true := by
  obtain ⟨document, hx⟩ := h
  rw [Exchange.isPost, hx]
  rfl

theorem not_builds_of_isPost {x : Exchange} (h : x.isPost = false) : ¬ Builds ns x := fun builds => by
  rw [builds.isPost] at h
  cases h

theorem others_eq_nil {name : String} {items : List Json} : others name items = [] ↔
    ∀ build ∈ items, ∀ other, Template.nameOf build = some other → other ≠ name →
      BuildTemplate.isOver build = true := by
  simp only [others, List.filter_eq_nil_iff, List.mem_filterMap, List.mem_filter, forall_exists_index,
    and_imp, decide_eq_true_eq]
  constructor
  · intro h build hmem other hname hne
    cases hover : BuildTemplate.isOver build with
    | true => rfl
    | false => exact absurd hne (h other build hmem (by rw [hover]; rfl) hname)
  · intro h other build hmem hover hname hne
    rw [h build hmem other hname hne] at hover
    cases hover

theorem imageIn_eq_some {stream : Json} {image : String} (h : imageIn stream = some image) :
    ImageStreamTemplate.isResolved stream = true ∧ ∃ repository,
      ImageStreamTemplate.repository? stream = some repository ∧
        image = ImageStreamTemplate.imageOf repository := by
  unfold imageIn at h
  split at h
  case isTrue resolved =>
    obtain ⟨repository, given, rfl⟩ := Option.map_eq_some_iff.1 h
    exact ⟨resolved, repository, given, rfl⟩
  case isFalse => cases h

section

variable {ts tb : Template} {sent made rest : List Exchange} {x : Exchange}

theorem showsRepository_of_streamImage {reply : Reply} {image : String}
    (h : streamImage reply = .ok (some image)) : ∃ repository,
      image = ImageStreamTemplate.imageOf repository ∧
        ShowsRepository ns ts repository ⟨.get (ts.kind.instancePath ns ts.name), reply⟩ := by
  obtain ⟨stream, fetched, found⟩ := streamImage_eq_ok.1 h
  obtain ⟨object, rfl, found⟩ := Option.bind_eq_some_iff.1 found
  obtain ⟨-, repository, given, rfl⟩ := imageIn_eq_some found
  refine ⟨repository, rfl, rfl, ?_⟩
  cases reply with
  | error e => cases hn : e.isNotFound <;> simp [Resource.fetched, Except.bind, hn] at fetched
  | ok document =>
      cases hd : document.toJson with
      | error e => cases hn : e.isNotFound <;> simp [Resource.fetched, Except.bind, hd, hn] at fetched
      | ok json =>
          obtain rfl : json = object := by simpa [Resource.fetched, Except.bind, hd] using fetched
          exact ⟨document, json, rfl, hd, given⟩

theorem not_shows_of_streamImage (ts : Template) {reply : Reply} (h : streamImage reply = .ok none) :
    ¬ Exchange.Shows (ts.kind.instancePath ns ts.name) (fun stream =>
      ImageStreamTemplate.isResolved stream = true ∧
        (ImageStreamTemplate.repository? stream).isSome = true)
      ⟨.get (ts.kind.instancePath ns ts.name), reply⟩ := by
  rintro ⟨-, document, object, hreply, hjson, resolved, given⟩
  obtain rfl : reply = .ok document := hreply
  obtain ⟨repository, given⟩ := Option.isSome_iff_exists.1 given
  simp [streamImage, Resource.fetched, Except.bind, hjson, imageIn, resolved, given] at h

theorem Prelude.not_builds {outcome : Except LifecycleError (Option String)}
    (h : Prelude ns ts tb w sent outcome) (hk : ts.kind ≠ .build) : ∀ x ∈ sent, ¬ Builds ns x := by
  have created {made : List Exchange} {result : Except LifecycleError Unit}
      (creation : Resource.Creation ns ts true w made result) : ∀ x ∈ made, ¬ Builds ns x := by
    intro x hx builds
    obtain ⟨document, hbuild⟩ := builds
    have hpost := creation.request_of_isPost hx (Builds.isPost ⟨document, hbuild⟩)
    exact hk (ResourceKind.collectionPath_inj (congrArg Request.path (hpost.symm.trans hbuild)))
  have looked {reply : Reply} :
      ¬ Builds ns ⟨.get (ts.kind.instancePath ns ts.name), reply⟩ := not_builds_of_isPost rfl
  cases h with
  | looked => exact List.forall_mem_singleton.2 looked
  | uncreated creation => exact List.forall_mem_cons.2 ⟨looked, created creation⟩
  | awaited creation peers =>
      refine List.forall_mem_cons.2 ⟨looked, List.forall_mem_append.2 ⟨created creation, ?_⟩⟩
      refine peers.forall_mem fun p => List.forall_mem_cons.2 ⟨not_builds_of_isPost rfl, ?_⟩
      intro y hy
      obtain ⟨reply, -, rfl⟩ := List.mem_map.1 hy
      exact looked

/-- There is no image, and nobody else builds: so the last look said. -/
theorem Prelude.alone (h : Prelude ns ts tb w sent (.ok none)) :
    ∃ earlier builds items reply, sent = earlier ++ [⟨.get (listing ns ts.name), builds⟩,
        ⟨.get (ts.kind.instancePath ns ts.name), reply⟩] ∧
      Calling.listed builds = .ok items ∧ others tb.name items = [] ∧ streamImage reply = .ok none := by
  cases h with
  | looked image known => exact absurd rfl known
  | @awaited reply made looks outcome creation peers =>
      obtain ⟨polls, p, -, asked, verdict, rfl⟩ := peers.of_ok
      obtain ⟨items, stream, hl, hp, image, alone⟩ := PeerPoll.of_verdict_ok verdict
      refine ⟨⟨.get (ts.kind.instancePath ns ts.name), reply⟩ ::
        (made ++ polls.flatMap (peersWait ns ts tb w).exchanges), p.builds, items, stream, ?_, hl,
        alone rfl, image⟩
      rw [List.cons_append, List.append_assoc]
      simp [peersWait, hp]

theorem Prelude.image_shown {image : String} (h : Prelude ns ts tb w sent (.ok (some image))) :
    ∃ repository, image = ImageStreamTemplate.imageOf repository ∧
      ∃ x ∈ sent, ShowsRepository ns ts repository x := by
  cases h with
  | looked image known =>
      obtain ⟨repository, rfl, shows⟩ := showsRepository_of_streamImage image
      exact ⟨repository, rfl, _, List.mem_singleton_self _, shows⟩
  | @awaited reply made looks outcome creation peers =>
      obtain ⟨polls, p, -, asked, verdict, rfl⟩ := peers.of_ok
      obtain ⟨items, stream, hl, hp, image, -⟩ := PeerPoll.of_verdict_ok verdict
      obtain ⟨repository, rfl, shows⟩ := showsRepository_of_streamImage image
      exact ⟨repository, rfl, _, by simp [peersWait, hp], shows⟩

theorem Prelude.ne_missingField {e : LifecycleError} (h : Prelude ns ts tb w sent (.error e))
    (kind : ResourceKind) (name field : String) : e ≠ .missingField kind name field := by
  rintro rfl
  cases h with
  | looked image known =>
      obtain ⟨cause, -, heq⟩ := streamImage_eq_error.1 image
      cases heq
  | uncreated creation => exact creation.ne_missingField kind name field rfl
  | awaited creation peers =>
      cases peers with
      | decided idle asked verdict =>
          obtain ⟨-, cause, -, heq⟩ | ⟨reply, -, image⟩ := PeerPoll.of_verdict_error asked verdict
          · cases heq
          · obtain ⟨cause, -, heq⟩ := streamImage_eq_error.1 image
            cases heq

theorem Finish.single {repository : String} {created : Except LifecycleError Unit}
    {result : Except LifecycleError BuiltImage} (h : Finish ns tb repository created rest result) :
    ∀ x ∈ rest, x.isPost = false := by
  cases h with
  | unbuilt => exact List.forall_mem_nil _
  | unremoved clears => exact fun x hx => Resource.isPost_of_clears (clears x hx)
  | removed logs read removed =>
      exact List.forall_mem_append.2 ⟨fun x hx => Resource.isPost_of_reads (read x hx), removed.isPost⟩

variable {before after : List Exchange} {result : Except LifecycleError BuiltImage}

/-- A build is posted only while the own build is created, when there is no image. -/
theorem Provision.builds (h : Provision ns ts tb w sent result) (hk : ts.kind ≠ .build)
    (split : sent = before ++ x :: after) (hx : Builds ns x) :
    ∃ prior made rest past later created repository, Prelude ns ts tb w prior (.ok none) ∧
      Resource.Creation ns tb true w made created ∧ Finish ns tb repository created rest result ∧
      before = prior ++ past ∧ made = past ++ x :: later ∧ after = later ++ rest := by
  have here : x ∈ sent := split ▸ List.mem_append_right _ List.mem_cons_self
  cases h with
  | failed prelude | reused prelude => exact absurd hx (prelude.not_builds hk x here)
  | built prelude shown creation finish =>
      obtain ⟨past, later, hbefore, hmade, hafter⟩ := Resource.split_within (prelude.not_builds hk)
        (fun y hy => not_builds_of_isPost (finish.single y hy)) split hx
      exact ⟨_, _, _, past, later, _, _, prelude, creation, finish, hbefore, hmade, hafter⟩

theorem builds_posting (hk : tb.kind = .build) (reply : Reply) :
    Builds ns (Resource.posting ns tb reply) :=
  ⟨tb.document, by rw [Resource.posting, hk]⟩

theorem Provision.first_build (h : Provision ns ts tb w sent result) (hk : ts.kind ≠ .build)
    (hkb : tb.kind = .build) (split : sent = before ++ x :: after) (hx : Builds ns x)
    (first : ∀ y ∈ before, ¬ Builds ns y) : Prelude ns ts tb w before (.ok none) := by
  obtain ⟨prior, made, rest, past, later, created, repository, prelude, creation, -, rfl, hmade, -⟩ :=
    h.builds hk split hx
  obtain ⟨reply, tail, hposting⟩ := creation.exists_posting
  cases past with
  | nil => rwa [List.append_nil]
  | cons y past =>
      obtain ⟨rfl, -⟩ := List.cons.inj (hposting.symm.trans hmade)
      exact absurd (builds_posting hkb reply) (first _ (by simp))

/-- Once the build is accepted it is watched, and if that fails it is let be. -/
theorem Provision.accepted_build (h : Provision ns ts tb w sent result) (hk : ts.kind ≠ .build)
    (split : sent = before ++ x :: after) (hx : Builds ns x) {document : Document}
    (hreply : x.reply = .ok document) :
    ∃ looks rest ready, after = looks ++ rest ∧ (tb.readyWait ns w).Ends looks ready ∧
      ∀ e, ready = .error e → (∀ y ∈ after, y.request.Reads) ∧ result = .error e := by
  obtain ⟨prior, made, rest, past, later, created, repository, -, creation, finish, -, hmade, rfl⟩ :=
    h.builds hk split hx
  obtain ⟨ready, wait, rfl⟩ := creation.post_accepted hmade hx.isPost hreply
  refine ⟨later, rest, ready, rfl, wait, ?_⟩
  rintro e rfl
  cases finish
  rw [List.append_nil]
  exact ⟨wait.forall_mem fun _ => Template.reads_exchanges, rfl⟩

theorem Provision.provided {image : BuiltImage} (h : Provision ns ts tb w sent (.ok image))
    (hk : ts.kind ≠ .build) (hkb : tb.kind = .build) :
    (∃ repository, image.image = ImageStreamTemplate.imageOf repository ∧
      ∃ x ∈ sent, ShowsRepository ns ts repository x) ∧
    (image.reused = true ↔ ∀ x ∈ sent, ¬ Builds ns x) ∧
    (image.reused = false → ∃ before looks object reads removal,
      sent = before ++ (looks ++ (reads ++ removal)) ∧ (tb.readyWait ns w).Ends looks (.ok object) ∧
      (∀ x ∈ reads, x.request.Reads) ∧ Resource.Removed ns tb removal) := by
  generalize hr : Except.ok image = result at h
  cases h with
  | failed => cases hr
  | reused prelude =>
      cases hr
      exact ⟨prelude.image_shown, iff_of_true rfl (prelude.not_builds hk), nofun⟩
  | @built prior made rest created _ repository prelude shown creation finish =>
      subst hr
      obtain ⟨reply, tail, hposting⟩ := creation.exists_posting
      obtain ⟨x, hx, shows⟩ := shown
      cases finish with
      | @removed reads removal logs read removed =>
          refine ⟨⟨repository, rfl, x, List.mem_append_left _ hx, shows⟩, ?_, fun _ => ?_⟩
          · refine iff_of_false nofun fun none => ?_
            exact none (Resource.posting ns tb reply) (by simp [hposting]) (builds_posting hkb reply)
          · obtain ⟨posted, looks, object, rfl, wait⟩ := creation.of_ok
            exact ⟨prior ++ posted, looks, object, reads, removal, by simp, wait, read, removed⟩

theorem Provision.ne_missingField {e : LifecycleError} (h : Provision ns ts tb w sent (.error e))
    (kind : ResourceKind) (name field : String) : e ≠ .missingField kind name field := by
  generalize hr : Except.error e = result at h
  cases h with
  | failed prelude =>
      cases hr
      exact prelude.ne_missingField kind name field
  | reused => cases hr
  | built prelude shown creation finish =>
      subst hr
      cases finish with
      | unbuilt => exact creation.ne_missingField kind name field
      | unremoved clears => nofun

end

/-- Of what goes by a name, only the build is deleted. -/
theorem Provides.of_deletes {ts tb : Template} {r : Request} {kind : ResourceKind} {name : String}
    (h : Provides ns ts tb r) (hd : r.Deletes (kind.instancePath ns name)) :
    kind = tb.kind ∧ name = tb.name := by
  obtain h | h | h := h
  · cases hd.symm.trans h
  · cases hd.symm.trans h
  · exact h.of_deletes hd

theorem repository_of_verdict (ts : ImageStreamTemplate) (p : Poll) (object : Json)
    (h : ts.template.verdict p = some (.ok object)) :
    ∃ repository, ImageStreamTemplate.repository? object = some repository := by
  obtain ⟨_, _, -, -, -, ready⟩ := Template.judge_ok (Template.verdict_eq_ok.1 h)
  have ready : ImageStreamTemplate.readiness object = .ready := ready
  unfold ImageStreamTemplate.readiness at ready
  split at ready
  case isTrue given => exact Option.isSome_iff_exists.1 given
  case isFalse => cases ready

theorem ne_empty_of_showsRepository {ts : Template} {repository : String} {x : Exchange}
    (h : ShowsRepository ns ts repository x) : repository ≠ "" := by
  obtain ⟨-, _, _, -, -, given⟩ := h
  simpa using (Option.filter_eq_some_iff.1 given).2

/-- However the cluster answers, the build is posted only right after builds were listed, none of which
was of another name and not over, and the stream was then shown without a repository or a resolved tag.
An accepted build is watched and, if that fails, let be. No stream and no build of another name is
deleted. The image is of a repository that the stream was shown with; it is new only if the own build
was shown ready and is gone. -/
theorem run_reuses_or_builds (ts : ImageStreamTemplate) (tb : BuildTemplate)
    (hb : HasTemplates ts.template tb.template b) {result : Except LifecycleError BuiltImage}
    (h : RanWith (run ns w) b log result b') :
    (∀ before x after, traffic log = before ++ x :: after → Builds ns x →
      x.request = .post (ResourceKind.build.collectionPath ns) tb.template.document ∧
      ((∀ y ∈ before, ¬ Builds ns y) → ∃ earlier builds items reply,
        before = earlier ++ [⟨.get (listing ns ts.name), builds⟩,
          ⟨.get (ResourceKind.imageStream.instancePath ns ts.name), reply⟩] ∧
        Calling.listed builds = .ok items ∧
        (∀ build ∈ items, ∀ other, Template.nameOf build = some other → other ≠ tb.name →
          BuildTemplate.isOver build = true) ∧
        ¬ Exchange.Shows (ResourceKind.imageStream.instancePath ns ts.name)
          (fun stream => ImageStreamTemplate.isResolved stream = true ∧
            (ImageStreamTemplate.repository? stream).isSome = true)
          ⟨.get (ResourceKind.imageStream.instancePath ns ts.name), reply⟩) ∧
      ∀ document, x.reply = .ok document → ∃ looks rest ready, after = looks ++ rest ∧
        (tb.template.readyWait ns w).Ends looks ready ∧
        ∀ e, ready = .error e → (∀ y ∈ after, y.request.Reads) ∧ result = .error e) ∧
    (∀ x ∈ traffic log, ∀ name,
      ¬ x.request.Deletes (ResourceKind.imageStream.instancePath ns name) ∧
      (x.request.Deletes (ResourceKind.build.instancePath ns name) → name = tb.name)) ∧
    (∀ image, result = .ok image →
      (∃ repository, repository ≠ "" ∧ image.image = ImageStreamTemplate.imageOf repository ∧
        ∃ x ∈ traffic log, ShowsRepository ns ts.template repository x) ∧
      (image.reused = true ↔ ∀ x ∈ traffic log, ¬ Builds ns x) ∧
      (image.reused = false → ∃ before looks object reads removal,
        traffic log = before ++ (looks ++ (reads ++ removal)) ∧
        (tb.template.readyWait ns w).Ends looks (.ok object) ∧ (∀ x ∈ reads, x.request.Reads) ∧
        Resource.Removed ns tb.template removal)) ∧
    ∀ kind name field, result ≠ .error (.missingField kind name field) := by
  have provision := ran_run hb (repository_of_verdict ts) h
  have hk : ts.template.kind ≠ .build := nofun
  refine ⟨fun before x after split builds => ⟨?_, fun first => ?_, fun document =>
    provision.accepted_build hk split builds⟩, fun x hx name => ?_, ?_, ?_⟩
  · obtain ⟨_, made, _, past, later, _, _, -, creation, -, -, hmade, -⟩ :=
      provision.builds hk split builds
    have hx : x ∈ made := hmade ▸ List.mem_append_right past List.mem_cons_self
    exact creation.request_of_isPost hx builds.isPost
  · obtain ⟨earlier, listed, items, reply, hbefore, hl, alone, image⟩ :=
      (provision.first_build hk rfl split builds first).alone
    exact ⟨earlier, listed, items, reply, hbefore, hl, others_eq_nil.1 alone,
      not_shows_of_streamImage ts.template image⟩
  · have provides := (keeps_run rfl b hb _ _ _ h).2 x hx
    refine ⟨fun hd => ?_, fun hd => (provides.of_deletes hd).2⟩
    cases (provides.of_deletes hd).1
  · rintro image rfl
    obtain ⟨⟨repository, himage, x, hx, shows⟩, reused, built⟩ := provision.provided hk rfl
    exact ⟨⟨repository, ne_empty_of_showsRepository shows, himage, x, hx, shows⟩, reused, built⟩
  · rintro kind name field rfl
    exact provision.ne_missingField kind name field rfl

def sampleStream : ImageStreamTemplate := ⟨⟨"s", ∅⟩⟩

def sampleBuild : BuildTemplate := ⟨⟨"b", ∅⟩, "s", ⟨"git", "master", none⟩⟩

/-- The stream does not exist, is given a repository, and stays without an image. Nobody else builds, and
the build is completed. -/
def unbuilt : Nat → (op : ClusterOp) → op.Answer
  | _, .pause _ => false
  | 0, .send _ => .error (.api 404 "")
  | 3, .send _ | 5, .send _ =>
      .ok (.json (.mk [("status", .mk [("dockerImageRepository", .string "r")])]))
  | 8, .send _ => .ok (.json (.mk [("status", .mk [("phase", .string "Complete")])]))
  | _, .send _ => .ok .empty

def sampleRun : List (Event clusterInterface) × Except LifecycleError BuiltImage × ImageBuild :=
  ((run "ns" ⟨10, 25⟩).run.run (ofTemplates sampleStream sampleBuild)).play unbuilt 0

theorem run_reuses_or_builds_sample :
    RanWith (run "ns" ⟨10, 25⟩) (ofTemplates sampleStream sampleBuild) sampleRun.1 sampleRun.2.1
      sampleRun.2.2 ∧
    sampleRun.2.1 = .ok ⟨"r:latest", none, false⟩ ∧
    ∃ repository, "r:latest" = ImageStreamTemplate.imageOf repository ∧
      ∃ x ∈ traffic sampleRun.1, ShowsRepository "ns" sampleStream.template repository x := by
  have ran : RanWith (run "ns" ⟨10, 25⟩) (ofTemplates sampleStream sampleBuild) sampleRun.1 sampleRun.2.1
      sampleRun.2.2 := Script.ran_play (I := clusterInterface) unbuilt 0 _
  have provided : sampleRun.2.1 = .ok ⟨"r:latest", none, false⟩ := by decide +kernel
  obtain ⟨-, -, images, -⟩ := run_reuses_or_builds sampleStream sampleBuild ⟨rfl, rfl⟩ ran
  obtain ⟨⟨repository, -, himage, shown⟩, -⟩ := images _ provided
  exact ⟨ran, provided, repository, himage, shown⟩

end ImageBuild
end ImageryJobs
