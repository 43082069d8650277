import ImageryJobs.Proofs.Cluster.Contracts
import ImageryJobs.Proofs.Traffic

/-!
Waits and how they end. A wait is given by what a look sends and by what its answers decide. It looks
until one look decides, and ends with what that one decides; or it is given up, because the work is
cancelled or no time is left, after looks that decide nothing.
-/

namespace ImageryJobs

open ClusterScript

/-- Whether a wait can fail so: not because a name is taken, nor because a field is missing. -/
def LifecycleError.endsWait : LifecycleError → Bool
  | .failed .. | .watchTimeout .. | .cancelled .. | .cluster _ => true
  | .conflict .. | .missingField .. => false

/-- A wait: what its looks send and what their answers decide, and how it ends otherwise. -/
structure Wait (π ε α : Type) where
  /-- Which answers a look can have. -/
  asked : π → Prop
  exchanges : π → List Exchange
  verdict : π → Option (Except ε α)
  cancelled : ε
  expired : ε

namespace Wait

variable {π ε α : Type}

/-- Looks that decide nothing. -/
def Idle (wait : Wait π ε α) (polls : List π) : Prop :=
  ∀ p ∈ polls, wait.asked p ∧ wait.verdict p = none

/-- What was sent until a wait was over, and its end. -/
inductive Ends (wait : Wait π ε α) : List Exchange → Except ε α → Prop where
  | decided {polls : List π} {p : π} {result : Except ε α} (idle : wait.Idle polls)
      (asked : wait.asked p) (verdict : wait.verdict p = some result) :
      Ends wait (polls.flatMap wait.exchanges ++ wait.exchanges p) result
  | cancelled {polls : List π} (idle : wait.Idle polls) :
      Ends wait (polls.flatMap wait.exchanges) (.error wait.cancelled)
  | expired {polls : List π} (idle : wait.Idle polls) :
      Ends wait (polls.flatMap wait.exchanges) (.error wait.expired)

variable {wait : Wait π ε α} {polls : List π} {p : π} {sent : List Exchange}

theorem Idle.concat (h : wait.Idle polls) (asked : wait.asked p) (none : wait.verdict p = none) :
    wait.Idle (polls ++ [p]) :=
  List.forall_mem_append.2 ⟨h, List.forall_mem_singleton.2 ⟨asked, none⟩⟩

theorem Ends.of_ok {value : α} (h : wait.Ends sent (.ok value)) :
    ∃ polls p, wait.Idle polls ∧ wait.asked p ∧ wait.verdict p = some (.ok value) ∧
      sent = polls.flatMap wait.exchanges ++ wait.exchanges p := by
  cases h with
  | decided idle asked verdict => exact ⟨_, _, idle, asked, verdict, rfl⟩

theorem Ends.of_error {e : ε} (h : wait.Ends sent (.error e)) :
    e = wait.cancelled ∨ e = wait.expired ∨ ∃ p, wait.verdict p = some (.error e) := by
  cases h with
  | decided idle asked verdict => exact .inr (.inr ⟨_, verdict⟩)
  | cancelled idle => exact .inl rfl
  | expired idle => exact .inr (.inl rfl)

theorem Ends.forall_mem {P : Exchange → Prop} {result : Except ε α} (h : wait.Ends sent result)
    (looks : ∀ p, ∀ x ∈ wait.exchanges p, P x) : ∀ x ∈ sent, P x := by
  have before (polls : List π) : ∀ x ∈ polls.flatMap wait.exchanges, P x := fun x hx => by
    obtain ⟨p, -, hx⟩ := List.mem_flatMap.1 hx
    exact looks p x hx
  cases h with
  | decided idle asked verdict => exact List.forall_mem_append.2 ⟨before _, looks _⟩
  | cancelled idle => exact before _
  | expired idle => exact before _

/-- So far nothing was decided. -/
def Open (wait : Wait π ε α) (sent : List Exchange) : Prop :=
  ∃ polls, wait.Idle polls ∧ sent = polls.flatMap wait.exchanges

end Wait

namespace ClusterScript

/-- Rules whose state is what was sent. -/
def tracing : Rules clusterInterface (List Exchange) :=
  ⟨fun _ _ => True, fun sent e sent' => sent' = sent ++ (exchange? e).toList⟩

theorem path_tracing (sent : List Exchange) (log : List (Event clusterInterface)) :
    tracing.Path sent log (sent ++ traffic log) := by
  induction log generalizing sent with
  | nil =>
      rw [traffic_nil, List.append_nil]
      exact .nil sent
  | cons e log ih =>
      have rest := ih (sent ++ (exchange? e).toList)
      have split : traffic (e :: log) = (exchange? e).toList ++ traffic log := by
        rw [traffic, List.filterMap_cons]
        cases exchange? e <;> rfl
      rw [List.append_assoc, ← split] at rest
      exact .cons rfl rest

theorem traced {α : Type} {s : ClusterScript α} {post : α → List Exchange → Prop}
    (h : s.Meets tracing [] post) {log : List (Event clusterInterface)} {value : α}
    (ran : s.Ran log value) : post value (traffic log) :=
  h.rest ran (path_tracing [] log)

theorem tracedOr {ε α : Type} {m : ExceptT ε ClusterScript α} {P : Except ε α → List Exchange → Prop}
    (h : MeetsOr tracing m [] (fun value => P (.ok value)) fun e => P (.error e))
    {log : List (Event clusterInterface)} {result : Except ε α} (ran : m.run.Ran log result) :
    P result (traffic log) :=
  ending_iff.1 (traced h ran)

theorem tracedWith {ε τ α : Type} {m : ExceptT ε (StateT τ ClusterScript) α} {r r' : τ}
    {P : Except ε α → List Exchange → Prop}
    (h : MeetsWith tracing m r [] (fun value _ => P (.ok value)) fun e _ => P (.error e))
    {log : List (Event clusterInterface)} {result : Except ε α} (ran : RanWith m r log result r') :
    P result (traffic log) :=
  ending_iff.1 (traced h ran)

/-- Rules that allow everything and note what is sent. -/
structure Notes {σ : Type} (R : Rules clusterInterface σ) (noted : σ → List Exchange → σ) : Prop where
  allows : ∀ x op, R.allows x op
  send : ∀ {x x' : σ} {request : Request} {reply : Reply},
    R.moves x ⟨.send request, reply⟩ x' → x' = noted x [⟨request, reply⟩]
  append : ∀ x l l', noted (noted x l) l' = noted x (l ++ l')

theorem notes_tracing : Notes tracing (· ++ ·) := ⟨fun _ _ => trivial, id, List.append_assoc⟩

end ClusterScript

/-! ### Loops -/

section

-- The states of the computation show through `line` what is noted; `inv` is what all parts keep.
variable {π ε α σ : Type} {m : Type → Type} [Monad m] [MonadLiftT ClusterScript m] {S : Type}

/-- The parts of a loop that waits: a look asks and decides as the wait says, a pause is only that, and
the loop is given up as the wait says. All ends establish `ended`. -/
structure Wait.Parts (wait : Wait π ε α) (R : Rules clusterInterface σ) (noted : σ → List Exchange → σ)
    (C : Calculus m S) (line : S → σ) (inv : S → Prop) (ended : Except ε α → σ → Prop)
    (look : m (Option α)) (cancelled expired : m α) : Prop where
  look : ∀ s post, inv s →
    (∀ p found s', inv s' → wait.asked p → line s' = noted (line s) (wait.exchanges p) →
      wait.verdict p = Option.map .ok found → post found s') →
    (∀ p e s', inv s' → wait.asked p → line s' = noted (line s) (wait.exchanges p) →
      wait.verdict p = some (.error e) → ended (.error e) (line s')) →
    C.meets look s post
  pause : ∀ (span : Nat) s post, inv s →
    (∀ early s', inv s' → R.moves (line s) ⟨.pause span, early⟩ (line s') → post early s') →
    C.meets (liftM (ClusterScript.pause span : ClusterScript Bool) : m Bool) s post
  cancelled : ∀ s, inv s → ended (.error wait.cancelled) (line s) →
    C.meets cancelled s fun value s => ended (.ok value) (line s)
  expired : ∀ s, inv s → ended (.error wait.expired) (line s) →
    C.meets expired s fun value s => ended (.ok value) (line s)

namespace Watch

variable {C : Calculus m S} {w : Watch} {look : m (Option α)} {cancelled expired : m α}
  {wait : Wait π ε α} {sent : S → List Exchange} {inv : S → Prop}
  (parts : wait.Parts tracing (· ++ ·) C sent inv (fun result sent => wait.Ends sent result) look
    cancelled expired)
include parts

theorem meets_look_open {s : S} (hs : inv s ∧ wait.Open (sent s)) :
    C.meets look s fun found s =>
      match found with
      | some value => wait.Ends (sent s) (.ok value)
      | none => inv s ∧ wait.Open (sent s) := by
  obtain ⟨hs, polls, idle, hsent⟩ := hs
  refine parts.look s _ hs (fun p found s' hs' asked told verdict => ?_)
    fun p e s' _ asked told verdict => ?_
  · rw [hsent] at told
    cases found with
    | some value => exact told ▸ .decided idle asked verdict
    | none => exact ⟨hs', polls ++ [p], idle.concat asked verdict, by simpa using told⟩
  · rw [hsent] at told
    exact told ▸ .decided idle asked verdict

theorem meets_pause_open (span : Nat) {s : S} (hs : inv s ∧ wait.Open (sent s)) :
    C.meets (liftM (pause span : ClusterScript Bool) : m Bool) s fun early s =>
      if early then C.meets cancelled s fun value s => wait.Ends (sent s) (.ok value)
      else inv s ∧ wait.Open (sent s) := by
  obtain ⟨hs, polls, idle, hsent⟩ := hs
  refine parts.pause span s _ hs fun early s' hs' moved => ?_
  have hsent' : sent s' = polls.flatMap wait.exchanges :=
    moved.trans ((List.append_nil _).trans hsent)
  cases early with
  | true => exact parts.cancelled s' hs' (hsent' ▸ .cancelled idle)
  | false => exact ⟨hs', polls, idle, hsent'⟩

theorem meets_expired_open {s : S} (hs : inv s ∧ wait.Open (sent s)) :
    C.meets expired s fun value s => wait.Ends (sent s) (.ok value) := by
  obtain ⟨hs, polls, idle, hsent⟩ := hs
  exact parts.expired s hs (hsent ▸ .expired idle)

theorem meets_untilDecided_ends {s : S} (hs : inv s) (hsent : sent s = []) :
    C.meets (untilDecided w look cancelled expired) s fun value s => wait.Ends (sent s) (.ok value) := by
  let opened (_ : Nat) (s : S) : Prop := inv s ∧ wait.Open (sent s)
  exact meets_untilDecided (W := opened) (D := opened)
    (fun _ s hs => meets_look_open parts hs)
    (fun _ span s hs => meets_pause_open parts span hs)
    (fun _ s hs _ => meets_expired_open parts hs)
    ⟨hs, [], List.forall_mem_nil _, hsent⟩

theorem meets_guarded_ends {s : S} (hs : inv s) (hsent : sent s = []) :
    C.meets (guarded w look cancelled expired) s fun value s => wait.Ends (sent s) (.ok value) := by
  let opened (_ : Nat) (s : S) : Prop := inv s ∧ wait.Open (sent s)
  exact meets_guarded (W := opened) (D := opened)
    (fun _ s hs => meets_look_open parts hs)
    (fun _ span s hs => meets_pause_open parts span hs)
    (fun _ s hs _ => meets_expired_open parts hs)
    ⟨hs, [], List.forall_mem_nil _, hsent⟩

end Watch

end

/-! ### Objects -/

namespace Template

/-- What a look sends: it asks about the object, and for its pods if there may be some. -/
def exchanges (ns : String) (t : Template) (p : Poll) : List Exchange :=
  ⟨.get (t.kind.instancePath ns t.name), p.object⟩ ::
    match t.podSelector, p.pods with
    | some selector, some pods => [⟨.get (listPath (podsPath ns) selector), pods⟩]
    | _, _ => []

theorem reads_exchanges {ns : String} {t : Template} {p : Poll} :
    ∀ x ∈ t.exchanges ns p, x.request.Reads := by
  refine List.forall_mem_cons.2 ⟨Request.reads_get _, ?_⟩
  split
  · exact List.forall_mem_singleton.2 (Request.reads_get _)
  · exact List.forall_mem_nil _

/-- The wait until an object is ready. -/
def readyWait (ns : String) (t : Template) (w : Watch) : Wait Poll LifecycleError Json where
  asked := t.Asked
  exchanges := t.exchanges ns
  verdict := t.verdict
  cancelled := .cancelled t.kind t.name
  expired := .watchTimeout t.kind t.name w.timeout

/-- The wait until an object is gone. -/
def goneWait (ns : String) (t : Template) (w : Watch) : Wait Reply LifecycleError Unit where
  asked _ := True
  exchanges reply := [⟨.get (t.kind.instancePath ns t.name), reply⟩]
  verdict := goneVerdict
  cancelled := .cancelled t.kind t.name
  expired := .watchTimeout t.kind t.name w.timeout

variable {ns : String} {t : Template} {w : Watch} {sent : List Exchange} {e : LifecycleError}

theorem endsWait_of_verdict {p : Poll} (h : t.verdict p = some (.error e)) : e.endsWait = true := by
  unfold verdict at h
  split at h <;> (cases h; try rfl)

theorem endsWait_of_goneVerdict {reply : Reply} (h : goneVerdict reply = some (.error e)) :
    e.endsWait = true := by
  cases reply with
  | ok document => cases h
  | error cause =>
      cases hn : cause.isNotFound with
      | true => simp [goneVerdict, hn] at h
      | false =>
          obtain rfl : LifecycleError.cluster cause = e := by simpa [goneVerdict, hn] using h
          rfl

theorem endsWait_of_readyWait (h : (t.readyWait ns w).Ends sent (.error e)) : e.endsWait = true := by
  obtain rfl | rfl | ⟨p, verdict⟩ := h.of_error
  · rfl
  · rfl
  · exact endsWait_of_verdict verdict

theorem endsWait_of_goneWait (h : (t.goneWait ns w).Ends sent (.error e)) : e.endsWait = true := by
  obtain rfl | rfl | ⟨p, verdict⟩ := h.of_error
  · rfl
  · rfl
  · exact endsWait_of_goneVerdict verdict

end Template

namespace Resource

variable {ns : String} {w : Watch} {r r' : Resource} {log : List (Event clusterInterface)}

section

variable {σ : Type} {R : Rules clusterInterface σ} {noted : σ → List Exchange → σ}

theorem looking_noted (notes : Notes R noted) (ns : String) (t : Template) (x : σ) :
    Looking R ns t (· = x) fun object pods x' => x' = noted x (t.exchanges ns ⟨object, pods⟩) := by
  constructor
  · rintro _ rfl
    refine ⟨notes.allows _ _, fun reply x' moved => (notes.send moved).trans ?_⟩
    cases hs : t.podSelector <;> simp [Template.exchanges, hs]
  · rintro reply selector hs _ rfl
    refine ⟨notes.allows _ _, fun pods x' moved => (notes.send moved).trans ?_⟩
    rw [notes.append]
    simp [Template.exchanges, hs]

theorem parts_waitReady (notes : Notes R noted) (ns : String) (t : Template) (w : Watch)
    (ended : Except LifecycleError Json → σ → Prop) :
    (t.readyWait ns w).Parts R noted (.stateful R fun e _ x => ended (.error e) x) Prod.snd
      (fun s : Resource × σ => s.1.template = t) ended (look ns) (throw (.cancelled t.kind t.name))
      (fail (.watchTimeout t.kind t.name w.timeout)) where
  look s post hs found failed := by
    refine Calculus.meets_stateful.2
      ((meetsWith_look_verdict (looking_noted notes ns t s.2) hs rfl).mono ?_ ?_)
    · rintro value r' x' ⟨ht', -, p, asked, told, verdict⟩
      exact found p value (r', x') ht' asked told verdict
    · rintro e r' x' ⟨ht', p, asked, told, verdict⟩
      exact failed p e (r', x') ht' asked told verdict
  pause span s post hs paused := by
    refine Calculus.meets_stateful.2 (meetsWith_liftM.2 ⟨notes.allows _ _, fun early x' moved => ?_⟩)
    exact paused early (s.1, x') hs moved
  cancelled _ _ h := h
  expired _ _ h := h

theorem parts_waitGone (notes : Notes R noted) (ns : String) (t : Template) (w : Watch)
    (ended : Except LifecycleError Unit → σ → Prop) :
    (t.goneWait ns w).Parts R noted (.failing R fun e => ended (.error e)) id (fun _ => True) ended
      (goneLook (t.kind.instancePath ns t.name)) (throw (.cancelled t.kind t.name))
      (throw (.watchTimeout t.kind t.name w.timeout)) where
  look s post _ found failed := by
    refine Calculus.meets_failing.2 (meetsOr_goneLook.2 ⟨notes.allows _ _, fun reply x' moved => ?_⟩)
    have told := notes.send moved
    split
    case h_1 verdict => exact found reply none x' trivial trivial told verdict
    case h_2 verdict => exact found reply (some ()) x' trivial trivial told verdict
    case h_3 e verdict => exact failed reply e x' trivial trivial told verdict
  pause span s post _ paused := by
    refine Calculus.meets_failing.2 (meetsOr_liftM.2 ⟨notes.allows _ _, fun early x' moved => ?_⟩)
    exact paused early x' trivial moved
  cancelled _ _ h := h
  expired _ _ h := h

end

theorem ran_waitReady {result : Except LifecycleError Json}
    (h : RanWith (waitReady ns w) r log result r') :
    (r.template.readyWait ns w).Ends (traffic log) result := by
  refine tracedWith (P := fun result sent => (r.template.readyWait ns w).Ends sent result) ?_ h
  rw [waitReady, meetsWith_get_bind]
  exact Calculus.meets_stateful.1 (Watch.meets_guarded_ends
    (parts_waitReady notes_tracing ns r.template w _) (s := (r, [])) rfl rfl)

theorem ran_waitGone {result : Except LifecycleError Unit}
    (h : (waitGone ns w r).run.Ran log result) :
    (r.template.goneWait ns w).Ends (traffic log) result := by
  refine tracedOr (P := fun result sent => (r.template.goneWait ns w).Ends sent result) ?_ h
  rw [waitGone_eq]
  exact Calculus.meets_failing.1 (Watch.meets_guarded_ends
    (parts_waitGone notes_tracing ns r.template w _) trivial rfl)

end Resource
end ImageryJobs
