import ImageryJobs.Cluster.Template.Basic
import ImageryJobs.Cluster.Watch
import ImageryJobs.Proofs.Runs

/-!
The requests of a run and their answers, without the pauses in between. `Sends` bounds what a
script may request whatever it is answered; `Keeps` does so for computations with a state, of
which it also keeps an invariant. Both are shown rule by rule along the code.
-/

namespace ImageryJobs

/-- A request that was sent, and its answer. -/
structure Exchange where
  request : Request
  reply : Reply

namespace Request

def Reads (r : Request) : Prop := r.verb = .get

/-- Creates an object of a name in a collection. -/
def Posts (collection name : String) (r : Request) : Prop :=
  ∃ document, r = .post collection document ∧ Template.nameOf document = some name

/-- Creates nothing without a name. -/
def Named (r : Request) : Prop :=
  ∀ collection document, r = .post collection document →
    ∃ name, Template.nameOf document = some name

def Deletes (path : String) (r : Request) : Prop := r = .delete path

theorem posts_iff {r : Request} {collection name : String} :
    r.Posts collection name ↔ r.api = .controlPlane ∧ r.verb = .post ∧ r.path = collection ∧
      r.body.bind Template.nameOf = some name := by
  constructor
  · intro ⟨document, h, hn⟩
    subst h
    exact ⟨rfl, rfl, rfl, hn⟩
  · obtain ⟨api, verb, path, body⟩ := r
    intro ⟨ha, hv, hp, hb⟩
    dsimp only at ha hv hp hb
    obtain ⟨document, hd, hn⟩ := Option.bind_eq_some_iff.1 hb
    subst ha hv hp hd
    exact ⟨document, rfl, hn⟩

instance (r : Request) (collection name : String) : Decidable (r.Posts collection name) :=
  decidable_of_iff _ posts_iff.symm

@[simp] theorem reads_get (path : String) : (get path).Reads := rfl

theorem Reads.not_posts {r : Request} (h : r.Reads) (collection name : String) :
    ¬ r.Posts collection name := by
  intro given
  obtain ⟨document, rfl, _⟩ := given
  cases h

theorem Reads.not_deletes {r : Request} (h : r.Reads) (path : String) : ¬ r.Deletes path := by
  intro heq
  subst heq
  cases h

end Request

/-- A document was found under a path, and its content is as `p` says. -/
def Exchange.Shows (path : String) (p : Json → Prop) (x : Exchange) : Prop :=
  x.request = .get path ∧
    ∃ document object, x.reply = .ok document ∧ document.toJson = .ok object ∧ p object

theorem Exchange.Shows.mono {path : String} {p q : Json → Prop} {x : Exchange} (h : x.Shows path p)
    (hpq : ∀ object, p object → q object) : x.Shows path q := by
  obtain ⟨hr, document, object, hd, ho, hp⟩ := h
  exact ⟨hr, document, object, hd, ho, hpq object hp⟩

namespace ClusterScript

/-- What an event sent, unless it was a pause. -/
def exchange? : Event clusterInterface → Option Exchange
  | ⟨.send request, reply⟩ => some ⟨request, reply⟩
  | ⟨.pause _, _⟩ => none

/-- What was sent, in order. -/
def traffic (log : List (Event clusterInterface)) : List Exchange := log.filterMap exchange?

@[simp] theorem traffic_nil : traffic [] = [] := rfl

@[simp] theorem traffic_append (log log' : List (Event clusterInterface)) :
    traffic (log ++ log') = traffic log ++ traffic log' := List.filterMap_append

variable {α β : Type}

theorem ran_send {request : Request} {log : List (Event clusterInterface)} {reply : Reply}
    (h : (send request).Ran log reply) : traffic log = [⟨request, reply⟩] := by
  rw [Script.ran_perform.1 h]
  rfl

theorem ran_pause {span : Millis} {log : List (Event clusterInterface)} {tripped : Bool}
    (h : (pause span).Ran log tripped) : traffic log = [] := by
  rw [Script.ran_perform.1 h]
  rfl

/-- Every request that the script may send has `P`. -/
def Sends (P : Request → Prop) (s : ClusterScript α) : Prop :=
  ∀ log value, s.Ran log value → ∀ x ∈ traffic log, P x.request

variable {P Q : Request → Prop}

theorem Sends.mono {s : ClusterScript α} (h : Sends P s) (hpq : ∀ r, P r → Q r) : Sends Q s :=
  fun log value hr x hx => hpq _ (h log value hr x hx)

theorem sends_pure (value : α) : Sends P (pure value : ClusterScript α) := by
  intro log value' h
  rw [(Script.ran_pure.1 h).1]
  exact List.forall_mem_nil _

theorem sends_send {request : Request} (h : P request) : Sends P (send request) := by
  intro log reply hr
  rw [ran_send hr]
  simpa using h

theorem sends_pause (span : Millis) : Sends P (pause span) := by
  intro log tripped hr
  rw [ran_pause hr]
  exact List.forall_mem_nil _

theorem sends_bind {s : ClusterScript α} {f : α → ClusterScript β} (hs : Sends P s)
    (hf : ∀ value, Sends P (f value)) : Sends P (s >>= f) := by
  intro log value h x hx
  obtain ⟨log₁, first, log₂, rfl, h₁, h₂⟩ := Script.ran_bind.1 h
  rw [traffic_append, List.mem_append] at hx
  obtain hx | hx := hx
  · exact hs _ _ h₁ x hx
  · exact hf _ _ _ h₂ x hx

theorem sends_map {s : ClusterScript α} (f : α → β) (hs : Sends P s) : Sends P (f <$> s) := by
  rw [map_eq_pure_bind]
  exact sends_bind hs fun _ => sends_pure _

section Failing

variable {ε ε' : Type}

theorem sends_run_bind {m : ExceptT ε ClusterScript α} {f : α → ExceptT ε ClusterScript β}
    (hm : Sends P m.run) (hf : ∀ value, Sends P (f value).run) : Sends P (m >>= f).run := by
  rw [ExceptT.run_bind]
  refine sends_bind hm fun result => ?_
  cases result with
  | ok value => exact hf value
  | error e => exact sends_pure _

theorem sends_run_pure (value : α) : Sends P (pure value : ExceptT ε ClusterScript α).run :=
  sends_pure _

theorem sends_run_throw (e : ε) : Sends P (throw e : ExceptT ε ClusterScript α).run :=
  sends_pure _

theorem sends_run_liftM {s : ClusterScript α} (h : Sends P s) :
    Sends P (liftM s : ExceptT ε ClusterScript α).run :=
  sends_map _ h

theorem sends_run_adapt (f : ε → ε') {m : ExceptT ε ClusterScript α} (h : Sends P m.run) :
    Sends P (ExceptT.adapt f m).run :=
  sends_map _ h

theorem sends_run_forM {γ : Type} {f : γ → ExceptT ε ClusterScript PUnit} (l : List γ)
    (h : ∀ x, Sends P (f x).run) : Sends P (l.forM f).run := by
  induction l with
  | nil => exact sends_run_pure _
  | cons x l ih => exact sends_run_bind (h x) fun _ => ih

theorem sends_run_foldlM {γ : Type} {f : α → γ → ExceptT ε ClusterScript α} (l : List γ)
    (h : ∀ found x, Sends P (f found x).run) (start : α) : Sends P (l.foldlM f start).run := by
  induction l generalizing start with
  | nil => exact sends_run_pure _
  | cons x l ih =>
      rw [List.foldlM_cons]
      exact sends_run_bind (h start x) fun found => ih found

end Failing

end ClusterScript

open ClusterScript

section Stateful

variable {σ ε ε' α β : Type} {inv : σ → Prop} {P Q : Request → Prop}

/-- From a state with `inv`, the computation ends in a state with `inv`, and every request that it
may send has `P`. -/
def Keeps (inv : σ → Prop) (P : Request → Prop) (m : ExceptT ε (StateT σ ClusterScript) α) :
    Prop :=
  ∀ s, inv s → ∀ log result s', RanWith m s log result s' →
    inv s' ∧ ∀ x ∈ traffic log, P x.request

theorem Keeps.mono {m : ExceptT ε (StateT σ ClusterScript) α} (h : Keeps inv P m)
    (hpq : ∀ r, P r → Q r) : Keeps inv Q m := by
  intro s hs log result s' hr
  obtain ⟨hs', hx⟩ := h s hs log result s' hr
  exact ⟨hs', fun x hm => hpq _ (hx x hm)⟩

theorem keeps_pure (value : α) :
    Keeps inv P (pure value : ExceptT ε (StateT σ ClusterScript) α) := by
  intro s hs log result s' h
  obtain ⟨rfl, -, rfl⟩ := ranWith_pure.1 h
  exact ⟨hs, List.forall_mem_nil _⟩

theorem keeps_throw (e : ε) : Keeps inv P (throw e : ExceptT ε (StateT σ ClusterScript) α) := by
  intro s hs log result s' h
  obtain ⟨rfl, -, rfl⟩ := ranWith_throw.1 h
  exact ⟨hs, List.forall_mem_nil _⟩

theorem keeps_bind {m : ExceptT ε (StateT σ ClusterScript) α}
    {f : α → ExceptT ε (StateT σ ClusterScript) β} (hm : Keeps inv P m)
    (hf : ∀ value, Keeps inv P (f value)) : Keeps inv P (m >>= f) := by
  intro s hs log result s' h
  obtain ⟨e, h, -⟩ | ⟨log₁, value, s₁, log₂, rfl, h₁, h₂⟩ := ranWith_bind.1 h
  · exact hm s hs _ _ _ h
  · obtain ⟨hs₁, hx₁⟩ := hm s hs _ _ _ h₁
    obtain ⟨hs', hx₂⟩ := hf value s₁ hs₁ _ _ _ h₂
    refine ⟨hs', fun x hx => ?_⟩
    rw [traffic_append, List.mem_append] at hx
    exact hx.elim (hx₁ x) (hx₂ x)

theorem keeps_get_bind {f : σ → ExceptT ε (StateT σ ClusterScript) β}
    (hf : ∀ s, inv s → Keeps inv P (f s)) :
    Keeps inv P (get >>= f : ExceptT ε (StateT σ ClusterScript) β) := by
  intro s hs log result s' h
  obtain ⟨e, h, -⟩ | ⟨log₁, value, s₁, log₂, rfl, h₁, h₂⟩ := ranWith_bind.1 h
  · simp at h
  · obtain ⟨rfl, hv, rfl⟩ := ranWith_get.1 h₁
    cases hv
    exact hf _ hs _ hs _ _ _ h₂

theorem keeps_modify {f : σ → σ} (h : ∀ s, inv s → inv (f s)) :
    Keeps inv P (modify f : ExceptT ε (StateT σ ClusterScript) PUnit) := by
  intro s hs log result s' hr
  obtain ⟨rfl, -, rfl⟩ := ranWith_modify.1 hr
  exact ⟨h s hs, List.forall_mem_nil _⟩

theorem keeps_liftM {script : ClusterScript α} (h : Sends P script) :
    Keeps inv P (liftM script : ExceptT ε (StateT σ ClusterScript) α) := by
  intro s hs log result s' hr
  obtain ⟨value, hv, -, rfl⟩ := ranWith_liftM.1 hr
  exact ⟨hs, h _ _ hv⟩

theorem keeps_mk_liftM {script : ClusterScript (Except ε α)} (h : Sends P script) :
    Keeps inv P (ExceptT.mk (liftM script) : ExceptT ε (StateT σ ClusterScript) α) := by
  intro s hs log result s' hr
  obtain ⟨hv, rfl⟩ := ranWith_mk_liftM.1 hr
  exact ⟨hs, h _ _ hv⟩

theorem keeps_adapt (f : ε → ε') {m : ExceptT ε (StateT σ ClusterScript) α}
    (h : Keeps inv P m) : Keeps inv P (ExceptT.adapt f m) := by
  intro s hs log result s' hr
  obtain ⟨first, hf, -⟩ := ranWith_adapt.1 hr
  exact h s hs _ _ _ hf

end Stateful

/-! ### Watching -/

section Watching

variable {σ ε α : Type} {inv : σ → Prop} {P : Request → Prop}

theorem keeps_poll (interval : Millis) {look : ExceptT ε (StateT σ ClusterScript) (Option α)}
    {cancelled expired : ExceptT ε (StateT σ ClusterScript) α} (hl : Keeps inv P look)
    (hc : Keeps inv P cancelled) (he : Keeps inv P expired) (looks : Nat) (left : Millis) :
    Keeps inv P (Watch.poll interval look cancelled expired looks left) := by
  induction looks generalizing left with
  | zero => exact he
  | succ looks ih =>
      rw [Watch.poll]
      refine keeps_bind hl fun found => ?_
      cases found with
      | some value => exact keeps_pure value
      | none =>
          refine keeps_bind (keeps_liftM (sends_pause _)) fun tripped => ?_
          split
          · exact hc
          · split
            · exact he
            · exact ih _

theorem keeps_guarded (w : Watch) {look : ExceptT ε (StateT σ ClusterScript) (Option α)}
    {cancelled expired : ExceptT ε (StateT σ ClusterScript) α} (hl : Keeps inv P look)
    (hc : Keeps inv P cancelled) (he : Keeps inv P expired) :
    Keeps inv P (w.guarded look cancelled expired) := by
  refine keeps_bind (keeps_liftM (sends_pause _)) fun tripped => ?_
  split
  · exact hc
  · split
    · exact he
    · exact keeps_poll _ hl hc he _ _

theorem sends_poll (interval : Millis) {look : ExceptT ε ClusterScript (Option α)}
    {cancelled expired : ExceptT ε ClusterScript α} (hl : Sends P look.run)
    (hc : Sends P cancelled.run) (he : Sends P expired.run) (looks : Nat) (left : Millis) :
    Sends P (Watch.poll interval look cancelled expired looks left).run := by
  induction looks generalizing left with
  | zero => exact he
  | succ looks ih =>
      rw [Watch.poll]
      refine sends_run_bind hl fun found => ?_
      cases found with
      | some value => exact sends_run_pure value
      | none =>
          refine sends_run_bind (sends_run_liftM (sends_pause _)) fun tripped => ?_
          split
          · exact hc
          · split
            · exact he
            · exact ih _

theorem sends_guarded (w : Watch) {look : ExceptT ε ClusterScript (Option α)}
    {cancelled expired : ExceptT ε ClusterScript α} (hl : Sends P look.run)
    (hc : Sends P cancelled.run) (he : Sends P expired.run) :
    Sends P (w.guarded look cancelled expired).run := by
  refine sends_run_bind (sends_run_liftM (sends_pause _)) fun tripped => ?_
  split
  · exact hc
  · split
    · exact he
    · exact sends_poll _ hl hc he _ _

theorem ranWith_poll_ok {interval : Millis}
    {look : ExceptT ε (StateT σ ClusterScript) (Option α)}
    {cancelled expired : ExceptT ε (StateT σ ClusterScript) α} (hl : Keeps inv P look)
    (hc : ∀ s log value s', ¬ RanWith cancelled s log (.ok value) s')
    (he : ∀ s log value s', ¬ RanWith expired s log (.ok value) s') {looks : Nat} {left : Millis}
    {s s' : σ} {log : List (Event clusterInterface)} {value : α} (hs : inv s)
    (h : RanWith (Watch.poll interval look cancelled expired looks left) s log (.ok value) s') :
    ∃ log₁ s₁ log₂, log = log₁ ++ log₂ ∧ inv s₁ ∧ RanWith look s₁ log₂ (.ok (some value)) s' := by
  induction looks generalizing left s log with
  | zero => exact absurd h (he _ _ _ _)
  | succ looks ih =>
      rw [Watch.poll] at h
      obtain ⟨log₁, found, s₁, log₂, rfl, h₁, h₂⟩ := ranWith_bind_ok.1 h
      cases found with
      | some value' =>
          obtain ⟨rfl, hv, rfl⟩ := ranWith_pure.1 h₂
          cases hv
          exact ⟨[], s, log₁, by simp, hs, h₁⟩
      | none =>
          have hs₁ := (hl s hs _ _ _ h₁).1
          obtain ⟨log₃, tripped, log₄, rfl, -, h₄⟩ := ranWith_liftM_bind.1 h₂
          split at h₄
          · exact absurd h₄ (hc _ _ _ _)
          · split at h₄
            · exact absurd h₄ (he _ _ _ _)
            · obtain ⟨log₅, s₃, log₆, rfl, hs₃, h⟩ := ih hs₁ h₄
              exact ⟨log₁ ++ (log₃ ++ log₅), s₃, log₆, by simp, hs₃, h⟩

theorem ranWith_guarded_ok {w : Watch} {look : ExceptT ε (StateT σ ClusterScript) (Option α)}
    {cancelled expired : ExceptT ε (StateT σ ClusterScript) α} (hl : Keeps inv P look)
    (hc : ∀ s log value s', ¬ RanWith cancelled s log (.ok value) s')
    (he : ∀ s log value s', ¬ RanWith expired s log (.ok value) s') {s s' : σ}
    {log : List (Event clusterInterface)} {value : α} (hs : inv s)
    (h : RanWith (w.guarded look cancelled expired) s log (.ok value) s') :
    ∃ log₁ s₁ log₂, log = log₁ ++ log₂ ∧ inv s₁ ∧ RanWith look s₁ log₂ (.ok (some value)) s' := by
  obtain ⟨log₁, tripped, log₂, rfl, -, h₂⟩ := ranWith_liftM_bind.1 h
  split at h₂
  · exact absurd h₂ (hc _ _ _ _)
  · split at h₂
    · exact absurd h₂ (he _ _ _ _)
    · obtain ⟨log₃, s₃, log₄, rfl, hs₃, h⟩ := ranWith_poll_ok hl hc he hs h₂
      exact ⟨log₁ ++ log₃, s₃, log₄, by simp, hs₃, h⟩

end Watching
end ImageryJobs
