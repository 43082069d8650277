import ImageryJobs.Proofs.Cluster.Building

/-!
How long the work on an object may last. A budget of time is given before the work: every pause takes
its span from it, and nothing else does. A watch looks again as long as its deadline is ahead, so it
needs no more than its timeout, whatever the cluster answers.
-/

namespace ImageryJobs

open ClusterScript

/-- The time that an operation may take. -/
def ClusterOp.span : ClusterOp → Nat
  | .send _ => 0
  | .pause span => span

/-- The rules of a budget. The state is what is left of it. -/
def budget : Rules clusterInterface Nat :=
  ⟨fun left op => op.span ≤ left, fun left e left' => left' = left - e.op.span⟩

/-- So much is left at least. -/
def Left (n left : Nat) : Prop := n ≤ left

theorem Left.spare {n m left : Nat} (h : Left (n + m) left) : Left n left :=
  Nat.le_trans (Nat.le_add_right n m) h

theorem left_send (n : Nat) (request : Request) : budget.Preserves (Left n) (.send request) :=
  fun left h => ⟨Nat.zero_le left, fun _ _ moved => moved ▸ h⟩

theorem left_pause (n span : Nat) :
    budget.Step (Left (n + span)) (.pause span) fun (_ : Bool) => Left n := by
  intro left h
  refine ⟨Nat.le_trans (Nat.le_add_left span n) h, fun _ left' moved => ?_⟩
  rw [moved]
  exact Nat.le_sub_of_add_le h

/-! ### Watches -/

namespace Watch

section

variable {α : Type} {m : Type → Type} [Monad m] [MonadLiftT ClusterScript m]
  {look : m (Option α)} {cancelled expired : m α} {interval : Nat}

/-- A watch is the loop that ends at the deadline: the looks need not be counted. -/
theorem untilDecided_eq (hi : 0 < interval) (timeout : Nat) :
    untilDecided ⟨interval, timeout⟩ look cancelled expired = (do
      match ← look with
      | some value => return value
      | none =>
          if ← (pause (min interval timeout) : ClusterScript Bool) then cancelled
          else if timeout ≤ interval then expired
          else untilDecided ⟨interval, timeout - interval⟩ look cancelled expired) := by
  have more : ¬ timeout ≤ interval →
      (timeout - interval) / interval + 1 = timeout / interval := fun h =>
    (Nat.div_eq_sub_div hi (Nat.le_of_not_le h)).symm
  rw [untilDecided, looks, if_neg (Nat.ne_of_gt hi), poll]
  refine congrArg (look >>= ·) (funext fun found => ?_)
  cases found with
  | some value => rfl
  | none =>
      refine congrArg (liftM _ >>= ·) (funext fun tripped => ?_)
      cases tripped with
      | true => rfl
      | false =>
          by_cases late : timeout ≤ interval
          · exact (if_pos late).trans (if_pos late).symm
          · refine (if_neg late).trans (Eq.trans ?_ (if_neg late).symm)
            rw [untilDecided, looks, if_neg (Nat.ne_of_gt hi), more late]

section

-- `D` is what holds when a look is due, `W` after a look that decides nothing, by the looks made before.
variable {S : Type} {C : Calculus m S} {D W : Nat → S → Prop} {Q : α → S → Prop} {timeout : Nat}
  (hlook : ∀ k s, D k s → C.meets look s fun found s =>
    match found with
    | some value => Q value s
    | none => W k s)
  (hpause : ∀ k s, W k s →
    C.meets (liftM (pause (min interval (timeout - k * interval)) : ClusterScript Bool) : m Bool) s
      fun tripped s =>
        if tripped then C.meets cancelled s Q
        else if timeout ≤ (k + 1) * interval then C.meets expired s Q
        else D (k + 1) s)
include hlook hpause

/-- The induction is on the time that is left, which every round of the loop makes less. -/
theorem meets_untilDecided_after (hi : 0 < interval) {k left : Nat}
    (hleft : left = timeout - k * interval) {s : S} (hs : D k s) :
    C.meets (untilDecided ⟨interval, left⟩ look cancelled expired) s Q := by
  induction left using Nat.strongRecOn generalizing k s with
  | ind left ih =>
      have next : (k + 1) * interval = k * interval + interval := Nat.succ_mul k interval
      rw [untilDecided_eq hi]
      refine C.bind (C.mono (hlook k s hs) fun found s hfound => ?_)
      cases found with
      | some value => exact C.pure hfound
      | none =>
          have paused := hpause k s hfound
          rw [← hleft] at paused
          refine C.bind (C.mono paused fun tripped s htripped => ?_)
          cases tripped with
          | true => exact htripped
          | false =>
              simp only [Bool.false_eq_true, if_false] at htripped ⊢
              split
              case isTrue late =>
                rwa [if_pos (by omega)] at htripped
              case isFalse early =>
                rw [if_neg (by omega)] at htripped
                exact ih _ (by omega) (by omega) htripped

theorem meets_untilDecided_by_looks (hi : 0 < interval) {s : S} (hs : D 0 s) :
    C.meets (untilDecided ⟨interval, timeout⟩ look cancelled expired) s Q :=
  meets_untilDecided_after hlook hpause hi (by simp) hs

end

-- `D` tells what is left of the timeout when a look is due.
variable {S : Type} {C : Calculus m S} {D : Nat → S → Prop} {Q : α → S → Prop}
  (hlook : ∀ left s, D left s → C.meets look s fun found s =>
    match found with
    | some value => Q value s
    | none => D left s)
  (hpause : ∀ left span s, D (left + span) s →
    C.meets (liftM (pause span : ClusterScript Bool) : m Bool) s fun tripped s =>
      if tripped then C.meets cancelled s Q else D left s)
  (hexpired : ∀ left s, D left s → C.meets expired s Q)
include hlook hpause hexpired

theorem meets_untilDecided_in_time (hi : 0 < interval) (timeout : Nat) {s : S} (hs : D timeout s) :
    C.meets (untilDecided ⟨interval, timeout⟩ look cancelled expired) s Q := by
  refine meets_untilDecided_by_looks (D := fun k => D (timeout - k * interval))
    (W := fun k => D (timeout - k * interval)) (fun k s hs => hlook _ s hs) (fun k s hs => ?_) hi
    (by simpa using hs)
  have next : (k + 1) * interval = k * interval + interval := Nat.succ_mul k interval
  have spent : timeout - k * interval =
      timeout - (k + 1) * interval + min interval (timeout - k * interval) := by omega
  rw [spent] at hs
  refine C.mono (hpause _ _ s hs) fun tripped s htripped => ?_
  cases tripped with
  | true => exact htripped
  | false =>
      simp only [Bool.false_eq_true, if_false] at htripped ⊢
      split
      case isTrue => exact hexpired _ s htripped
      case isFalse => exact htripped

theorem meets_guarded_in_time (hi : 0 < interval) {timeout : Nat} {s : S} (hs : D timeout s) :
    C.meets (guarded ⟨interval, timeout⟩ look cancelled expired) s Q := by
  refine C.bind (C.mono (hpause timeout 0 s hs) fun tripped s htripped => ?_)
  cases tripped with
  | true => exact htripped
  | false =>
      simp only [Bool.false_eq_true, if_false] at htripped ⊢
      split
      case isTrue => exact hexpired timeout s htripped
      case isFalse => exact meets_untilDecided_in_time hlook hpause hexpired hi timeout htripped

end

end Watch

/-- A pause of a wait that has more time left than the pause takes. -/
theorem left_waiting (n left span : Nat) :
    budget.Step (Left (n + (left + span))) (.pause span) fun (tripped : Bool) x =>
      if tripped then Left n x else Left (n + left) x := by
  intro x hx
  obtain ⟨allowed, step⟩ := left_pause (n + left) span x (by rwa [Nat.add_assoc])
  refine ⟨allowed, fun tripped x' moved => ?_⟩
  have paused := step tripped x' moved
  cases tripped with
  | true => exact paused.spare
  | false => exact paused

/-! ### Objects -/

namespace Resource

variable {ns : String} {t : Template} {r : Resource} {w : Watch} {left : Nat}

theorem looking_in_time (ns : String) (t : Template) (n : Nat) :
    Looking budget ns t (Left n) fun _ _ => Left n :=
  ⟨left_send n _, fun _ _ _ => left_send n _⟩

theorem clearing_in_time (ns : String) (t : Template) (n : Nat) :
    Clearing budget ns t (Left n) (Left n) :=
  .of_preserves (left_send n _) (fun _ _ => left_send n _) fun _ _ _ => left_send n _

theorem meetsWith_waitReady_in_time (hi : 0 < w.interval) (n : Nat) (ht : r.template = t)
    (hx : Left (n + w.timeout) left) :
    MeetsWith budget (waitReady ns w) r left (fun _ r x => r.template = t ∧ (∃ object,
        r.observed = some object) ∧ Left n x) fun _ r x => r.template = t ∧ Left n x := by
  rw [waitReady, meetsWith_get_bind]
  let D (m : Nat) (s : Resource × Nat) : Prop := s.1.template = t ∧ Left (n + m) s.2
  let Q (_ : Json) (s : Resource × Nat) : Prop :=
    s.1.template = t ∧ (∃ object, s.1.observed = some object) ∧ Left n s.2
  let E (_ : LifecycleError) (r : Resource) (x : Nat) : Prop := r.template = t ∧ Left n x
  refine Watch.meets_guarded_in_time (C := .stateful budget E) (D := D) (Q := Q) ?_ ?_ ?_ hi
    (s := (r, left)) ⟨ht, hx⟩
  · intro m s hs
    refine Calculus.meets_stateful.2 ((meetsWith_look (looking_in_time ns t (n + m)) hs.1 hs.2).mono
      (fun found r x hfound => ?_) fun _ r x lost => ?_)
    · obtain ⟨ht, hfound⟩ := hfound
      cases found with
      | some object =>
          obtain ⟨⟨_, _, hx, -⟩, observed⟩ := hfound
          exact ⟨ht, ⟨object, observed⟩, hx.spare⟩
      | none =>
          obtain ⟨_, _, ⟨_, _, hx, -⟩, -⟩ := hfound
          exact ⟨ht, hx⟩
    · obtain ⟨ht, _, _, hx, -⟩ := lost
      exact ⟨ht, hx.spare⟩
  · intro m span s hs
    refine Calculus.meets_stateful.2 (meetsWith_liftM.2 ?_)
    obtain ⟨allowed, step⟩ := left_waiting n m span s.2 hs.2
    refine ⟨allowed, fun tripped x moved => ?_⟩
    have paused := step tripped x moved
    cases tripped <;> exact ⟨hs.1, paused⟩
  · exact fun m s hs => ⟨hs.1, hs.2.spare⟩

theorem meetsOr_waitGone_in_time (hi : 0 < w.interval) (n : Nat) (hx : Left (n + w.timeout) left) :
    MeetsOr budget (waitGone ns w r) left (fun _ => Left n) fun _ => Left n := by
  rw [waitGone_eq]
  refine Watch.meets_guarded_in_time (C := .failing budget fun _ => Left n)
    (D := fun m => Left (n + m)) (Q := fun _ => Left n) ?_ ?_ ?_ hi (s := left) hx
  · intro m x hx
    obtain ⟨allowed, step⟩ := left_send (n + m) (.get (r.path ns)) x hx
    refine Calculus.meets_failing.2 (meetsOr_goneLook.2 ⟨allowed, fun reply x' moved => ?_⟩)
    have hx' := step reply x' moved
    split
    case h_1 => exact hx'
    case h_2 | h_3 => exact hx'.spare
  · exact fun m span x hx => Calculus.meets_failing.2 (meetsOr_liftM.2 (left_waiting n m span x hx))
  · exact fun m x hx => hx.spare

theorem meetsWith_replace_in_time (hi : 0 < w.interval) (n : Nat) (ht : r.template = t)
    (hx : Left (n + w.timeout) left) :
    MeetsWith budget (replace ns w) r left (fun _ r x => r.template = t ∧ Left n x)
      fun _ r x => r.template = t ∧ Left n x := by
  refine meetsWith_replace_of_waitGone ht ?_ (fun x hx => meetsOr_waitGone_in_time hi n hx) fun x hx => ?_
  · obtain ⟨broken, gone, removing, hbroken, hgone⟩ := clearing_in_time ns t (n + w.timeout)
    refine (meetsOr_removeAll removing ht hx).mono (fun _ x hx => ?_) fun _ x hx => ?_
    · obtain ⟨pods, hx⟩ := hx
      exact hgone pods x hx
    · obtain hx | ⟨pods, hx, -⟩ := hx
      · exact (hbroken x hx).spare
      · exact (hgone _ x hx).spare
  · simpa only [ite_self] using left_send n (.post (t.kind.collectionPath ns) t.document) x hx

/-- What sending an object may take: the wait until one in its way is gone, which a shared object does
not need. -/
def submissionSpan (t : Template) (w : Watch) : Nat := if t.shared then 0 else w.timeout

theorem meetsWith_submit_in_time (hi : 0 < w.interval) (n : Nat) (ht : r.template = t)
    (hx : Left (n + submissionSpan t w) left) :
    MeetsWith budget (submit ns w) r left (fun _ r x => r.template = t ∧ Left n x)
      fun _ r x => r.template = t ∧ Left n x := by
  refine meetsWith_submit_of_replace (Left (n + submissionSpan t w)) ht (fun x hx => ?_)
    (fun hs x hx => meetsWith_replace_in_time hi n ht ?_) hx
  · obtain ⟨allowed, step⟩ := left_send _ (.post (t.kind.collectionPath ns) t.document) x hx
    refine ⟨allowed, fun reply x' moved => ?_⟩
    have hx' := step reply x' moved
    cases reply with
    | ok document => exact hx'.spare
    | error e =>
        dsimp only
        split
        · split
          · exact hx'.spare
          · exact hx'
        · exact hx'.spare
  · rwa [submissionSpan, hs] at hx

/-- What creating an object may take. -/
def creationSpan (t : Template) (w : Watch) : Nat := w.timeout + submissionSpan t w

theorem meetsWith_create_in_time (hi : 0 < w.interval) (n : Nat) (ht : r.template = t)
    (hx : Left (n + creationSpan t w) left) :
    MeetsWith budget (create ns true w) r left (fun _ r x => r.template = t ∧ (∃ object,
        r.observed = some object) ∧ Left n x) fun _ r x => r.template = t ∧ Left n x := by
  rw [creationSpan, ← Nat.add_assoc] at hx
  refine meetsWith_create_of_submit ((meetsWith_submit_in_time hi (n + w.timeout) ht hx).mono
    (fun _ _ _ hx => hx) fun _ r x hx => ?_) fun r x ht hx => meetsWith_waitReady_in_time hi n ht hx
  exact ⟨hx.1, hx.2.spare⟩

end Resource

/-! ### Images -/

namespace ImageBuild

variable {ns : String} {w : Watch} {b : ImageBuild} {left : Nat}

theorem meetsOr_existingImage_in_time (n : Nat) (hx : Left n left) :
    MeetsOr budget (existingImage ns b) left (fun _ => Left n) fun _ => Left n :=
  meetsOr_existingImage_of_preserves (left_send n _) hx

theorem meetsOr_awaitPeers_in_time (hi : 0 < w.interval) (n : Nat) (hx : Left (n + w.timeout) left) :
    MeetsOr budget (awaitPeers ns w b) left (fun _ => Left n) fun _ => Left n := by
  refine Watch.meets_untilDecided_in_time (C := .failing budget fun _ => Left n)
    (D := fun m => Left (n + m)) (Q := fun _ => Left n) ?_ ?_ ?_ hi w.timeout (s := left) hx
  · intro m x hx
    refine Calculus.meets_failing.2 ((meetsOr_lookForPeers (left_send (n + m) _)
      (fun _ => left_send (n + m) _) hx).mono (fun found x decided => ?_) fun e x failed => ?_)
    · obtain ⟨p, -, told, -⟩ := decided
      have hx : Left (n + m) x := PeerPoll.told_same.1 told
      cases found with
      | some image => exact hx.spare
      | none => exact hx
    · obtain ⟨p, -, told, -⟩ := failed
      exact (PeerPoll.told_same.1 told).spare
  · exact fun m span x hx => Calculus.meets_failing.2 (meetsOr_liftM.2 (left_waiting n m span x hx))
  · exact fun m x hx => hx.spare

/-- What taking or building an image may take: the wait for the stream, the wait for builds of other
tasks, and the build. -/
def providingSpan (stream build : Template) (w : Watch) : Nat :=
  Resource.creationSpan build w + w.timeout + Resource.creationSpan stream w

theorem meetsWith_run_in_time {ts tb : Template} (hi : 0 < w.interval) (n : Nat)
    (hs : b.stream.template = ts) (hb : b.build.template = tb)
    (hx : Left (n + providingSpan ts tb w) left) :
    MeetsWith budget (run ns w) b left (fun _ _ => Left n)
      fun _ b x => b.build.template = tb ∧ Left n x := by
  let building := n + Resource.creationSpan tb w
  let awaiting := building + w.timeout
  let creating := awaiting + Resource.creationSpan ts w
  have total : n + providingSpan ts tb w = creating := by
    simp only [providingSpan, creating, awaiting, building, Nat.add_assoc]
  rw [total] at hx
  -- What an early end leaves is what all later waits would have taken.
  have unbuilt {x : Nat} (h : Left building x) : Left n x := h.spare
  have unawaited {x : Nat} (h : Left awaiting x) : Left n x := unbuilt h.spare
  have uncreated {x : Nat} (h : Left creating x) : Left n x := unawaited h.spare
  have create (x : Nat) (hx : Left creating x) : MeetsWith budget (Resource.create ns true w) b.stream x
      (fun _ r x => r.template = ts ∧ ∃ object, r.observed = some object ∧ Left awaiting x)
      fun _ _ => Left n := by
    refine (Resource.meetsWith_create_in_time hi awaiting hs hx).mono (fun _ r x hr => ?_)
      fun _ r x hr => unawaited hr.2
    obtain ⟨ht, ⟨object, ho⟩, hx⟩ := hr
    exact ⟨ht, object, ho, hx⟩
  refine meetsWith_run (Left creating) (fun _ => Left awaiting) (fun _ => Left building)
    (fun _ => Left n) (fun _ _ => Left n) (Left n) ?_ create (fun b object x _ _ hx => ?_)
    (fun _ x hx _ => unbuilt hx) (fun _ _ x hx _ => ?_) (fun _ request _ => left_send n request)
    (fun _ => ?_) hb
  · refine (meetsOr_existingImage_in_time creating hx).mono (fun found x hx => ?_) fun _ x hx => ?_
    · cases found with
      | some image => exact uncreated hx
      | none => exact hx
    · exact uncreated hx
  · refine (meetsOr_awaitPeers_in_time hi building hx).mono (fun found x hx => ?_)
      fun _ x hx => unbuilt hx
    cases found with
    | some image => exact unbuilt hx
    | none => exact hx
  · exact (Resource.meetsWith_create_in_time hi n hb hx).mono (fun _ r x hr => ⟨hr.1, hr.2.2⟩)
      fun _ r x hr => hr
  · obtain ⟨broken, gone, removing, hbroken, hgone⟩ := Resource.clearing_in_time ns tb n
    refine ⟨broken, gone, removing, hbroken, fun x remaining => ?_, hgone⟩
    obtain ⟨pods, hx, -⟩ := remaining
    exact hgone _ x hx

end ImageBuild
end ImageryJobs
