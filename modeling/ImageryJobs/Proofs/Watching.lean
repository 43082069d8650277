import ImageryJobs.Cluster.Watch
import ImageryJobs.Proofs.Contracts

/-!
Contracts of watching. What holds while a look is due and while the next one is waited for may
depend on the number of looks made; a watch ends with what a look decides, with what is said of a
cancellation, or when so many looks have used up the time.
-/

namespace ImageryJobs

open ClusterScript

variable {σ τ α ε : Type}

/-- A way to state contracts of computations, closed under composition. -/
structure Calculus (m : Type → Type) [Monad m] (S : Type) where
  meets : {α : Type} → m α → S → (α → S → Prop) → Prop
  pure : ∀ {α : Type} {value : α} {s : S} {post : α → S → Prop},
    post value s → meets (pure value) s post
  bind : ∀ {α β : Type} {a : m α} {f : α → m β} {s : S} {post : β → S → Prop},
    meets a s (fun value s => meets (f value) s post) → meets (a >>= f) s post
  mono : ∀ {α : Type} {a : m α} {s : S} {post post' : α → S → Prop},
    meets a s post → (∀ value s, post value s → post' value s) → meets a s post'

namespace Calculus

def failing (R : Rules clusterInterface σ) (error : ε → σ → Prop) :
    Calculus (ExceptT ε ClusterScript) σ where
  meets m x ok := MeetsOr R m x ok error
  pure h := h
  bind h := meetsOr_bind.2 h
  mono h hok := h.mono hok fun _ _ he => he

def stateful (R : Rules clusterInterface σ) (error : ε → τ → σ → Prop) :
    Calculus (ExceptT ε (StateT τ ClusterScript)) (τ × σ) where
  meets m s ok := MeetsWith R m s.1 s.2 (fun value r x => ok value (r, x)) error
  pure h := h
  bind h := meetsWith_bind.2 h
  mono h hok := h.mono (fun value r x => hok value (r, x)) fun _ _ _ he => he

theorem meets_failing {R : Rules clusterInterface σ} {error : ε → σ → Prop}
    {m : ExceptT ε ClusterScript α} {x : σ} {ok : α → σ → Prop} :
    (failing R error).meets m x ok ↔ MeetsOr R m x ok error := .rfl

theorem meets_stateful {R : Rules clusterInterface σ} {error : ε → τ → σ → Prop}
    {m : ExceptT ε (StateT τ ClusterScript) α} {s : τ × σ} {ok : α → τ × σ → Prop} :
    (stateful R error).meets m s ok ↔
      MeetsWith R m s.1 s.2 (fun value r x => ok value (r, x)) error := .rfl

end Calculus

namespace Watch

/-- So many looks leave no time for another. -/
def Spent (interval timeout looks : Nat) : Prop := timeout ≤ looks * interval ∨ interval = 0

section

-- `W` is what holds while a look is waited for, `D` when it is due, `Q` of the value at the end.
variable {m : Type → Type} [Monad m] [MonadLiftT ClusterScript m] {S : Type} {C : Calculus m S}
  {W D : Nat → S → Prop} {Q : α → S → Prop} {look : m (Option α)} {cancelled expired : m α}
  {interval timeout : Nat}
  (hlook : ∀ k s, D k s → C.meets look s fun found s =>
    match found with
    | some value => Q value s
    | none => W (k + 1) s)
  (hpause : ∀ k span s, W k s →
    C.meets (liftM (pause span : ClusterScript Bool) : m Bool) s fun tripped s =>
      if tripped then C.meets cancelled s Q else D k s)
  (hexpired : ∀ k s, D k s → Spent interval timeout k → C.meets expired s Q)
include hlook hpause hexpired

theorem meets_poll {looks k left : Nat} (htime : timeout ≤ left + k * interval)
    (hlooks : interval ≠ 0 → timeout < (looks + k) * interval) {s : S} (hs : D k s) :
    C.meets (poll interval look cancelled expired looks left) s Q := by
  induction looks generalizing k left s with
  | zero =>
      refine hexpired k s hs ?_
      by_cases hi : interval = 0
      · exact .inr hi
      · exact .inl (by simpa using Nat.le_of_lt (hlooks hi))
  | succ looks ih =>
      have next : (k + 1) * interval = k * interval + interval := Nat.succ_mul k interval
      rw [poll]
      refine C.bind (C.mono (hlook k s hs) fun found s hfound => ?_)
      cases found with
      | some value => exact C.pure hfound
      | none =>
          refine C.bind (C.mono (hpause (k + 1) _ s hfound) fun tripped s htripped => ?_)
          cases tripped with
          | true => exact htripped
          | false =>
              simp only [Bool.false_eq_true, if_false] at htripped ⊢
              split
              case isTrue late =>
                have late : left ≤ interval := late
                exact hexpired (k + 1) s htripped (.inl (by omega))
              case isFalse early =>
                refine ih (by omega) (fun hi => ?_) htripped
                have := hlooks hi
                rwa [Nat.add_right_comm, Nat.add_assoc] at this

/-- Looks at once, then again and again: the watch ends as a look, a cancellation or the end of the
time has it. -/
theorem meets_untilDecided {s : S} (hs : D 0 s) :
    C.meets (untilDecided ⟨interval, timeout⟩ look cancelled expired) s Q := by
  refine meets_poll hlook hpause hexpired (Nat.le_add_right _ _) (fun hi => ?_) hs
  rw [looks, if_neg hi, Nat.add_zero, Nat.mul_comm]
  exact Nat.lt_mul_div_succ timeout (Nat.pos_of_ne_zero hi)

theorem meets_guarded {s : S} (hs : W 0 s) :
    C.meets (guarded ⟨interval, timeout⟩ look cancelled expired) s Q := by
  refine C.bind (C.mono (hpause 0 0 s hs) fun tripped s htripped => ?_)
  cases tripped with
  | true => exact htripped
  | false =>
      simp only [Bool.false_eq_true, if_false] at htripped ⊢
      split
      case isTrue none =>
        refine hexpired 0 s htripped (.inl ?_)
        rw [none]
        exact Nat.zero_le _
      case isFalse => exact meets_untilDecided hlook hpause hexpired htripped

end

section

variable {m : Type → Type} [Monad m] [MonadLiftT ClusterScript m] {S : Type} {C : Calculus m S}
  {look : m (Option α)} {cancelled expired : m α}

/-- A watch whose first look decides ends with it, whatever the interval. -/
theorem meets_guarded_of_first {D : S → Prop} {Q : α → S → Prop} {w : Watch} (time : 0 < w.timeout)
    {s : S} (begin : C.meets (liftM (pause 0 : ClusterScript Bool) : m Bool) s fun tripped s =>
      tripped = false ∧ D s)
    (first : ∀ s, D s → C.meets look s fun found s => ∃ value, found = some value ∧ Q value s) :
    C.meets (guarded w look cancelled expired) s Q := by
  refine C.bind (C.mono begin fun tripped s ⟨untripped, due⟩ => ?_)
  subst untripped
  have some_look : ∃ n, w.looks = n + 1 := by
    unfold Watch.looks
    split
    · exact ⟨_, rfl⟩
    · exact ⟨_, rfl⟩
  obtain ⟨n, hn⟩ := some_look
  simp only [Bool.false_eq_true, if_false, Nat.ne_of_gt time]
  rw [untilDecided, hn, poll]
  refine C.bind (C.mono (first s due) fun found s hfound => ?_)
  obtain ⟨value, rfl, hvalue⟩ := hfound
  exact C.pure hvalue

end

end Watch
end ImageryJobs
