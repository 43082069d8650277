import ImageryJobs.Proofs.Engine.Contracts

/-!
Time and cancellation during a run. Requests and reports take no time, and the work may be cancelled
while they last; a pause takes its span, or ends when the work is cancelled. For proofs it is enough
to count the objects that were created since some moment at which the work was cancelled: rules for
this count are rules for every course of time.
-/

namespace ImageryJobs
namespace Engine

open EngineScript

/-- How much time has passed, and whether the work is cancelled. -/
structure Moment where
  time : Nat
  cancelled : Bool
  deriving DecidableEq

/-- What an event does to the moment. A pause that was not cut short may still be followed by a
cancellation before anything else is asked. -/
def Moment.Passes (m : Moment) : Event engineInterface → Moment → Prop
  | ⟨.cluster (.pause span), cut⟩, m' =>
      if m.cancelled then cut = true ∧ m' = m
      else if cut then m'.cancelled ∧ m.time ≤ m'.time ∧ m'.time ≤ m.time + span
      else m'.time = m.time + span
  | ⟨.cluster (.send _), _⟩, m' | ⟨.report _, _⟩, m' =>
      m'.time = m.time ∧ (m.cancelled → m'.cancelled)

theorem Moment.passes_pause {m m' : Moment} {span : Millis} {cut : Bool} :
    m.Passes ⟨.cluster (.pause span), cut⟩ m' ↔
      if m.cancelled then cut = true ∧ m' = m
      else if cut then m'.cancelled ∧ m.time ≤ m'.time ∧ m'.time ≤ m.time + span
      else m'.time = m.time + span := .rfl

/-- A log takes its course from one moment to another. -/
def Course : Moment → List (Event engineInterface) → Moment → Prop :=
  Rules.Path ⟨fun _ _ => True, Moment.Passes⟩

/-- How many requests of a log create an object. -/
def created (log : List (Event engineInterface)) : Nat :=
  (traffic log).countP (·.request.verb = .post)

theorem created_cons (e : Event engineInterface) (log : List (Event engineInterface)) :
    created (e :: log) = created [e] + created log := by
  rw [created, ← List.singleton_append, traffic_append, List.countP_append]
  rfl

/-- A pause that was not cut short. -/
def IsFullPause : Event engineInterface → Prop
  | ⟨.cluster (.pause _), cut⟩ => cut = false
  | ⟨.cluster (.send _), _⟩ | ⟨.report _, _⟩ => False

/-- Once the work is cancelled no time passes, and every pause is cut short. -/
theorem Moment.Passes.of_cancelled {m m' : Moment} {event : Event engineInterface}
    (h : m.Passes event m') (hm : m.cancelled = true) :
    ¬ IsFullPause event ∧ m'.time = m.time ∧ m'.cancelled = true := by
  obtain ⟨op, answer⟩ := event
  cases op with
  | report event => exact ⟨id, h.1, h.2 hm⟩
  | cluster op =>
      cases op with
      | send request => exact ⟨id, h.1, h.2 hm⟩
      | pause span =>
          rw [Moment.passes_pause, if_pos hm] at h
          obtain ⟨cut, rfl⟩ := h
          refine ⟨fun full => ?_, rfl, hm⟩
          cases cut.symm.trans full

/-- Once the work is cancelled no time passes. -/
theorem Course.of_cancelled {m m' : Moment} {log : List (Event engineInterface)}
    (h : Course m log m') (hm : m.cancelled = true) : m'.time = m.time ∧ m'.cancelled = true := by
  induction h with
  | nil m => exact ⟨rfl, hm⟩
  | cons first _ ih =>
      obtain ⟨-, ht, hc⟩ := Moment.Passes.of_cancelled first hm
      obtain ⟨ht', hc'⟩ := ih hc
      exact ⟨ht'.trans ht, hc'⟩

/-- Whether an event is none that may take time. -/
def isTimeless : Event engineInterface → Bool
  | ⟨.cluster (.pause _), _⟩ => false
  | ⟨.cluster (.send _), _⟩ | ⟨.report _, _⟩ => true

theorem course_of_timeless {log : List (Event engineInterface)} (h : log.all isTimeless = true)
    (m : Moment) : Course m log m := by
  induction log with
  | nil => exact .nil m
  | cons e log ih =>
      rw [List.all_cons, Bool.and_eq_true] at h
      refine .cons ?_ (ih h.2)
      obtain ⟨op, answer⟩ := e
      cases op with
      | report event => exact ⟨rfl, id⟩
      | cluster op =>
          cases op with
          | send request => exact ⟨rfl, id⟩
          | pause span => cases h.1

theorem Course.no_full_pause {m m' : Moment} {log : List (Event engineInterface)}
    (h : Course m log m') (hm : m.cancelled = true) : ∀ e ∈ log, ¬ IsFullPause e := by
  induction h with
  | nil m => exact List.forall_mem_nil _
  | cons first _ ih =>
      obtain ⟨full, -, hc⟩ := Moment.Passes.of_cancelled first hm
      exact List.forall_mem_cons.2 ⟨full, ih hc⟩

/-! ### Counting what is created after a cancellation -/

/-- A count that may begin at any moment at which the work is cancelled. -/
inductive Alarm where
  /-- The count has not begun. -/
  | silent
  /-- It has not begun, and a pause has just shown that the work is not cancelled. -/
  | checked
  /-- So many objects were created since it began. -/
  | raised (count : Nat)
  deriving DecidableEq

namespace Alarm

/-- Something may be created. -/
def Clear (a : Alarm) : Prop := a = .silent ∨ a = .raised 0

/-- The count after an event. -/
def Moves : Alarm → Event engineInterface → Alarm → Prop
  | .raised n, e, a => ¬ IsFullPause e ∧ a = .raised (n + created [e])
  | .silent, e, a | .checked, e, a =>
      (IsFullPause e ∧ a = .checked) ∨ (¬ IsFullPause e ∧ a.Clear)

/-- What may be asked: nothing is created after a pause without a look, nor twice after a
cancellation, and no task is begun after one. -/
def Allows (a : Alarm) : EngineOp → Prop
  | .cluster (.send request) => request.verb = .post → a.Clear
  | .report (.started _) => ∀ n, a ≠ .raised n
  | .cluster (.pause _) | .report _ => True

end Alarm

theorem Alarm.Allows.created {a : Alarm} {e : Event engineInterface} (h : a.Allows e.op) :
    created [e] = 0 ∨ created [e] = 1 ∧ a.Clear := by
  obtain ⟨op, answer⟩ := e
  cases op with
  | report event => exact .inl rfl
  | cluster op =>
      cases op with
      | pause span => exact .inl rfl
      | send request =>
          have one : Engine.created [⟨.cluster (.send request), answer⟩] =
              if request.verb = .post then 1 else 0 := by
            simp [Engine.created, traffic, exchange?, List.countP_cons]
          by_cases hp : request.verb = .post
          · exact .inr ⟨by rw [one, if_pos hp], h hp⟩
          · exact .inl (by rw [one, if_neg hp])

/-- The rules of the count. The state is the count and the log. -/
def prompt : Rules engineInterface (Alarm × List (Event engineInterface)) :=
  ⟨fun s op => s.1.Allows op, fun s e s' => s.1.Moves e s'.1 ∧ s'.2 = s.2 ++ [e]⟩

/-- As long as the count has not begun it need not begin. -/
theorem silent_path (log before : List (Event engineInterface)) (a : Alarm)
    (ha : ∀ n, a ≠ .raised n) :
    ∃ a', (∀ n, a' ≠ .raised n) ∧ prompt.Path (a, before) log (a', before ++ log) := by
  induction log generalizing before a with
  | nil => exact ⟨a, ha, by rw [List.append_nil]; exact .nil _⟩
  | cons e log ih =>
      obtain ⟨b, hb, moves⟩ : ∃ b : Alarm, (∀ n, b ≠ .raised n) ∧ a.Moves e b := by
        by_cases he : IsFullPause e
        · refine ⟨.checked, by simp, ?_⟩
          cases a with
          | raised n => exact absurd rfl (ha n)
          | silent | checked => exact .inl ⟨he, rfl⟩
        · refine ⟨.silent, by simp, ?_⟩
          cases a with
          | raised n => exact absurd rfl (ha n)
          | silent | checked => exact .inr ⟨he, .inl rfl⟩
      obtain ⟨a', ha', path⟩ := ih (before ++ [e]) b hb
      rw [List.append_assoc] at path
      exact ⟨a', ha', .cons ⟨moves, rfl⟩ path⟩

/-- Once the work is cancelled the count goes on as it is said to. -/
theorem raised_path {m m' : Moment} {log : List (Event engineInterface)} (h : Course m log m')
    (hm : m.cancelled = true) (before : List (Event engineInterface)) (n : Nat) :
    prompt.Path (.raised n, before) log (.raised (n + created log), before ++ log) := by
  induction h generalizing before n with
  | nil m =>
      rw [List.append_nil]
      exact .nil _
  | @cons m₁ m₂ m₃ e log first rest ih =>
      obtain ⟨full, -, hc⟩ := Moment.Passes.of_cancelled first hm
      have later := ih hc (before ++ [e]) (n + created [e])
      rw [List.append_assoc] at later
      rw [created_cons, ← Nat.add_assoc]
      exact .cons ⟨⟨full, rfl⟩, rfl⟩ later

/-- Whenever the work is cancelled, the count can begin then; only after a full pause it begins with
the next event. -/
theorem exists_path (before : List (Event engineInterface)) :
    ∃ start a : Alarm, start.Clear ∧ prompt.Path (start, []) before (a, before) ∧
      (a = .raised 0 ∨ a = .checked) := by
  obtain rfl | ⟨init, e, rfl⟩ := List.eq_nil_or_concat before
  · exact ⟨.raised 0, .raised 0, .inr rfl, .nil _, .inl rfl⟩
  · obtain ⟨b, hb, path⟩ := silent_path init [] .silent (by simp)
    rw [List.nil_append] at path
    rw [List.concat_eq_append]
    have last (a : Alarm) (moves : b.Moves e a) : prompt.Path (.silent, []) (init ++ [e]) (a, init ++ [e]) :=
      path.append (.cons ⟨moves, rfl⟩ (.nil _))
    cases b with
    | raised n => exact absurd rfl (hb n)
    | silent | checked =>
        by_cases he : IsFullPause e
        · exact ⟨.silent, .checked, .inl rfl, last _ (.inl ⟨he, rfl⟩), .inr rfl⟩
        · exact ⟨.silent, .raised 0, .inl rfl, last _ (.inr ⟨he, .inr rfl⟩), .inl rfl⟩

section Counted

variable {α : Type} {s t rest : EngineScript α}
  {post : α → Alarm × List (Event engineInterface) → Prop} {m now last : Moment}
  {before after : List (Event engineInterface)}

/-- No task is begun. -/
def BeginsNone (log : List (Event engineInterface)) : Prop :=
  ∀ task answer, (⟨.report (.started task), answer⟩ : Event engineInterface) ∉ log

/-- What meets the rules of the count creates one object at most, and begins no task. -/
theorem counted {n : Nat} (h : t.Meets prompt (.raised n, before) post) (hf : t.Follows after rest)
    (ha : Course now after last) (hc : now.cancelled = true) (hn : n ≤ 1) :
    n + created after ≤ 1 ∧ BeginsNone after := by
  induction hf generalizing now before n with
  | stop t => exact ⟨hn, fun _ _ h => by cases h⟩
  | @answered op next answer log rest hf ih =>
      cases ha with
      | cons first later =>
          obtain ⟨full, -, hc₁⟩ := Moment.Passes.of_cancelled first hc
          have one : n + created [⟨op, answer⟩] ≤ 1 := by
            obtain hone | ⟨hone, hn | hn⟩ := Alarm.Allows.created (e := ⟨op, answer⟩) h.1
            · rwa [hone]
            · cases hn
            · cases hn
              exact Nat.le_of_eq ((Nat.zero_add _).trans hone)
          obtain ⟨count, none⟩ := ih (h.2 answer _ ⟨⟨full, rfl⟩, rfl⟩) later hc₁ one
          constructor
          · rwa [created_cons, ← Nat.add_assoc]
          · intro task answer' hm
            cases hm with
            | head => exact h.1 n rfl
            | tail _ hm => exact none task answer' hm

/-- From any moment at which the work is cancelled, the report of a start and the check before it
counted as one: one object at most is created, and no task is begun. -/
theorem counted_from (h : ∀ a : Alarm, a.Clear → s.Meets prompt (a, []) post)
    (hf : s.Follows (before ++ after) rest) (ha : Course now after last) (hc : now.cancelled = true)
    (whole : ∀ task answer later, after ≠ ⟨.report (.started task), answer⟩ :: later) :
    created after ≤ 1 ∧ BeginsNone after ∧ ∃ a, rest.Meets prompt (a, before ++ after) post := by
  obtain ⟨t, hs, ht⟩ := hf.of_append
  obtain ⟨start, a, clear, path, rfl | rfl⟩ := exists_path before
  · have contract := (h start clear).rest hs path
    obtain ⟨count, none⟩ := counted contract ht ha hc (Nat.zero_le 1)
    exact ⟨by simpa using count, none, _, contract.rest ht (raised_path ha hc before 0)⟩
  · have contract := (h start clear).rest hs path
    cases ht with
    | stop =>
        refine ⟨Nat.zero_le 1, fun _ _ h => ?_, .checked, ?_⟩
        · cases h
        · rwa [List.append_nil]
    | @answered op next answer log rest ht =>
        cases ha with
        | cons first later =>
            obtain ⟨full, -, hc₁⟩ := Moment.Passes.of_cancelled first hc
            have step : Alarm.Moves .checked ⟨op, answer⟩ (.raised 0) := .inr ⟨full, .inr rfl⟩
            have contract' := contract.2 answer (.raised 0, before ++ [⟨op, answer⟩]) ⟨step, rfl⟩
            obtain ⟨count, none⟩ := counted contract' ht later hc₁ (Nat.zero_le 1)
            have whole_rest := contract'.rest ht (raised_path later hc₁ _ 0)
            rw [List.append_assoc] at whole_rest
            refine ⟨?_, ?_, _, whole_rest⟩
            · obtain hone | ⟨-, h | h⟩ := Alarm.Allows.created (e := ⟨op, answer⟩) contract.1
              · rwa [created_cons, hone]
              · cases h
              · cases h
            · intro task answer' hm
              cases hm with
              | head => exact whole _ _ _ rfl
              | tail _ hm => exact none task answer' hm

end Counted

end Engine
end ImageryJobs
