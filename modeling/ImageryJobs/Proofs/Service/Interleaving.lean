import ImageryJobs.Proofs.Engine.Tasks
import ImageryJobs.Proofs.Service.History

/-!
Calls about one job whose steps come in any order. A call may be made at any time, and any call
that was made may ask the next thing; what holds of every history and of the questions of one call
is carried along.
-/

namespace ImageryJobs
namespace Service

/-- A call that was made, and what is left of it. -/
structure Ongoing where
  call : Call
  rest : ServiceScript (Except ServiceError call.Result)

/-- The calls that were made, what they share and what they asked. -/
structure State where
  shared : Shared
  calls : List Ongoing
  history : List Entry

namespace State

def initial (store : Store) : State := ⟨.initial store, [], []⟩

def status (w : State) (jobId : String) : Option String := w.shared.status jobId

/-- What a call gave, if it has ended. -/
def result? (w : State) (i : Nat) (c : Call) : Option (Except ServiceError c.Result) :=
  match w.calls[i]? with
  | some ⟨c', .done result⟩ => if h : c' = c then some (h ▸ result) else none
  | _ => none

theorem result?_eq_some {w : State} {i : Nat} {c : Call} {result : Except ServiceError c.Result} :
    w.result? i c = some result ↔ w.calls[i]? = some ⟨c, .done result⟩ := by
  rw [result?]
  constructor
  · intro h
    split at h
    · rename_i hi
      split at h
      · rename_i hc
        subst hc
        cases h
        exact hi
      · cases h
    · cases h
  · intro h
    rw [h]
    exact dif_pos rfl

end State

/-- Another call is made, or one asks the next thing and is answered. -/
inductive Step (s : Service) (jobId : String) : State → State → Prop where
  | call (w : State) (c : Call) :
      Step s jobId w { w with calls := w.calls ++ [⟨c, c.script s jobId⟩] }
  | ask {w : State} {i : Nat} {c : Call} {op : ServiceOp}
      {next : op.Answer → ServiceScript (Except ServiceError c.Result)} {answer : op.Answer}
      (hi : w.calls[i]? = some ⟨c, Script.ask (I := serviceInterface) op next⟩)
      (hg : w.shared.Gives op answer) :
      Step s jobId w
        ⟨w.shared.after op, w.calls.set i ⟨c, next answer⟩, w.history ++ [⟨i, ⟨op, answer⟩⟩]⟩

/-- What calls about a job come to, in any order of their steps. -/
inductive Reachable (s : Service) (jobId : String) (store : Store) : State → Prop where
  | initial : Reachable s jobId store (.initial store)
  | step {w w' : State} (h : Reachable s jobId store w) (hs : Step s jobId w w') :
      Reachable s jobId store w'

/-- What a caller asked. -/
def logOf (i : Nat) (h : List Entry) : List ServiceEvent :=
  h.filterMap fun x => if x.caller = i then some x.event else none

section Logs

variable {i j : Nat} {h g : List Entry} {e : ServiceEvent} {l m : List ServiceEvent}

@[simp] theorem logOf_append : logOf i (h ++ g) = logOf i h ++ logOf i g := List.filterMap_append

@[simp] theorem logOf_self : logOf i (⟨i, e⟩ :: h) = e :: logOf i h := by simp [logOf]

theorem logOf_of_ne (hne : j ≠ i) : logOf i (⟨j, e⟩ :: h) = logOf i h := by simp [logOf, hne]

theorem mem_logOf : e ∈ logOf i h ↔ ⟨i, e⟩ ∈ h := by
  rw [logOf, List.mem_filterMap]
  constructor
  · intro ⟨x, hx, hif⟩
    split at hif
    · rename_i hc
      cases hif
      cases hc
      exact hx
    · cases hif
  · exact fun hx => ⟨⟨i, e⟩, hx, if_pos rfl⟩

/-- What a caller asked at some point of its log stands in the history. -/
theorem logOf_split (hl : logOf i h = l ++ e :: m) :
    ∃ before after, h = before ++ ⟨i, e⟩ :: after ∧ logOf i before = l ∧ logOf i after = m := by
  induction h generalizing l with
  | nil => simp [logOf] at hl
  | cons x h ih =>
      obtain ⟨j, e'⟩ := x
      by_cases hj : j = i
      · subst hj
        rw [logOf_self] at hl
        cases l with
        | nil =>
            obtain ⟨rfl, rfl⟩ := List.cons.inj hl
            exact ⟨[], h, rfl, rfl, rfl⟩
        | cons e'' l =>
            obtain ⟨rfl, hrest⟩ := List.cons.inj hl
            obtain ⟨before, after, rfl, rfl, rfl⟩ := ih hrest
            exact ⟨_ :: before, after, rfl, logOf_self, rfl⟩
      · rw [logOf_of_ne hj] at hl
        obtain ⟨before, after, rfl, rfl, rfl⟩ := ih hl
        exact ⟨_ :: before, after, rfl, logOf_of_ne hj, rfl⟩

theorem logOf_at {x : Entry} :
    logOf x.caller (h ++ x :: g) = logOf x.caller h ++ x.event :: logOf x.caller g := by
  rw [logOf_append]
  exact congrArg _ logOf_self

/-- What only one caller asks, its log says. -/
theorem filterMap_logOf {γ : Type} {f : ServiceEvent → Option γ}
    (hf : ∀ x ∈ h, ∀ value, f x.event = some value → x.caller = i) :
    (h.map (·.event)).filterMap f = (logOf i h).filterMap f := by
  induction h with
  | nil => rfl
  | cons x h ih =>
      obtain ⟨hx, hrest⟩ := List.forall_mem_cons.1 hf
      obtain ⟨j, e⟩ := x
      rw [List.map_cons, List.filterMap_cons]
      by_cases hj : j = i
      · subst hj
        rw [logOf_self, List.filterMap_cons, ih hrest]
      · rw [logOf_of_ne hj, ih hrest]
        cases hvalue : f e with
        | none => rfl
        | some value => exact absurd (hx value hvalue) hj

end Logs

/-- The shared state is that after the history, and each call has come as far as the history says
that it asked. -/
structure Coherent (s : Service) (jobId : String) (store : Store) (w : State) : Prop where
  shared : w.shared = (Shared.initial store).run w.history
  legal : (Shared.initial store).Legal w.history
  follows : ∀ (i : Nat) (o : Ongoing), w.calls[i]? = some o →
    (o.call.script s jobId).Follows (logOf i w.history) o.rest
  known : ∀ x ∈ w.history, x.caller < w.calls.length

variable {s : Service} {jobId : String} {store : Store} {w w' : State}

theorem Coherent.initial : Coherent s jobId store (.initial store) where
  shared := rfl
  legal := trivial
  follows := by simp [State.initial]
  known := by simp [State.initial]

theorem Coherent.call (h : Coherent s jobId store w) (c : Call) :
    Coherent s jobId store { w with calls := w.calls ++ [⟨c, c.script s jobId⟩] } where
  shared := h.shared
  legal := h.legal
  follows := by
    intro i o hi
    rw [List.getElem?_append] at hi
    split at hi
    · exact h.follows i o hi
    · rename_i hlen
      obtain rfl := List.mem_singleton.1 (List.mem_of_getElem? hi)
      have quiet : logOf i w.history = [] := by
        refine List.filterMap_eq_nil_iff.2 fun x hx => if_neg fun heq => hlen ?_
        exact heq ▸ h.known x hx
      rw [quiet]
      exact .stop _
  known := by
    intro x hx
    have := h.known x hx
    simp
    omega

theorem Coherent.ask (h : Coherent s jobId store w) {i : Nat} {c : Call} {op : ServiceOp}
    {next : op.Answer → ServiceScript (Except ServiceError c.Result)} {answer : op.Answer}
    (hi : w.calls[i]? = some ⟨c, Script.ask (I := serviceInterface) op next⟩)
    (hg : w.shared.Gives op answer) :
    Coherent s jobId store
      ⟨w.shared.after op, w.calls.set i ⟨c, next answer⟩, w.history ++ [⟨i, ⟨op, answer⟩⟩]⟩ where
  shared := by simp [h.shared]
  legal := Shared.legal_append.2 ⟨h.legal, h.shared ▸ hg, trivial⟩
  follows := by
    intro j o hj
    rw [logOf_append]
    by_cases hji : i = j
    · subst hji
      have hlt : i < w.calls.length := (List.getElem?_eq_some_iff.1 hi).1
      rw [List.getElem?_set_self hlt] at hj
      cases hj
      rw [logOf_self]
      exact (h.follows i _ hi).snoc answer
    · rw [List.getElem?_set_ne hji] at hj
      rw [logOf_of_ne hji]
      simpa [logOf] using h.follows j o hj
  known := by
    intro x hx
    rw [List.length_set]
    obtain hx | hx := List.mem_append.1 hx
    · exact h.known x hx
    · obtain rfl := List.mem_singleton.1 hx
      exact (List.getElem?_eq_some_iff.1 hi).1

theorem Reachable.coherent (h : Reachable s jobId store w) : Coherent s jobId store w := by
  induction h with
  | initial => exact .initial
  | step _ hs ih =>
      cases hs with
      | call c => exact ih.call c
      | ask hi hg => exact ih.ask hi hg

/-- A call asks on while no other does. -/
theorem Reachable.follow (h : Reachable s jobId store w) {i : Nat} {c : Call}
    {script rest : ServiceScript (Except ServiceError c.Result)} {log : List ServiceEvent}
    (hi : w.calls[i]? = some ⟨c, script⟩) (hf : script.Follows log rest)
    (hl : w.shared.Legal (log.map (Entry.mk i))) :
    Reachable s jobId store ⟨w.shared.run (log.map (Entry.mk i)), w.calls.set i ⟨c, rest⟩,
      w.history ++ log.map (Entry.mk i)⟩ := by
  induction hf generalizing w with
  | stop script =>
      obtain ⟨hlt, heq⟩ := List.getElem?_eq_some_iff.1 hi
      have same : w.calls.set i ⟨c, script⟩ = w.calls := by
        rw [← heq, List.set_getElem_self]
      simpa [same] using h
  | @answered op next answer log _ _ ih =>
      have hlt : i < w.calls.length := (List.getElem?_eq_some_iff.1 hi).1
      have later := ih (h.step (.ask hi hl.1)) (List.getElem?_set_self hlt) hl.2
      simpa using later

theorem Coherent.asked (h : Coherent s jobId store w) {x : Entry} (hx : x ∈ w.history) :
    ∃ o, w.calls[x.caller]? = some o ∧ o.call.Asks jobId x.event.op := by
  obtain ⟨o, ho⟩ : ∃ o, w.calls[x.caller]? = some o :=
    ⟨_, List.getElem?_eq_getElem (h.known x hx)⟩
  exact ⟨o, ho, (o.call.asks).follows (h.follows _ _ ho) x.event (mem_logOf.2 hx)⟩

theorem mem_changes {x : Entry} {h : List Entry} (hx : x ∈ h) {st : JobStatus} {made : Bool}
    (hc : changeOf? jobId x.event = some (st, made)) :
    (st, made) ∈ changes jobId (logOf x.caller h) :=
  List.mem_filterMap.2 ⟨x.event, mem_logOf.2 hx, hc⟩

/-! ### Interleavings that are played -/

inductive Move where
  | call (c : Call)
  | ask (i : Nat)

/-- Does one move. The cluster gives the same reply to everything. -/
def State.move (s : Service) (jobId : String) (reply : Reply) (w : State) : Move → State
  | .call c => { w with calls := w.calls ++ [⟨c, c.script s jobId⟩] }
  | .ask i =>
      match w.calls[i]? with
      | some ⟨c, Script.ask op next⟩ =>
          let answer := w.shared.answer reply op
          ⟨w.shared.after op, w.calls.set i ⟨c, next answer⟩, w.history ++ [⟨i, ⟨op, answer⟩⟩]⟩
      | _ => w

def State.play (s : Service) (jobId : String) (reply : Reply) (moves : List Move) (w : State) :
    State :=
  moves.foldl (move s jobId reply) w

theorem Reachable.move (h : Reachable s jobId store w) (reply : Reply) (m : Move) :
    Reachable s jobId store (w.move s jobId reply m) := by
  cases m with
  | call c => exact h.step (.call w c)
  | ask i =>
      rw [State.move]
      split
      · rename_i hi
        exact h.step (.ask hi (Shared.gives_answer ..))
      · exact h

theorem Reachable.play (h : Reachable s jobId store w) (reply : Reply) (moves : List Move) :
    Reachable s jobId store (w.play s jobId reply moves) := by
  induction moves generalizing w with
  | nil => exact h
  | cons m moves ih => exact ih (h.move reply m)

def sampleService : Service := ⟨Engine.sampleEngine, ⟨∅, ∅, ⟨∅⟩⟩⟩

def sampleTask : Task := .ofSpec "a" "j" ⟨0, "p", ∅, []⟩

/-- A store with one job of one task. -/
def sampleStore : Store where
  jobs := (∅ : Dict String JobRow).insert "j" (.ofJob (.create "j" "u" .null none))
  tasks := (∅ : Dict String TaskRow).insert "a" (.ofTask sampleTask)

/-- What the sample comes to when the cluster cannot be reached. -/
def playSample (moves : List Move) : State :=
  (State.initial sampleStore).play sampleService "j" (.error (.transport "")) moves

/-- The job is queued, and its worker goes on until it runs the engine. -/
def sampleWork : List Move :=
  [.call .start, .ask 0, .ask 0, .ask 0, .call .work, .ask 1, .ask 1, .ask 1]

theorem reachable_playSample (moves : List Move) :
    Reachable sampleService "j" sampleStore (playSample moves) :=
  Reachable.initial.play _ moves

end Service
end ImageryJobs
