import ImageryJobs.Proofs.Cluster.Deadlines
import ImageryJobs.Proofs.Cluster.Waits

/-!
When a wait looks, and when it ends. Scripts run on a clock that only pauses move, with a token that may
be tripped at some moment. A wait looks at every multiple of its interval that the deadline, the token
and the earlier looks leave, and ends at the moment of the first look that decides, else when the token
is tripped, else at the deadline.
-/

namespace ImageryJobs

/-! ### Clocks -/

namespace ClusterScript

/-- A clock, and what was sent when. -/
structure Timeline where
  now : Nat
  sent : List (Nat × Exchange)

/-- Whether a token that is tripped at some moment, or never, is so by then. -/
def tripped (trip : Option Nat) (time : Nat) : Bool := trip.any (· ≤ time)

theorem tripped_iff {trip : Option Nat} {time : Nat} :
    tripped trip time = true ↔ ∃ moment, trip = some moment ∧ moment ≤ time := by
  simp [tripped, Option.any_eq_true]

theorem tripped_mono {trip : Option Nat} {time time' : Nat} (h : tripped trip time = true)
    (hle : time ≤ time') : tripped trip time' = true := by
  obtain ⟨moment, htrip, hmoment⟩ := tripped_iff.1 h
  exact tripped_iff.2 ⟨moment, htrip, Nat.le_trans hmoment hle⟩

namespace Timeline

/-- Sends this now. -/
def tell (x : Timeline) (exchanges : List Exchange) : Timeline :=
  { x with sent := x.sent ++ exchanges.map (Prod.mk x.now) }

theorem tell_tell (x : Timeline) (l l' : List Exchange) :
    (x.tell l).tell l' = x.tell (l ++ l') := by
  simp [tell]

/-- Until a span is over or the token is tripped. -/
def wait (trip : Option Nat) (span : Nat) (x : Timeline) : Timeline :=
  { x with now :=
      if tripped trip (x.now + span) then max x.now (trip.getD 0) else x.now + span }

theorem now_wait_of_tripped {trip : Option Nat} {moment span : Nat} {x : Timeline}
    (htrip : trip = some moment) (h : moment ≤ x.now + span) :
    (x.wait trip span).now = max x.now moment := by
  have hit : tripped trip (x.now + span) = true := tripped_iff.2 ⟨moment, htrip, h⟩
  rw [wait, if_pos hit, htrip]
  rfl

theorem now_wait {trip : Option Nat} {span : Nat} {x : Timeline}
    (h : tripped trip (x.now + span) = false) : (x.wait trip span).now = x.now + span :=
  if_neg (by simp [h])

end Timeline

/-- Requests are answered at once, by a connector that may see all that was; a pause takes its span
unless the token is tripped. -/
def timed (connector : Timeline → Request → Reply) (trip : Option Nat) :
    (op : ClusterOp) → StateM Timeline op.Answer
  | .send request => do
      let x ← get
      let reply := connector x request
      set (x.tell [⟨request, reply⟩])
      return reply
  | .pause span => do
      let x ← get
      set (x.wait trip span)
      return tripped trip (x.now + span)

/-- What a script gives on a clock, and what is on the clock then. -/
def onTime (connector : Timeline → Request → Reply) (trip : Option Nat) (s : ClusterScript α)
    (x : Timeline) : α × Timeline :=
  (s.run (timed connector trip)).run x

/-- The rules of a clock. -/
abbrev clock (connector : Timeline → Request → Reply) (trip : Option Nat) :
    Rules clusterInterface Timeline := .answering (timed connector trip)

variable {connector : Timeline → Request → Reply} {trip : Option Nat} {x x' : Timeline}

theorem notes_clock : Notes (clock connector trip) Timeline.tell where
  allows _ _ := trivial
  send moved := by
    obtain ⟨rfl, rfl⟩ := Prod.mk.inj moved
    rfl
  append := Timeline.tell_tell

theorem wait_of_moves {span : Nat} {early : Bool}
    (h : (clock connector trip).moves x ⟨.pause span, early⟩ x') :
    early = tripped trip (x.now + span) ∧ x' = x.wait trip span := by
  obtain ⟨rfl, rfl⟩ := Prod.mk.inj h
  exact ⟨rfl, rfl⟩

end ClusterScript

open ClusterScript

/-! ### Schedules -/

namespace Watch

variable {π ε α : Type}

/-- What looks send, one every interval. -/
def timetable (interval : Nat) (exchanges : π → List Exchange) (start : Nat) (polls : List π) :
    List (Nat × Exchange) :=
  (polls.mapIdx fun k p => (exchanges p).map (Prod.mk (start + k * interval))).flatten

theorem timetable_concat (interval : Nat) (exchanges : π → List Exchange) (start : Nat)
    (polls : List π) (p : π) :
    timetable interval exchanges start (polls ++ [p]) = timetable interval exchanges start polls ++
      (exchanges p).map (Prod.mk (start + polls.length * interval)) := by
  simp [timetable, List.mapIdx_concat]

/-- The looks that were made, each before the deadline and before the token was tripped. -/
structure Looked (w : Watch) (trip : Option Nat) (wait : Wait π ε α) (x : Timeline) (polls : List π)
    (x' : Timeline) : Prop where
  asked : ∀ p ∈ polls, wait.asked p
  sent : x'.sent = x.sent ++ timetable w.interval wait.exchanges x.now polls
  due : ∀ k < polls.length, k * w.interval < w.timeout ∧ tripped trip (x.now + k * w.interval) = false

/-- A wait that went by the schedule. -/
structure OnSchedule (w : Watch) (trip : Option Nat) (wait : Wait π ε α) (x : Timeline)
    (polls : List π) (result : Except ε α) (x' : Timeline) : Prop extends
    Looked w trip wait x polls x' where
  /-- No look is made after one that decides. -/
  earlier : ∀ p ∈ polls.dropLast, wait.verdict p = none
  decided : ∀ p verdict, polls.getLast? = some p → wait.verdict p = some verdict →
    result = verdict ∧ x'.now = x.now + (polls.length - 1) * w.interval
  /-- While no look decides, all looks are made. -/
  complete : (∀ p ∈ polls, wait.verdict p = none) → w.timeout ≤ polls.length * w.interval ∨
    tripped trip (x.now + polls.length * w.interval) = true
  cancelled : (∀ p ∈ polls, wait.verdict p = none) → ∀ moment, trip = some moment →
    moment ≤ x.now + w.timeout → result = .error wait.cancelled ∧ x'.now = max x.now moment
  expired : (∀ p ∈ polls, wait.verdict p = none) → tripped trip (x.now + w.timeout) = false →
    result = .error wait.expired ∧ x'.now = x.now + w.timeout

variable {w : Watch} {trip : Option Nat} {wait : Wait π ε α} {x x' : Timeline} {polls : List π}
  {result : Except ε α} {p : π}

theorem Looked.nil (x : Timeline) : Looked w trip wait x [] x :=
  ⟨List.forall_mem_nil _, (List.append_nil _).symm, fun _ hk => absurd hk (Nat.not_lt_zero _)⟩

theorem Looked.length_le (h : Looked w trip wait x polls x') (hi : 0 < w.interval) :
    polls.length ≤ (w.timeout + w.interval - 1) / w.interval := by
  cases hn : polls.length with
  | zero => exact Nat.zero_le _
  | succ n =>
      have last : n * w.interval < w.timeout := (h.due n (by omega)).1
      rw [Nat.le_div_iff_mul_le hi, Nat.succ_mul]
      omega

theorem Looked.eq_nil (h : Looked w trip wait x polls x') (ht : w.timeout = 0) : polls = [] := by
  cases polls with
  | nil => rfl
  | cons p polls =>
      have first := (h.due 0 (Nat.succ_pos _)).1
      rw [ht] at first
      exact absurd first (Nat.not_lt_zero _)

theorem Looked.pause {span : Nat} (h : Looked w trip wait x polls x') :
    Looked w trip wait x polls (x'.wait trip span) :=
  ⟨h.asked, h.sent, h.due⟩

theorem Looked.tell (h : Looked w trip wait x polls x') (hp : wait.asked p)
    (now : x'.now = x.now + polls.length * w.interval) (early : polls.length * w.interval < w.timeout)
    (free : tripped trip x'.now = false) :
    Looked w trip wait x (polls ++ [p]) (x'.tell (wait.exchanges p)) := by
  refine ⟨List.forall_mem_append.2 ⟨h.asked, List.forall_mem_singleton.2 hp⟩, ?_, fun k hk => ?_⟩
  · rw [timetable_concat, ← List.append_assoc, ← h.sent, ← now]
    rfl
  · rw [List.length_append, List.length_singleton, Nat.lt_succ_iff_lt_or_eq] at hk
    obtain hk | rfl := hk
    · exact h.due k hk
    · exact ⟨early, now ▸ free⟩

theorem Looked.decide {verdict : Except ε α} (h : Looked w trip wait x (polls ++ [p]) x')
    (none : ∀ p ∈ polls, wait.verdict p = none) (some : wait.verdict p = some verdict)
    (now : x'.now = x.now + polls.length * w.interval) :
    OnSchedule w trip wait x (polls ++ [p]) verdict x' := by
  have decides : ¬ ∀ q ∈ polls ++ [p], wait.verdict q = Option.none := fun all => by
    have := all p (by simp)
    rw [some] at this
    cases this
  refine ⟨h, by simpa using none, fun q v hq hv => ?_, fun all => absurd all decides,
    fun all => absurd all decides, fun all => absurd all decides⟩
  obtain rfl : p = q := by simpa using hq
  obtain rfl : verdict = v := by simpa [some] using hv
  exact ⟨rfl, by simpa using now⟩

/-- Nothing decided, and the pause to the next look or to the deadline ends the wait: the token was
tripped, or it was the deadline. -/
theorem Looked.give {span : Nat} (h : Looked w trip wait x polls x')
    (none : ∀ p ∈ polls, wait.verdict p = none)
    (free : x'.now = x.now ∨ tripped trip x'.now = false) (started : x.now ≤ x'.now)
    (next : x'.now + span = x.now + min (polls.length * w.interval) w.timeout) :
    if tripped trip (x'.now + span) then
      OnSchedule w trip wait x polls (.error wait.cancelled) (x'.wait trip span)
    else w.timeout ≤ polls.length * w.interval →
      OnSchedule w trip wait x polls (.error wait.expired) (x'.wait trip span) := by
  have undecided {q : π} {v : Except ε α} (hq : polls.getLast? = some q) :
      wait.verdict q ≠ some v := by
    rw [none q (List.mem_of_getLast? hq)]
    nofun
  have earlier : ∀ q ∈ polls.dropLast, wait.verdict q = Option.none := fun q hq =>
    none q ((List.dropLast_sublist polls).mem hq)
  split
  case isTrue hit =>
    obtain ⟨moment, htrip, hmoment⟩ := tripped_iff.1 hit
    refine ⟨h.pause, earlier, fun q v hq hv => absurd hv (undecided hq), fun _ => .inr ?_,
      fun _ other hother _ => ⟨rfl, ?_⟩, fun _ hfree => ?_⟩
    · exact tripped_mono hit (by omega)
    · -- A trip before this pause can only have been before the wait began.
      obtain rfl : moment = other := Option.some.inj (htrip.symm.trans hother)
      rw [Timeline.now_wait_of_tripped htrip hmoment]
      obtain now | now := free
      · rw [now]
      · have later : ¬ moment ≤ x'.now := fun hle => by
          rw [tripped_iff.2 ⟨moment, htrip, hle⟩] at now
          cases now
        omega
    · rw [tripped_mono hit (by omega)] at hfree
      cases hfree
  case isFalse free' =>
    have free' : tripped trip (x'.now + span) = false := by simpa using free'
    intro late
    have deadline : x'.now + span = x.now + w.timeout := by rw [next, Nat.min_eq_right late]
    refine ⟨h.pause, earlier, fun q v hq hv => absurd hv (undecided hq), fun _ => .inl late,
      fun _ moment htrip hle => ?_, fun _ _ => ⟨rfl, ?_⟩⟩
    · rw [deadline, tripped_iff.2 ⟨moment, htrip, hle⟩] at free'
      cases free'
    · rw [Timeline.now_wait free', deadline]

/-! ### Loops -/

section

-- The states of the computation show a clock; `inv` is what all parts of the loop keep.
variable {m : Type → Type} [Monad m] [MonadLiftT ClusterScript m] {S : Type} {C : Calculus m S}
  {look : m (Option α)} {cancelled expired : m α} {connector : Timeline → Request → Reply}
  {line : S → Timeline} {inv : S → Prop}

/-- The wait is over, and went by the schedule. -/
def Kept (w : Watch) (trip : Option Nat) (wait : Wait π ε α) (x : Timeline) (result : Except ε α)
    (x' : Timeline) : Prop :=
  ∃ polls, OnSchedule w trip wait x polls result x'

/-- So many looks were made, and none of them decided. It is the time of one look, and the token is
not tripped. -/
def Open (w : Watch) (trip : Option Nat) (wait : Wait π ε α) (x : Timeline) (line : S → Timeline)
    (inv : S → Prop) (looks moment : Nat) (s : S) : Prop :=
  inv s ∧ (∃ polls, polls.length = looks ∧ (∀ p ∈ polls, wait.verdict p = none) ∧
    Looked w trip wait x polls (line s)) ∧ (line s).now = x.now + moment * w.interval ∧
    moment * w.interval < w.timeout ∧ tripped trip (line s).now = false

variable (parts : wait.Parts (clock connector trip) Timeline.tell C line inv (Kept w trip wait x) look
  cancelled expired)
include parts

theorem meets_look_on_schedule {k : Nat} {s : S} (hs : Open w trip wait x line inv k k s) :
    C.meets look s fun found s =>
      match found with
      | some value => Kept w trip wait x (.ok value) (line s)
      | none => Open w trip wait x line inv (k + 1) k s := by
  obtain ⟨hs, ⟨polls, rfl, undecided, looked⟩, now, early, free⟩ := hs
  have more {p : π} {s' : S} (asked : wait.asked p) (told : line s' = (line s).tell (wait.exchanges p)) :
      Looked w trip wait x (polls ++ [p]) (line s') ∧ (line s').now = (line s).now :=
    told ▸ ⟨looked.tell asked now early free, rfl⟩
  refine parts.look s _ hs (fun p found s' hs' asked told verdict => ?_)
    fun p e s' _ asked told verdict => ?_
  · obtain ⟨looked', now'⟩ := more asked told
    cases found with
    | some value => exact ⟨_, looked'.decide undecided verdict (now'.trans now)⟩
    | none =>
        refine ⟨hs', ⟨polls ++ [p], by simp, ?_, looked'⟩, now'.trans now, early, now' ▸ free⟩
        exact List.forall_mem_append.2 ⟨undecided, List.forall_mem_singleton.2 verdict⟩
  · obtain ⟨looked', now'⟩ := more asked told
    exact ⟨_, looked'.decide undecided verdict (now'.trans now)⟩

theorem meets_pause_on_schedule {polls : List π} (span : Nat) {s : S} (hs : inv s)
    (h : Looked w trip wait x polls (line s)) (none : ∀ p ∈ polls, wait.verdict p = none)
    (free : (line s).now = x.now ∨ tripped trip (line s).now = false) (started : x.now ≤ (line s).now)
    (next : (line s).now + span = x.now + min (polls.length * w.interval) w.timeout) :
    C.meets (liftM (pause span : ClusterScript Bool) : m Bool) s fun early s =>
      if early then C.meets cancelled s fun value s => Kept w trip wait x (.ok value) (line s)
      else if w.timeout ≤ polls.length * w.interval then
        C.meets expired s fun value s => Kept w trip wait x (.ok value) (line s)
      else Open w trip wait x line inv polls.length polls.length s := by
  refine parts.pause span s _ hs fun early s' hs' moved => ?_
  obtain ⟨rfl, hline⟩ := wait_of_moves moved
  have gives := h.give none free started next
  rw [← hline] at gives
  split
  case isTrue hit =>
    rw [if_pos hit] at gives
    exact parts.cancelled s' hs' ⟨polls, gives⟩
  case isFalse free' =>
    rw [if_neg free'] at gives
    split
    case isTrue late => exact parts.expired s' hs' ⟨polls, gives late⟩
    case isFalse early =>
      have early : polls.length * w.interval < w.timeout := Nat.lt_of_not_le early
      have free' : tripped trip ((line s).now + span) = false := by simpa using free'
      have now : (line s').now = (line s).now + span := by rw [hline, Timeline.now_wait free']
      refine ⟨hs', ⟨polls, rfl, none, hline ▸ h.pause⟩, ?_, early, now ▸ free'⟩
      rw [now, next, Nat.min_eq_left (Nat.le_of_lt early)]

theorem meets_guarded_on_schedule (hi : 0 < w.interval) {s : S} (hs : inv s) (hx : line s = x) :
    C.meets (guarded w look cancelled expired) s fun value s =>
      Kept w trip wait x (.ok value) (line s) := by
  subst hx
  -- The question whether the token is tripped is a pause of no length, before the first look.
  have start := meets_pause_on_schedule parts 0 hs (Looked.nil (line s))
    (List.forall_mem_nil _) (.inl rfl) (Nat.le_refl _) (by simp)
  refine C.bind (C.mono start fun early s' hearly => ?_)
  cases early with
  | true => exact hearly
  | false =>
      simp only [Bool.false_eq_true, if_false, List.length_nil, Nat.zero_mul, Nat.le_zero] at hearly ⊢
      split
      case isTrue none => rwa [if_pos none] at hearly
      case isFalse some =>
        rw [if_neg some] at hearly
        refine meets_untilDecided_by_looks (D := fun k => Open w trip wait (line s) line inv k k)
          (W := fun k => Open w trip wait (line s) line inv (k + 1) k)
          (fun k s hs => meets_look_on_schedule parts hs) (fun k s hs => ?_) hi hearly
        obtain ⟨hs, ⟨polls, hn, undecided, looked⟩, now, early, free⟩ := hs
        have next : (k + 1) * w.interval = k * w.interval + w.interval := Nat.succ_mul k w.interval
        have paused := meets_pause_on_schedule parts
          (min w.interval (w.timeout - k * w.interval)) hs looked undecided (.inr free)
          (by rw [now]; exact Nat.le_add_right _ _) (by rw [now, hn]; omega)
        rw [hn] at paused
        exact paused

end

end Watch

/-! ### Objects -/

namespace Resource

section

variable {connector : Timeline → Request → Reply} {trip : Option Nat} {ns : String} {w : Watch}
  {x : Timeline} {r : Resource}

variable (connector trip ns r x)

theorem meetsWith_waitReady_on_schedule (hi : 0 < w.interval) :
    MeetsWith (clock connector trip) (waitReady ns w) r x
      (fun object _ => w.Kept trip (r.template.readyWait ns w) x (.ok object))
      fun e _ => w.Kept trip (r.template.readyWait ns w) x (.error e) := by
  rw [waitReady, meetsWith_get_bind]
  exact Calculus.meets_stateful.1 (Watch.meets_guarded_on_schedule
    (parts_waitReady notes_clock ns r.template w _) hi (s := (r, x)) rfl rfl)

theorem meetsOr_waitGone_on_schedule (hi : 0 < w.interval) :
    MeetsOr (clock connector trip) (waitGone ns w r) x
      (fun value => w.Kept trip (r.template.goneWait ns w) x (.ok value))
      fun e => w.Kept trip (r.template.goneWait ns w) x (.error e) := by
  rw [waitGone_eq]
  exact Calculus.meets_failing.1 (Watch.meets_guarded_on_schedule
    (parts_waitGone notes_clock ns r.template w _) hi trivial rfl)

end

/-- On a clock, whatever the cluster answers and whenever the work is cancelled, the waits until an
object is ready and until it is gone go by the schedule. -/
theorem waits_on_schedule (connector : Timeline → Request → Reply) (trip : Option Nat) (ns : String)
    (w : Watch) (hi : 0 < w.interval) (r : Resource) (x : Timeline) :
    (∃ polls result r' x', onTime connector trip ((waitReady ns w).run.run r) x = ((result, r'), x') ∧
      w.OnSchedule trip (r.template.readyWait ns w) x polls result x' ∧
      polls.length ≤ (w.timeout + w.interval - 1) / w.interval ∧ (w.timeout = 0 → polls = [])) ∧
    ∃ polls result x', onTime connector trip (waitGone ns w r).run x = (result, x') ∧
      w.OnSchedule trip (r.template.goneWait ns w) x polls result x' ∧
      polls.length ≤ (w.timeout + w.interval - 1) / w.interval ∧ (w.timeout = 0 → polls = []) := by
  constructor
  · have ends := Script.meets_answering.1 (meetsWith_waitReady_on_schedule connector trip ns x r hi)
    obtain ⟨polls, kept⟩ := (ending_iff (P := w.Kept trip (r.template.readyWait ns w) x)).1 ends
    exact ⟨polls, _, _, _, rfl, kept, kept.length_le hi, kept.eq_nil⟩
  · have ends := Script.meets_answering.1 (meetsOr_waitGone_on_schedule connector trip ns x r hi)
    obtain ⟨polls, kept⟩ := (ending_iff (P := w.Kept trip (r.template.goneWait ns w) x)).1 ends
    exact ⟨polls, _, _, rfl, kept, kept.length_le hi, kept.eq_nil⟩

/-- An object that is pending, and may have pods. -/
def pendingResource : Resource :=
  .ofTemplate ⟨.batchJob, "a", .null, fun _ _ => .pending, some "s", false⟩

/-- A wait for it, in which the token is tripped when the third look is due. -/
def pendingRun : (Except LifecycleError Json × Resource) × Timeline :=
  onTime (fun _ _ => .ok .empty) (some 20) ((waitReady "ns" ⟨10, 25⟩).run.run pendingResource) ⟨0, []⟩

theorem waits_on_schedule_sample :
    (∃ polls, Watch.OnSchedule ⟨10, 25⟩ (some 20) (pendingResource.template.readyWait "ns" ⟨10, 25⟩)
      ⟨0, []⟩ polls pendingRun.1.1 pendingRun.2 ∧ polls.length ≤ 3) ∧
    pendingRun.1.1 = .error (.cancelled .batchJob "a") ∧ pendingRun.2.now = 20 ∧
      pendingRun.2.sent.map Prod.fst = [0, 0, 10, 10] := by
  obtain ⟨⟨polls, result, r', x', ran, kept, few, -⟩, -⟩ :=
    waits_on_schedule (fun _ _ => .ok .empty) (some 20) "ns" ⟨10, 25⟩ (by decide) pendingResource ⟨0, []⟩
  have played : pendingRun = ((result, r'), x') := ran
  refine ⟨⟨polls, ?_, Nat.le_trans few (by decide)⟩, ?_, ?_, ?_⟩
  · rw [played]
    exact kept
  all_goals decide +kernel

end Resource
end ImageryJobs
