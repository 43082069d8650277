import ImageryJobs.Proofs.Engine.Serving
import ImageryJobs.Proofs.Members
import Mathlib.Data.List.Perm.Basic

/-!
Custody of volumes. Whatever is asked of a planned arena, and in whichever order, every volume that it
accepted is still in its place or was handed out once: when the arena was emptied, or to the task for
which the plan keeps it.
-/

namespace ImageryJobs

variable {ρ : Type}

/-- What is asked of an arena. -/
inductive ArenaCall (ρ : Type) where
  | register (v : HeldVolume ρ)
  | take (consumer : Nat) (producers : List Nat)
  | drain

namespace ArenaCall

/-- What a call does, step by step. If it fails, the arena stays as the steps before have left it. -/
def steps : ArenaCall ρ → ExceptT VolumeError (StateM (Arena ρ)) (List (HeldVolume ρ))
  | .register v => do
      let a ← ofExcept ((← get).register v)
      set a
      return []
  | .take consumer producers => do
      producers.forM fun p => do ofExcept ((← get).checkTake consumer p)
      producers.filterMapM fun p => modifyGet (·.remove p)
  | .drain => modifyGet Arena.drain

/-- Carries a call out: the volumes that it hands out or why it fails, and the arena afterwards. -/
def apply (call : ArenaCall ρ) (a : Arena ρ) : Except VolumeError (List (HeldVolume ρ)) × Arena ρ :=
  call.steps.run.run a

/-- The volumes that a call brings. -/
def brings : ArenaCall ρ → List (HeldVolume ρ)
  | .register v => [v]
  | .take _ _ | .drain => []

/-- By the plan of an arena the call may hand a volume out: it empties the arena, or it is made for the
task that reads the volume. -/
def Releases (a : Arena ρ) (v : HeldVolume ρ) : ArenaCall ρ → Prop
  | .register _ => False
  | .take consumer _ => a.consumerOf v.producer = some consumer
  | .drain => True

end ArenaCall

/-- An arena with the volumes that it has accepted and those that it has handed out. -/
structure Custody (ρ : Type) where
  arena : Arena ρ
  accepted : List (HeldVolume ρ)
  handedOut : List (HeldVolume ρ)
  deriving DecidableEq

namespace Custody

def opened (a : Arena ρ) : Custody ρ := ⟨a, [], []⟩

def enter (c : Custody ρ) (call : ArenaCall ρ) : Custody ρ :=
  match call.apply c.arena with
  | (.ok given, a) => ⟨a, c.accepted ++ call.brings, c.handedOut ++ given⟩
  | (.error _, a) => { c with arena := a }

end Custody

namespace Arena

variable {a a' : Arena ρ} {v : HeldVolume ρ} {p : Nat}

/-! ### What is in the places -/

theorem place_drain (a : Arena ρ) (p : Nat) : a.drain.2.place p = (a.place p).map fun _ => none := by
  simp [drain, place, Option.map_map, Function.comp_def]

theorem consumerOf_drain (a : Arena ρ) (p : Nat) : a.drain.2.consumerOf p = a.consumerOf p := by
  rw [consumerOf, drain, Dict.get?_map, consumerOf]
  cases a.slots.get? p <;> rfl

theorem volumes_drain (a : Arena ρ) : a.drain.2.volumes = [] := by
  simp [drain, volumes, Dict.values, Dict.map, Function.comp_def]

theorem consumerOf_of_checkTake {consumer producer : Nat}
    (h : a.checkTake consumer producer = .ok ()) : a.consumerOf producer = some consumer := by
  unfold checkTake at h
  cases hs : a.slots.get? producer with
  | none => simp [hs] at h
  | some slot =>
      by_cases planned : slot.consumer = some consumer
      · simp [consumerOf, hs, planned]
      · simp [hs, planned] at h

/-- Every volume is in the place of its producer. -/
def Filed (a : Arena ρ) : Prop := ∀ p v, a.place p = some (some v) → v.producer = p

theorem Filed.mem_volumes_iff (h : a.Filed) :
    v ∈ a.volumes ↔ a.place v.producer = some (some v) := by
  rw [mem_volumes]
  constructor
  · rintro ⟨p, hp⟩
    rwa [h p v hp]
  · exact fun hp => ⟨_, hp⟩

/-- The arena holds one volume for each place that is not empty. -/
theorem held_eq (a : Arena ρ) :
    a.held = (a.slots.keys.filter fun p => (a.place p).join.isSome).length := by
  have occupied : ∀ e ∈ a.slots.entries, (a.place e.1).join.isSome = e.2.volume.isSome := by
    intro e he
    rw [place, Dict.get?_eq_some_iff.2 he]
    rfl
  rw [held, volumes, Dict.values, List.length_filterMap_eq_countP, List.countP_map, Dict.keys,
    List.filter_map, List.length_map, ← List.countP_eq_length_filter]
  exact List.countP_congr fun e he => by simp [occupied e he]

/-! ### One place changes -/

/-- What an arena holds is what is in one place and what is in the others. -/
theorem volumes_perm {slot : Slot ρ} (h : a.slots.get? p = some slot) :
    a.volumes.Perm (slot.volume.toList ++ Arena.volumes ⟨a.slots.erase p⟩) := by
  have entries := ((Dict.perm_erase_of_get? h).map Prod.snd).filterMap (·.volume)
  cases hv : slot.volume <;> simpa [volumes, Dict.values, hv] using entries

/-- What is put into a place is held in addition to what is in the others. -/
theorem volumes_insert_perm (a : Arena ρ) (p : Nat) (slot : Slot ρ) :
    (Arena.volumes ⟨a.slots.insert p slot⟩).Perm
      (slot.volume.toList ++ Arena.volumes ⟨a.slots.erase p⟩) := by
  have others : (a.slots.insert p slot).erase p = a.slots.erase p :=
    Dict.ext_get? fun k => by by_cases hk : k = p <;> simp [hk]
  have here : (a.slots.insert p slot).get? p = some slot := by simp
  have held := @volumes_perm _ ⟨a.slots.insert p slot⟩ p slot here
  rwa [others] at held

theorem register_eq_ok : a.register v = .ok a' ↔
    ∃ slot, a.slots.get? v.producer = some slot ∧ slot.volume = none ∧
      a' = ⟨a.slots.insert v.producer { slot with volume := some v }⟩ := by
  unfold register
  cases hs : a.slots.get? v.producer with
  | none => simp
  | some slot => cases hv : slot.volume <;> simp [hv, eq_comm]

theorem volumes_register (h : a.register v = .ok a') : (v :: a.volumes).Perm a'.volumes := by
  obtain ⟨slot, hs, vacant, rfl⟩ := register_eq_ok.1 h
  have before := volumes_perm hs
  rw [vacant] at before
  exact (before.cons v).trans (volumes_insert_perm a v.producer { slot with volume := some v }).symm

theorem volumes_remove (a : Arena ρ) (p : Nat) :
    a.volumes.Perm ((a.remove p).1.toList ++ (a.remove p).2.volumes) := by
  unfold remove
  cases hs : a.slots.get? p with
  | none => exact .refl _
  | some slot =>
      have after := volumes_insert_perm a p { slot with volume := none }
      exact (volumes_perm hs).trans (after.symm.append_left slot.volume.toList)

theorem volumes_removeAll (ps : List Nat) (a : Arena ρ) :
    a.volumes.Perm ((a.removeAll ps).1 ++ (a.removeAll ps).2.volumes) := by
  induction ps generalizing a with
  | nil => exact .refl _
  | cons p ps ih =>
      rw [removeAll]
      dsimp only
      rw [List.append_assoc]
      exact (volumes_remove a p).trans ((ih _).append_left _)

end Arena

/-! ### One call -/

namespace ArenaCall

variable {b b' : Arena ρ} {call : ArenaCall ρ} {given : List (HeldVolume ρ)}

/-- Checking changes nothing. -/
theorem run_checks (consumer : Nat) (producers : List Nat) (b : Arena ρ) :
    (producers.forM fun p => do ofExcept ((← get).checkTake consumer p) :
      ExceptT VolumeError (StateM (Arena ρ)) Unit).run.run b =
        (producers.forM (b.checkTake consumer), b) := by
  induction producers with
  | nil => rfl
  | cons p producers ih =>
      change ((ofExcept (b.checkTake consumer p) >>= fun _ => producers.forM _) :
        ExceptT VolumeError (StateM (Arena ρ)) Unit).run.run b =
          (b.checkTake consumer p >>= fun _ => producers.forM (b.checkTake consumer), b)
      cases b.checkTake consumer p with
      | error cause => rfl
      | ok _ => exact ih

theorem run_modifyGet_bind {α β : Type} (f : Arena ρ → α × Arena ρ)
    (next : α → ExceptT VolumeError (StateM (Arena ρ)) β) (b : Arena ρ) :
    (modifyGet f >>= next).run.run b = (next (f b).1).run.run (f b).2 := rfl

/-- Removing does not fail. -/
theorem run_removals (producers : List Nat) (b : Arena ρ) :
    (producers.filterMapM fun p => modifyGet (·.remove p) :
      ExceptT VolumeError (StateM (Arena ρ)) (List (HeldVolume ρ))).run.run b =
        (.ok (b.removeAll producers).1, (b.removeAll producers).2) := by
  induction producers generalizing b with
  | nil => rfl
  | cons p producers ih =>
      rw [List.filterMapM_cons, run_modifyGet_bind, Arena.removeAll]
      generalize b.remove p = removed
      obtain ⟨v, rest⟩ := removed
      cases v with
      | none => exact ih rest
      | some v =>
          rw [ExceptT.run_bind, StateT.run_bind, ih]
          rfl

/-- Taking step by step is taking at once. -/
theorem apply_take (consumer : Nat) (producers : List Nat) (b : Arena ρ) :
    (take consumer producers).apply b = ((b.take consumer producers).map Prod.fst,
      ((b.take consumer producers).toOption.map Prod.snd).getD b) := by
  rw [apply, steps, ExceptT.run_bind, StateT.run_bind, run_checks, Arena.take]
  cases producers.forM (b.checkTake consumer) with
  | error cause => rfl
  | ok _ => exact run_removals producers b

theorem apply_register (v : HeldVolume ρ) (b : Arena ρ) :
    (register v).apply b = ((b.register v).map fun _ => [], (b.register v).toOption.getD b) := by
  change ((ofExcept (b.register v) >>= fun b' => do set b'; return []) :
    ExceptT VolumeError (StateM (Arena ρ)) (List (HeldVolume ρ))).run.run b = _
  cases b.register v <;> rfl

/-- The ways in which a call ends. -/
theorem apply_cases (call : ArenaCall ρ) (b : Arena ρ) :
    (∃ cause, call.apply b = (.error cause, b)) ∨
    (∃ v b', call = .register v ∧ b.register v = .ok b' ∧ call.apply b = (.ok [], b')) ∨
    (∃ consumer producers taken b', call = .take consumer producers ∧
      b.take consumer producers = .ok (taken, b') ∧ call.apply b = (.ok taken, b')) ∨
    (call = .drain ∧ call.apply b = (.ok b.volumes, b.drain.2)) := by
  cases call with
  | register v =>
      rw [apply_register]
      cases hr : b.register v with
      | error cause => exact .inl ⟨cause, rfl⟩
      | ok b' => exact .inr (.inl ⟨v, b', rfl, hr, rfl⟩)
  | take consumer producers =>
      rw [apply_take]
      cases ht : b.take consumer producers with
      | error cause => exact .inl ⟨cause, rfl⟩
      | ok ended => exact .inr (.inr (.inl ⟨consumer, producers, ended.1, ended.2, rfl, ht, rfl⟩))
  | drain => exact .inr (.inr (.inr ⟨rfl, rfl⟩))

theorem unchanged {cause : VolumeError} (h : call.apply b = (.error cause, b')) : b' = b := by
  obtain ⟨_, heq⟩ | ⟨_, _, -, -, heq⟩ | ⟨_, _, _, _, -, -, heq⟩ | ⟨-, heq⟩ := apply_cases call b <;>
    cases heq.symm.trans h
  rfl

/-- Nothing is lost and nothing is there twice. -/
theorem conserves (h : call.apply b = (.ok given, b')) :
    (call.brings ++ b.volumes).Perm (b'.volumes ++ given) := by
  obtain ⟨_, heq⟩ | ⟨v, _, rfl, registered, heq⟩ | ⟨consumer, producers, _, _, rfl, taken, heq⟩ |
    ⟨rfl, heq⟩ := apply_cases call b <;> cases heq.symm.trans h
  · simpa [brings] using Arena.volumes_register registered
  · have removed := Arena.volumes_removeAll producers b
    rw [(Arena.take_eq_ok.1 taken).2] at removed
    exact removed.trans List.perm_append_comm
  · rw [Arena.volumes_drain]
    exact .refl _

end ArenaCall

/-- What calls leave of an arena as it was planned. -/
structure Arena.Kept (a b : Arena ρ) : Prop where
  places : ∀ p, (b.place p).isSome = (a.place p).isSome
  planned : ∀ p, b.consumerOf p = a.consumerOf p
  filed : b.Filed

namespace Arena.Kept

variable {a b b' : Arena ρ} {v : HeldVolume ρ}

theorem register (h : a.Kept b) (hr : b.register v = .ok b') : a.Kept b' := by
  have place := register_ok hr
  obtain ⟨slot, hs, -, -⟩ := register_eq_ok.1 hr
  refine ⟨fun p => ?_, fun p => (consumerOf_register hr p).trans (h.planned p), fun p w hw => ?_⟩
  · rw [place, ← h.places]
    split
    · rename_i heq
      rw [heq, Arena.place, hs]
      rfl
    · rfl
  · rw [place] at hw
    split at hw
    · rename_i heq
      cases hw
      exact heq.symm
    · exact h.filed p w hw

/-- Places may be emptied. -/
theorem emptied (h : a.Kept b) (planned : ∀ p, b'.consumerOf p = b.consumerOf p)
    (places : ∀ p, b'.place p = b.place p ∨ b'.place p = (b.place p).map fun _ => none) :
    a.Kept b' := by
  refine ⟨fun p => ?_, fun p => (planned p).trans (h.planned p), fun p w hw => ?_⟩
  · rw [← h.places]
    obtain same | emptied := places p
    · rw [same]
    · rw [emptied, Option.isSome_map]
  · obtain same | emptied := places p
    · exact h.filed p w (same ▸ hw)
    · rw [emptied] at hw
      cases hp : b.place p <;> simp [hp] at hw

theorem apply (h : a.Kept b) (call : ArenaCall ρ) : a.Kept (call.apply b).2 := by
  obtain ⟨_, heq⟩ | ⟨v, b', -, registered, heq⟩ | ⟨_, producers, _, _, -, taken, heq⟩ | ⟨-, heq⟩ :=
    call.apply_cases b <;> rw [heq]
  · exact h
  · exact h.register registered
  · refine h.emptied (fun p => ?_) fun p => ?_
    · have planned := consumerOf_removeAll (a := b) producers p
      rwa [(take_eq_ok.1 taken).2] at planned
    · rw [(take_ok taken).2.2]
      split
      · exact .inr rfl
      · exact .inl rfl
  · exact h.emptied (consumerOf_drain b) fun p => .inr (place_drain b p)

theorem of_plan {tasks : List (Nat × List Nat)} (planned : plan tasks = .ok a) : a.Kept a := by
  refine ⟨fun _ => rfl, fun _ => rfl, fun p w hw => ?_⟩
  rw [(plan_ok planned).2] at hw
  split at hw <;> cases hw

end Arena.Kept

/-- What is handed out may be handed out. -/
theorem ArenaCall.releases {a b b' : Arena ρ} {call : ArenaCall ρ} {given : List (HeldVolume ρ)}
    (kept : a.Kept b) (h : call.apply b = (.ok given, b')) : ∀ v ∈ given, call.Releases a v := by
  intro v hv
  obtain ⟨_, heq⟩ | ⟨_, _, -, -, heq⟩ | ⟨consumer, producers, _, _, rfl, taken, heq⟩ | ⟨rfl, -⟩ :=
    apply_cases call b
  · cases heq.symm.trans h
  · cases heq.symm.trans h
    cases hv
  · cases heq.symm.trans h
    obtain ⟨p, hp, held⟩ := (Arena.take_ok taken).2.1 v hv
    rw [Releases, kept.filed p v held, ← kept.planned]
    exact Arena.consumerOf_of_checkTake ((Arena.take_eq_ok.1 taken).1 p hp)
  · trivial

/-- A reader that asks for different volumes gets them in the order in which it asks. -/
theorem Arena.Filed.producers_taken {b b' : Arena ρ} (filed : b.Filed) {consumer : Nat}
    {producers : List Nat} {given : List (HeldVolume ρ)}
    (h : b.take consumer producers = .ok (given, b')) (distinct : producers.Nodup) :
    given.map (·.producer) = producers := by
  have found := (take_in_order h distinct).flip.imp fun v p hp => filed p v hp
  exact (List.forall₂_eq_eq_eq ▸ List.forall₂_map_left_iff.2 found : _ = _)

namespace Custody

variable {a : Arena ρ}

/-- Of what was accepted, each volume is held or was handed out. -/
structure Balanced (a : Arena ρ) (c : Custody ρ) : Prop where
  kept : a.Kept c.arena
  balance : c.accepted.Perm (c.arena.volumes ++ c.handedOut)

theorem Balanced.opened {tasks : List (Nat × List Nat)} (planned : Arena.plan tasks = .ok a) :
    Balanced a (opened a) := by
  refine ⟨.of_plan planned, ?_⟩
  rw [Custody.opened, Arena.volumes_of_plan planned]
  exact .refl _

theorem Balanced.enter {c : Custody ρ} (h : Balanced a c) (call : ArenaCall ρ) :
    Balanced a (c.enter call) := by
  have kept := h.kept.apply call
  rw [Custody.enter]
  generalize hcall : call.apply c.arena = ended at kept
  obtain ⟨answer, b⟩ := ended
  cases answer with
  | error cause => exact ⟨kept, ArenaCall.unchanged hcall ▸ h.balance⟩
  | ok given =>
      refine ⟨kept, ?_⟩
      have brought : (c.accepted ++ call.brings).Perm
          ((call.brings ++ c.arena.volumes) ++ c.handedOut) := by
        rw [List.append_assoc]
        exact (h.balance.append_right _).trans List.perm_append_comm
      have gone : ((b.volumes ++ given) ++ c.handedOut).Perm (b.volumes ++ (c.handedOut ++ given)) := by
        rw [List.append_assoc]
        exact List.perm_append_comm.append_left _
      exact (brought.trans ((ArenaCall.conserves hcall).append_right _)).trans gone

theorem Balanced.after {c : Custody ρ} (h : Balanced a c) (calls : List (ArenaCall ρ)) :
    Balanced a (calls.foldl Custody.enter c) := by
  induction calls generalizing c with
  | nil => exact h
  | cons call calls ih => exact ih (h.enter call)

end Custody

/-- As many volumes are held as tasks have one in their place. -/
theorem Arena.Kept.held {a b : Arena ρ} (h : a.Kept b) {tasks : List (Nat × List Nat)}
    (planned : plan tasks = .ok a) :
    b.held = ((tasks.map Prod.fst).filter fun n => (b.place n).join.isSome).length := by
  obtain ⟨distinct, places⟩ := plan_ok planned
  have same : b.slots.keys.Perm (tasks.map Prod.fst) := by
    refine (List.perm_ext_iff_of_nodup b.slots.nodup_keys distinct).2 fun n => ?_
    have reserved : (b.place n).isSome = true ↔ n ∈ tasks.map Prod.fst := by
      rw [h.places, places]
      split <;> simp_all
    rw [← reserved, place, Option.isSome_map, Dict.mem_keys]
  rw [held_eq]
  exact (same.filter _).length_eq

namespace Arena

/-- Whatever a planned arena is asked, the volumes that it accepted are those that it holds and those
that it handed out. A call that fails changes nothing; of one that succeeds this is so again, and it hands
out only what it may by the plan. A reader that asks for different volumes gets all of them, in the order
in which it asks, if it gets any. -/
theorem volumes_conserved {tasks : List (Nat × List Nat)} {a : Arena ρ} (planned : plan tasks = .ok a)
    (calls : List (ArenaCall ρ)) :
    let c := calls.foldl Custody.enter (.opened a)
    c.accepted.Perm (c.arena.volumes ++ c.handedOut) ∧
    (∀ v, v ∈ c.arena.volumes ↔ c.arena.place v.producer = some (some v)) ∧
    c.arena.held = ((tasks.map Prod.fst).filter fun n => (c.arena.place n).join.isSome).length ∧
    (∀ (call : ArenaCall ρ) cause a', call.apply c.arena = (.error cause, a') → a' = c.arena) ∧
    (∀ (call : ArenaCall ρ) given a', call.apply c.arena = (.ok given, a') →
      (call.brings ++ c.arena.volumes).Perm (a'.volumes ++ given) ∧ ∀ v ∈ given, call.Releases a v) ∧
    ∀ consumer producers given a', c.arena.take consumer producers = .ok (given, a') →
      producers.Nodup → given.map (·.producer) = producers := by
  intro c
  have balanced := (Custody.Balanced.opened planned).after calls
  have kept := balanced.kept
  refine ⟨balanced.balance, fun v => kept.filed.mem_volumes_iff, kept.held planned,
    fun call cause a' => ArenaCall.unchanged, fun call given a' h => ?_,
    fun consumer producers given a' h => ?_⟩
  · exact ⟨ArenaCall.conserves h, ArenaCall.releases kept h⟩
  · exact kept.filed.producers_taken h

/-- Two volumes are registered, one of them twice as the arena is emptied in between, and the task that
reads both takes them; another task gets nothing. -/
theorem volumes_conserved_sample :
    let left : HeldVolume String := ⟨0, "/left", "vol-0"⟩
    let right : HeldVolume String := ⟨1, "/right", "vol-1"⟩
    let calls : List (ArenaCall String) :=
      [.register left, .register left, .take 1 [0], .drain, .register right, .register left]
    ∃ a : Arena String, plan [(0, []), (1, []), (2, [1, 0])] = .ok a ∧
      let c := calls.foldl Custody.enter (.opened a)
      c.accepted = [left, right, left] ∧ c.handedOut = [left] ∧
      c.accepted.Perm (c.arena.volumes ++ c.handedOut) ∧
      [1, 0].Nodup ∧ (ArenaCall.take 2 [1, 0]).apply c.arena = (.ok [right, left], a) ∧
      a.consumerOf right.producer = some 2 ∧ [right, left].map (·.producer) = [1, 0] := by
  intro left right calls
  let a : Arena String :=
    ⟨⟨[(0, ⟨some 2, none⟩), (1, ⟨some 2, none⟩), (2, ⟨none, none⟩)], by decide⟩⟩
  let stocked : Arena String :=
    ⟨⟨[(0, ⟨some 2, some left⟩), (1, ⟨some 2, some right⟩), (2, ⟨none, none⟩)], by decide⟩⟩
  have planned : plan [(0, []), (1, []), (2, [1, 0])] = .ok a := rfl
  have reached : calls.foldl Custody.enter (.opened a) = ⟨stocked, [left, right, left], [left]⟩ := by
    decide
  have taken : (ArenaCall.take 2 [1, 0]).apply stocked = (.ok [right, left], a) := rfl
  obtain ⟨balance, -, -, -, released, inOrder⟩ := volumes_conserved planned calls
  rw [reached] at balance released inOrder
  refine ⟨a, planned, ?_⟩
  rw [reached]
  refine ⟨rfl, rfl, balance, by decide, taken, ?_, ?_⟩
  · exact (released (.take 2 [1, 0]) _ _ taken).2 right List.mem_cons_self
  · exact inOrder 2 [1, 0] _ _ rfl (by decide)

end Arena
end ImageryJobs
