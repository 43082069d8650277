import ImageryJobs.Dict

/-!
Hand-over of task outputs. Every task writes one volume, which at most one later task reads. The
arena holds a volume between the two, under the number of its producer; the plan says who reads
what, and is checked when it is made and again when volumes are taken.
-/

namespace ImageryJobs

/-- Why volumes cannot be handed over. -/
inductive VolumeError where
  | duplicateTask (seqNum : Nat)
  /-- A task reads from a task that does not exist. -/
  | unknownProducer (consumer producer : Nat)
  /-- A task reads from a task that does not run before it. -/
  | outOfOrder (consumer producer : Nat)
  /-- Two tasks read one volume. -/
  | sharedOutput (producer first second : Nat)
  /-- A task asks for a volume that is planned for another. -/
  | wrongConsumer (consumer producer : Nat)
  /-- The arena does not hold the volume. -/
  | missing (producer : Nat)
  | alreadyRegistered (producer : Nat)
  deriving DecidableEq

namespace VolumeError

def message : VolumeError → String
  | .duplicateTask seqNum => s!"Duplicate task sequence number {seqNum}"
  | .unknownProducer consumer producer =>
      s!"Task {consumer} depends on unknown task {producer}"
  | .outOfOrder consumer producer =>
      s!"Task {consumer} depends on task {producer}, which does not run before it"
  | .sharedOutput producer first second =>
      s!"Output of task {producer} is read by both task {first} and task {second}"
  | .wrongConsumer consumer producer =>
      s!"Task {consumer} may not take the output of task {producer}"
  | .missing producer => s!"Output of task {producer} is not available"
  | .alreadyRegistered producer => s!"Output of task {producer} is already registered"

end VolumeError

/-- The output volume of a task. -/
structure HeldVolume (ρ : Type) where
  /-- The number of the task that writes it. -/
  producer : Nat
  /-- Where writer and reader mount it. -/
  mountPath : String
  resource : ρ
  deriving DecidableEq

/-- The place of one task's output. -/
structure Slot (ρ : Type) where
  /-- The task that will read the output. -/
  consumer : Option Nat
  volume : Option (HeldVolume ρ)
  deriving DecidableEq

/-- Volumes between their producers and their consumers. -/
structure Arena (ρ : Type) where
  slots : Dict Nat (Slot ρ)
  deriving DecidableEq

namespace Arena

variable {ρ : Type}

/-- Slots for tasks with different numbers. -/
def reserve (seqNums : List Nat) : Except VolumeError (Dict Nat (Slot ρ)) :=
  seqNums.foldlM (fun slots n =>
    if slots.contains n then .error (.duplicateTask n)
    else .ok (slots.insert n ⟨none, none⟩)) ∅

/-- Plans that a task reads the output of another. -/
def assign (slots : Dict Nat (Slot ρ)) (consumer producer : Nat) :
    Except VolumeError (Dict Nat (Slot ρ)) :=
  if consumer ≤ producer then .error (.outOfOrder consumer producer)
  else match slots.get? producer with
    | none => .error (.unknownProducer consumer producer)
    | some slot =>
        match slot.consumer with
        | some first => .error (.sharedOutput producer first consumer)
        | none => .ok (slots.insert producer { slot with consumer := some consumer })

/-- Plans the hand-over for tasks given by their numbers and what they read. -/
def plan (tasks : List (Nat × List Nat)) : Except VolumeError (Arena ρ) := do
  let slots ← reserve (tasks.map Prod.fst)
  let slots ← tasks.foldlM (fun slots t => t.2.foldlM (fun slots p => assign slots t.1 p) slots)
    slots
  return ⟨slots⟩

/-- The task that will read a task's output. -/
def consumerOf (a : Arena ρ) (producer : Nat) : Option Nat :=
  (a.slots.get? producer).bind (·.consumer)

/-- Puts a volume into its slot. -/
def register (a : Arena ρ) (v : HeldVolume ρ) : Except VolumeError (Arena ρ) :=
  match a.slots.get? v.producer with
  | none => .error (.missing v.producer)
  | some slot =>
      if slot.volume.isSome then .error (.alreadyRegistered v.producer)
      else .ok ⟨a.slots.insert v.producer { slot with volume := some v }⟩

/-- Whether a task may take the output of another now. -/
def checkTake (a : Arena ρ) (consumer producer : Nat) : Except VolumeError Unit :=
  match a.slots.get? producer with
  | none => .error (.unknownProducer consumer producer)
  | some slot =>
      if slot.consumer ≠ some consumer then .error (.wrongConsumer consumer producer)
      else if slot.volume.isNone then .error (.missing producer)
      else .ok ()

/-- Takes a volume out of its slot, if it is there. -/
def remove (a : Arena ρ) (producer : Nat) : Option (HeldVolume ρ) × Arena ρ :=
  match a.slots.get? producer with
  | none => (none, a)
  | some slot => (slot.volume, ⟨a.slots.insert producer { slot with volume := none }⟩)

/-- Takes volumes out one after the other. -/
def removeAll (a : Arena ρ) : List Nat → List (HeldVolume ρ) × Arena ρ
  | [] => ([], a)
  | p :: ps =>
      let (v, a) := a.remove p
      let (vs, a) := a.removeAll ps
      (v.toList ++ vs, a)

/-- Takes the outputs of several tasks for a reader: all of them, or none and an error. -/
def take (a : Arena ρ) (consumer : Nat) (producers : List Nat) :
    Except VolumeError (List (HeldVolume ρ) × Arena ρ) := do
  producers.forM (a.checkTake consumer)
  return a.removeAll producers

/-- The volumes held, by their producers. -/
def volumes (a : Arena ρ) : List (HeldVolume ρ) := a.slots.values.filterMap (·.volume)

/-- The number of volumes held. -/
def held (a : Arena ρ) : Nat := a.volumes.length

/-- Takes every volume out. -/
def drain (a : Arena ρ) : List (HeldVolume ρ) × Arena ρ :=
  (a.volumes, ⟨a.slots.map fun _ slot => { slot with volume := none }⟩)

end Arena

/-- The name of the cause. -/
def VolumeError.kind : VolumeError → String
  | .duplicateTask _ => "DuplicateTask"
  | .unknownProducer .. => "UnknownProducer"
  | .outOfOrder .. => "OutOfOrder"
  | .sharedOutput .. => "SharedOutput"
  | .wrongConsumer .. => "WrongConsumer"
  | .missing _ => "Missing"
  | .alreadyRegistered _ => "AlreadyRegistered"

end ImageryJobs
