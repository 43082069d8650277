import ImageryJobs.Proofs.Failing
import ImageryJobs.Proofs.Json.Numerals
import ImageryJobs.Store.Row
import Mathlib.Data.Option.Basic

/-!
When rows can be read, and as what. A row is read column by column, so that what it is read as is said
column by column, and an operation that writes a column leaves what the others say.
-/

namespace ImageryJobs

/-! ### Columns -/

namespace Json

theorem Schema.mapM_entries_any (depth : Nat) (members : List (Option String × Raw)) :
    (members.mapM fun m => do
      let key ← m.1
      let value ← any depth m.2
      return (key, value)) = Raw.membersToJson? depth members := by
  induction members with
  | nil => rfl
  | cons m members ih =>
      rw [List.mapM_cons, ih, Raw.membersToJson?]
      simp only [any, bind_assoc, pure_bind]

/-- A map is read where an object is. -/
theorem Schema.dict_any (depth : Nat) (tree : Raw) :
    dict any depth tree = (any depth tree).bind members? := by
  cases tree with
  | object members =>
      cases depth with
      | zero => rfl
      | succ depth =>
          rw [dict, mapM_entries_any, any, Raw.toJson?]
          cases Raw.membersToJson? depth members with
          | none => rfl
          | some entries => exact (members?_ofMembers _).symm
  | null | bool _ => cases depth <;> rfl
  | number value => cases depth <;> cases value <;> rfl
  | string text => cases depth <;> cases text <;> rfl
  | array items =>
      cases depth with
      | zero => rfl
      | succ depth =>
          rw [any, Raw.toJson?]
          cases Raw.itemsToJson? depth items <;> rfl

theorem read?_dict_any (text : String) :
    (Schema.dict .any).read? text = (read? text).bind members? := by
  rw [Schema.read?, read?, Option.bind_assoc]
  exact congrArg _ (funext (Schema.dict_any _))

/-- A value that is read back from its text: every number in it is, and it is nested less than 128
levels. -/
structure Storable (j : Json) : Prop where
  numbers : EveryNumber Number.Legible j
  ascending : Ascending j
  shallow : depth j < 128

theorem Storable.reads {j : Json} (h : j.Storable) : read? j.render = some j :=
  read?_render h.numbers h.ascending (Nat.le_of_lt_succ h.shallow)

theorem natBelow_ofNat {bound n : Nat} (hb : bound ≤ Number.significandMax) (hn : n < bound)
    (depth : Nat) : Schema.natBelow bound depth (Raw.ofNat n) = some n := by
  have hvalue : (Number.Literal.ofNat n).value? = some (.integer n) := by
    simp only [Number.Literal.value?, Number.Literal.ofNat, Number.Literal.natural_toDigits,
      Bool.false_eq_true, if_false]
    exact if_pos (Nat.le_trans (Nat.le_of_lt hn) hb)
  rw [Raw.ofNat, hvalue]
  simp only [Schema.natBelow]
  rw [if_pos (by omega), Int.toNat_natCast]

/-- A list of small numbers can be read from its text. -/
theorem read?_ofNats {bound : Nat} (hb : bound ≤ Number.significandMax) {ns : List Nat}
    (h : ∀ n ∈ ns, n < bound) :
    (Schema.list (.natBelow bound)).read? (ofList ns ofNat).render = some ns := by
  rw [Schema.read?, read?_render_ofNats]
  change (ns.map Raw.ofNat).mapM (Schema.natBelow bound _) = some ns
  induction ns with
  | nil => rfl
  | cons n ns ih =>
      obtain ⟨hn, h⟩ := List.forall_mem_cons.1 h
      rw [List.map_cons, List.mapM_cons, natBelow_ofNat hb hn, ih h]
      rfl

end Json

/-! ### Names of statuses -/

namespace JobStatus

theorem name_inj {s t : JobStatus} (h : s.name = t.name) : s = t := by
  cases s <;> cases t <;> first | rfl | simp [name] at h

theorem ofName?_eq_some {text : String} {st : JobStatus} : ofName? text = some st ↔ text = st.name := by
  constructor
  · intro h
    have : st.name = text := by simpa using List.find?_some h
    exact this.symm
  · rintro rfl
    cases st <;> decide

end JobStatus

theorem TaskStatus.ofName?_eq_some {text : String} {st : TaskStatus} :
    ofName? text = some st ↔ text = st.name := by
  constructor
  · intro h
    have : st.name = text := by simpa using List.find?_some h
    exact this.symm
  · rintro rfl
    cases st <;> decide

/-! ### Columns of a row -/

namespace Row

variable {α : Type} {id name : String} {s : Json.Schema α} {value : α}

theorem column_eq_ok {text : String} : column id name s text = .ok value ↔ s.read? text = some value := by
  unfold column
  cases s.read? text <;> simp

theorem optionalColumn_eq_ok {text : Option String} {value : Option α} :
    optionalColumn id name s text = .ok value ↔ text.map s.read? = value.map some := by
  cases text with
  | none => cases value <;> simp [optionalColumn]
  | some text =>
      rw [optionalColumn, map_eq_ok]
      simp only [column_eq_ok, Option.map_some]
      cases value <;> simp

theorem named_eq_ok {found : Option α} : named id name found = .ok value ↔ found = some value := by
  cases found <;> simp [named]

end Row

/-! ### Rows -/

namespace JobRow

/-- A row is read as a job, column by column. -/
structure Holds (row : JobRow) (job : Job) : Prop where
  regular : row.isRegular = true
  id : row.id = job.id
  userId : row.userId = job.userId
  processGraph : Json.read? row.processGraph = some job.processGraph
  output : row.output.map Json.read? = job.output.map some
  status : row.status = job.status.name
  error : row.error = job.error

theorem toJob_eq_ok {row : JobRow} {job : Job} : row.toJob = .ok job ↔ row.Holds job := by
  rw [toJob]
  cases regular : row.isRegular with
  | false => exact iff_of_false nofun fun h => by cases regular.symm.trans h.regular
  | true =>
      simp only [Bool.not_true, Bool.false_eq_true, if_false, bind_eq_ok, Row.named_eq_ok,
        Row.column_eq_ok, Row.optionalColumn_eq_ok, JobStatus.ofName?_eq_some]
      constructor
      · rintro ⟨graph, hgraph, output, houtput, status, hstatus, heq⟩
        cases heq
        exact ⟨regular, rfl, rfl, hgraph, houtput, hstatus, rfl⟩
      · rintro ⟨-, hid, huser, hgraph, houtput, hstatus, herror⟩
        refine ⟨_, hgraph, _, houtput, _, hstatus, ?_⟩
        rw [hid, huser, herror]
        rfl

/-- A job is read from its row if what it has in JSON can be read from its text. -/
theorem holds_ofJob {job : Job} (graph : Json.read? job.processGraph.render = some job.processGraph)
    (output : ∀ o, job.output = some o → Json.read? o.render = some o) : (ofJob job).Holds job where
  regular := rfl
  id := rfl
  userId := rfl
  processGraph := graph
  output := by
    cases ho : job.output with
    | none => simp [ofJob, ho]
    | some o => simp [ofJob, ho, output o ho]
  status := rfl
  error := rfl

end JobRow

namespace TaskRow

/-- A row is read as a task, column by column. -/
structure Holds (row : TaskRow) (t : Task) : Prop where
  id : row.id = t.id
  jobId : row.jobId = t.jobId
  processId : row.processId = t.processId
  seqNum : row.seqNum? = some t.seqNum
  status : row.status = t.status.name
  args : (Json.Schema.dict .any).read? row.args = some t.args
  dependsOn : (Json.Schema.list (.natBelow TaskSpec.seqLimit)).read? row.dependsOn = some t.dependsOn
  error : row.error = t.error
  logs : row.logs = t.logs
  metrics : row.metrics.map Json.read? = t.metrics.map some

variable {row : TaskRow} {task : Task}

theorem toTask_eq_ok : row.toTask = .ok task ↔ row.Holds task := by
  simp only [toTask, bind_eq_ok, Row.named_eq_ok, Row.column_eq_ok, Row.optionalColumn_eq_ok,
    TaskStatus.ofName?_eq_some]
  constructor
  · rintro ⟨seqNum, hnum, status, hstatus, args, hargs, dependsOn, hdeps, metrics, hmetrics, heq⟩
    cases heq
    exact ⟨rfl, rfl, rfl, hnum, hstatus, hargs, hdeps, rfl, rfl, hmetrics⟩
  · rintro ⟨hid, hjob, hproc, hnum, hstatus, hargs, hdeps, herror, hlogs, hmetrics⟩
    refine ⟨_, hnum, _, hstatus, _, hargs, _, hdeps, _, hmetrics, ?_⟩
    rw [hid, hjob, hproc, herror, hlogs]
    rfl

theorem integer?_of_seqNum? {n : Nat} (h : row.seqNum? = some n) : row.seqNum = .integer n := by
  obtain ⟨value, hvalue, hn⟩ := Option.bind_eq_some_iff.1 h
  split at hn
  · rename_i hbound
    obtain rfl := Option.some.inj hn
    rw [Int.toNat_of_nonneg hbound.1]
    cases hcell : row.seqNum <;> rw [hcell] at hvalue <;> cases hvalue
    rfl
  · cases hn

end TaskRow

end ImageryJobs
