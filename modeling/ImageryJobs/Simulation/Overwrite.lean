import ImageryJobs.Simulation.Step

/-!
Columns overwritten by hand, past the operations of the store. Keys and constraints hold as ever.
-/

namespace ImageryJobs.Simulation

namespace Cell

/-- A cell of a text column. -/
def text? : Cell → Option String
  | .null => none
  | .number value => some (toString value)
  | .text value => some value

/-- A cell of a column for numbers. -/
def numeric? : Cell → Option NumericCell
  | .null => none
  | .number value => some (.integer value)
  | .text value => some (.ofText value)

/-- Whether a cell of a column for times holds a time; no such column can be null. -/
def isTime? (cell : Cell) : Option Bool := cell.numeric?.map (·.isTime)

end Cell

/-- A row of a job after one column was overwritten. -/
def overwriteJob (row : JobRow) (column : String) (cell : Cell) : Option JobRow :=
  match column with
  | "user_id" => cell.text?.map fun userId => { row with userId }
  | "process_graph" => cell.text?.map fun processGraph => { row with processGraph }
  | "output" => some { row with output := cell.text? }
  | "status" => cell.text?.map fun status => { row with status }
  | "error" => some { row with error := cell.text? }
  | "created_at" => cell.isTime?.map fun hasCreationTime => { row with hasCreationTime }
  | "updated_at" => cell.isTime?.map fun hasChangeTime => { row with hasChangeTime }
  | _ => none

/-- A row of a task after one column was overwritten. -/
def overwriteTask (row : TaskRow) (column : String) (cell : Cell) : Option TaskRow :=
  match column with
  | "id" => cell.text?.map fun id => { row with id }
  | "job_id" => cell.text?.map fun jobId => { row with jobId }
  | "process_id" => cell.text?.map fun processId => { row with processId }
  | "seq_num" => cell.numeric?.map fun seqNum => { row with seqNum }
  | "status" => cell.text?.map fun status => { row with status }
  | "args" => cell.text?.map fun args => { row with args }
  | "depends_on" => cell.text?.map fun dependsOn => { row with dependsOn }
  | "error" => some { row with error := cell.text? }
  | "logs" => some { row with logs := cell.text? }
  | "metrics" => some { row with metrics := cell.text? }
  | "created_at" => cell.isTime?.map fun hasCreationTime => { row with hasCreationTime }
  | "updated_at" => cell.isTime?.map fun hasChangeTime => { row with hasChangeTime }
  | _ => none

/-- Overwrites a column of a job. An id may change if it is free and no task has it. -/
def overwriteJobs (s : Store) (row : JobRow) (column : String) (cell : Cell) :
    Except StoreError Store :=
  match column, cell.text? with
  | "id", some id =>
      if id = row.id then .ok s
      else if s.jobs.contains id || s.tasks.values.any (·.jobId = row.id) then
        .error (Store.refused "jobs.id")
      else .ok { s with jobs := (s.jobs.erase row.id).insert id { row with id } }
  | _, _ =>
      match overwriteJob row column cell with
      | some row => .ok { s with jobs := s.jobs.insert row.id row }
      | none => .error (.database s!"cannot overwrite {column}")

/-- Overwrites a column of a task. -/
def overwriteTasks (s : Store) (row : TaskRow) (column : String) (cell : Cell) :
    Except StoreError Store :=
  let others : Store := { s with tasks := s.tasks.erase row.id }
  match overwriteTask row column cell with
  | none => .error (.database s!"cannot overwrite {column}")
  | some row =>
      if others.tasks.contains row.id || others.hasNumber row.jobId row.seqNum ||
          !s.jobs.contains row.jobId then .error (Store.refused "tasks")
      else .ok { others with tasks := others.tasks.insert row.id row }

/-- The columns of a table. -/
def Table.columns : Table → List String
  | .jobs =>
      ["id", "user_id", "process_graph", "output", "status", "error", "created_at", "updated_at"]
  | .tasks =>
      ["id", "job_id", "process_id", "seq_num", "status", "args", "depends_on", "error", "logs",
       "metrics", "created_at", "updated_at"]

/-- Overwrites a column of the row with an id, and tells how many rows there were. The case of a
column's name does not count. -/
def overwrite (s : Store) (table : Table) (id name : String) (cell : Cell) :
    Except StoreError (Nat × Store) :=
  let column := String.ofList (name.toList.map Char.toLower)
  if !table.columns.contains column then .error (.database s!"no column {name}")
  else
    match table with
    | .jobs =>
        match s.jobs.get? id with
        | none => .ok (0, s)
        | some row => (overwriteJobs s row column cell).map fun s => (1, s)
    | .tasks =>
        match s.tasks.get? id with
        | none => .ok (0, s)
        | some row => (overwriteTasks s row column cell).map fun s => (1, s)

end ImageryJobs.Simulation
