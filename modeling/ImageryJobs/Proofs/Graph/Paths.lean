import ImageryJobs.Graph.Node
import Mathlib.Data.List.Basic

/-!
Paths in process graphs: where they lead, which of two places comes first, and that the text of a path
says which path it is.
-/

namespace ImageryJobs

/-! ### Places -/

/-- Where a step leads from a value. -/
def GraphStep.follow : GraphStep → Json → Option Json
  | .imagery, j => (j.get? Node.argsKey).bind (·.get? Node.imageryKey)
  | .item index, j => j.items?.bind (·[index]?)

/-- Where a path leads from a value. -/
def GraphPath.follow : GraphPath → Json → Option Json
  | [], j => some j
  | step :: path, j => (step.follow j).bind (follow path)

theorem GraphPath.follow_append (path path' : GraphPath) (j : Json) :
    follow (path ++ path') j = (path.follow j).bind path'.follow := by
  induction path generalizing j with
  | nil => rfl
  | cons step path ih =>
      rw [List.cons_append, follow, follow, Option.bind_assoc]
      exact congrArg _ (funext ih)

/-- An input of an operation comes before another. -/
inductive GraphStep.Before : GraphStep → GraphStep → Prop where
  | item {i j : Nat} (lt : i < j) : Before (.item i) (.item j)

namespace GraphPath

/-- A place comes before those below it, and before those below a later input. -/
def Before : GraphPath → GraphPath → Prop := List.Lex GraphStep.Before

variable {path path' : GraphPath}

theorem eq_nil_or_nil_before (path : GraphPath) : path = [] ∨ Before [] path := by
  cases path with
  | nil => exact .inl rfl
  | cons step path => exact .inr .nil

theorem append_before {steps : GraphPath} (h : path.Before path') :
    (steps ++ path).Before (steps ++ path') := by
  induction steps with
  | nil => exact h
  | cons step steps ih => exact .cons ih

theorem not_before_self : ¬ path.Before path := by
  induction path with
  | nil => nofun
  | cons step path ih =>
      intro h
      cases h with
      | rel lt =>
          cases lt
          exact absurd ‹_› (Nat.lt_irrefl _)
      | cons rest => exact ih rest

theorem lt_of_before {i j : Nat} (h : Before [.imagery, .item i] [.imagery, .item j]) : i < j := by
  cases h with
  | rel lt => cases lt
  | cons rest =>
      cases rest with
      | rel lt =>
          cases lt
          assumption
      | cons none => cases none

/-! ### Texts -/

/-- The characters of a step. -/
def stepChars (step : GraphStep) : List Char := (stepText step).toList

theorem stepChars_item (index : Nat) :
    stepChars (.item index) = '[' :: (Nat.toDigits 10 index ++ [']']) := by
  simp [stepChars, stepText, toString, Nat.repr]

theorem toList_text (path : GraphPath) :
    path.text.toList = "process_graph".toList ++ path.flatMap stepChars := by
  have build (start : String) : (path.foldl (fun s step => s ++ stepText step) start).toList =
      start.toList ++ path.flatMap stepChars := by
    induction path generalizing start with
    | nil => simp
    | cons step path ih => simp [ih, stepChars]
  exact build _

theorem toDigits_inj {i j : Nat} (h : Nat.toDigits 10 i = Nat.toDigits 10 j) : i = j := by
  rw [← Nat.ofDigitChars_ten_toDigits (n := i), h, Nat.ofDigitChars_ten_toDigits]

/-- The digits of an index end where the bracket is. -/
theorem takeWhile_digits (index : Nat) (rest : List Char) :
    (Nat.toDigits 10 index ++ ']' :: rest).takeWhile Char.isDigit = Nat.toDigits 10 index := by
  rw [List.takeWhile_append_of_pos fun c hc =>
    Nat.isDigit_of_mem_toDigits (by decide) (by decide) hc, List.takeWhile_cons_of_neg (by decide),
    List.append_nil]

/-- The first character of a step tells its kind, and a bracket ends an index. -/
theorem flatMap_stepChars_inj (h : path.flatMap stepChars = path'.flatMap stepChars) : path = path' := by
  induction path generalizing path' with
  | nil =>
      cases path' with
      | nil => rfl
      | cons step path' => cases step <;> simp [stepChars, stepText] at h
  | cons step path ih =>
      cases path' with
      | nil => cases step <;> simp [stepChars, stepText] at h
      | cons step' path' =>
          rw [List.flatMap_cons, List.flatMap_cons] at h
          cases step with
          | imagery =>
              cases step' with
              | imagery => rw [ih (List.append_cancel_left h)]
              | item j => simp [stepChars, stepText] at h
          | item i =>
              cases step' with
              | imagery => simp [stepChars, stepText] at h
              | item j =>
                  simp only [stepChars_item, List.cons_append, List.append_assoc, List.nil_append,
                    List.cons.injEq, true_and] at h
                  have digits := congrArg (List.takeWhile Char.isDigit) h
                  rw [takeWhile_digits, takeWhile_digits] at digits
                  obtain rfl := toDigits_inj digits
                  rw [ih (List.cons.inj (List.append_cancel_left h)).2]

/-- A text is the text of one path only. -/
theorem text_inj (h : path.text = path'.text) : path = path' := by
  have chars := congrArg String.toList h
  rw [toList_text, toList_text] at chars
  exact flatMap_stepChars_inj (List.append_cancel_left chars)

end GraphPath
end ImageryJobs
