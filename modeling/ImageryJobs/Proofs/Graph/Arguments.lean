import ImageryJobs.Graph.Validation
import ImageryJobs.Proofs.Graph.Declarations

/-!
What is wrong with the arguments of a process, one at a time. An argument has at most one fault: it is
missing, or it is there and has another type, or it is a text of the right type that does not match its
pattern. The arguments are accepted just if none of them has a fault; otherwise the fault of the first by
name is reported. Arguments that are not declared do not matter.
-/

namespace ImageryJobs

/-! ### Types and patterns -/

/-- A value has a type. An input is a node, or several in an array. -/
inductive ArgumentType.Has : ArgumentType → Json → Prop where
  | dict (members : List (String × Json)) : Has .dict (.object members)
  | array (items : List Json) : Has .array (.array items)
  | number (n : Json.Number) : Has .number (.number n)
  | string (text : String) : Has .string (.string text)
  | node (members : List (String × Json)) : Has .imagery (.object members)
  | nodes {items : List Json} (some : items ≠ [])
      (objects : ∀ item ∈ items, ∃ members, item = .object members) : Has .imagery (.array items)

theorem Json.isObject_iff {value : Json} :
    value.isObject = true ↔ ∃ members, value = .object members := by
  cases value <;> simp [isObject]

theorem ArgumentType.accepts_iff {type : ArgumentType} {value : Json} :
    type.accepts value = true ↔ type.Has value := by
  constructor
  · intro h
    unfold accepts at h
    split at h
    · exact .dict _
    · exact .array _
    · exact .number _
    · exact .string _
    · exact .node _
    · rw [Bool.and_eq_true, List.all_eq_true] at h
      exact .nodes (by simpa using h.1) fun item hitem => Json.isObject_iff.1 (h.2 item hitem)
    · cases h
  · intro h
    cases h with
    | nodes some objects =>
        rw [accepts, Bool.and_eq_true, List.all_eq_true]
        exact ⟨by simpa using some, fun item hitem => Json.isObject_iff.2 (objects item hitem)⟩
    | _ => rfl

/-- A text matches a pattern that is given as a text. -/
def Pattern.Matches (source text : String) : Prop :=
  ∃ pattern, Pattern.read? source = some pattern ∧ pattern.occursIn text = true

namespace ProcessSpec

variable {spec : ProcessSpec} {path : String} {args args' : Members} {name : String} {e : GraphError}

/-- What is wrong with one argument. A type is looked at only of an argument that is there, a pattern
only of one that has its type. -/
inductive Flaw (spec : ProcessSpec) (path : String) (args : Members) (name : String) :
    GraphError → Prop where
  | missing {parameter : Parameter} (declared : spec.parameters.get? name = some parameter)
      (required : parameter.required = true) (absent : args.get? name = none) :
      Flaw spec path args name (.missingArgument path spec.processId name)
  | mistyped {parameter : Parameter} {value : Json}
      (declared : spec.parameters.get? name = some parameter) (given : args.get? name = some value)
      (other : ¬ parameter.type.Has value) : Flaw spec path args name
        (.invalidArgumentType path spec.processId name parameter.type value.typeName)
  | mismatched {parameter : Parameter} {source text : String}
      (declared : spec.parameters.get? name = some parameter)
      (given : args.get? name = some (.string text)) (typed : parameter.type.Has (.string text))
      (written : parameter.pattern = some source) (other : ¬ Pattern.Matches source text) :
      Flaw spec path args name (.patternMismatch path spec.processId name source)

/-- All declared arguments are as declared. -/
structure Fulfilled (spec : ProcessSpec) (args : Members) : Prop where
  present : ∀ name parameter, spec.parameters.get? name = some parameter →
    parameter.required = true → ∃ value, args.get? name = some value
  typed : ∀ name parameter value, spec.parameters.get? name = some parameter →
    args.get? name = some value → parameter.type.Has value
  matched : ∀ name parameter source text, spec.parameters.get? name = some parameter →
    parameter.pattern = some source → args.get? name = some (.string text) →
    Pattern.Matches source text

theorem Flaw.declared (h : spec.Flaw path args name e) :
    ∃ parameter, spec.parameters.get? name = some parameter := by
  cases h with
  | missing declared | mistyped declared | mismatched declared => exact ⟨_, declared⟩

/-- Arguments are as declared just if none has a fault, wherever the node stands. -/
theorem fulfilled_iff (path : String) :
    spec.Fulfilled args ↔ ∀ name e, ¬ spec.Flaw path args name e := by
  constructor
  · intro h name e flaw
    cases flaw with
    | missing declared required absent =>
        obtain ⟨value, given⟩ := h.present _ _ declared required
        cases absent.symm.trans given
    | mistyped declared given other => exact other (h.typed _ _ _ declared given)
    | mismatched declared given _ written other => exact other (h.matched _ _ _ _ declared written given)
  · intro none
    have typed {name : String} {parameter : Parameter} {value : Json}
        (declared : spec.parameters.get? name = some parameter)
        (given : args.get? name = some value) : parameter.type.Has value :=
      Classical.byContradiction fun other => none _ _ (.mistyped declared given other)
    refine ⟨fun name parameter declared required => ?_, fun _ _ _ => typed, ?_⟩
    · cases given : args.get? name with
      | none => exact absurd (.missing declared required given) (none _ _)
      | some value => exact ⟨value, rfl⟩
    · intro name parameter source text declared written given
      refine Classical.byContradiction fun other => ?_
      exact none _ _ (.mismatched declared given (typed declared given) written other)

end ProcessSpec

namespace Process

variable {p : Process} {path : String} {args args' : Members} {name : String} {e : GraphError}

/-- The check of one argument finds its fault. -/
theorem checkArgument_eq_error_iff (declared : ofSpec p.spec = .ok p) {parameter : Parameter}
    (hget : p.spec.parameters.get? name = some parameter) :
    p.checkArgument path args name parameter = .error e ↔ p.spec.Flaw path args name e := by
  have hpattern : p.pattern? name = parameter.read? := by
    rw [pattern?_of_ofSpec declared, hget, Option.bind_some]
  constructor
  · intro h
    unfold checkArgument at h
    split at h
    · rename_i absent
      split at h
      · cases h
        exact .missing hget ‹_› absent
      · cases h
    · rename_i value given
      have typed : parameter.type.accepts value = true ↔ parameter.type.Has value :=
        ArgumentType.accepts_iff
      split at h
      · rename_i other
        cases h
        exact .mistyped hget given (by rw [← typed]; simpa using other)
      · rename_i accepted
        split at h
        · rename_i pattern text _ found
          split at h
          · cases h
          · rename_i other
            cases h
            rw [hpattern] at found
            obtain ⟨source, written, read⟩ := Option.bind_eq_some_iff.1 found
            rw [written]
            refine .mismatched hget given (typed.1 (by simpa using accepted)) written ?_
            rintro ⟨pattern', read', occurs⟩
            cases read.symm.trans read'
            exact other occurs
        · cases h
  · intro flaw
    cases flaw with
    | missing declared' required absent =>
        cases hget.symm.trans declared'
        simp [checkArgument, absent, required]
    | mistyped declared' given other =>
        cases hget.symm.trans declared'
        rw [← ArgumentType.accepts_iff] at other
        simp [checkArgument, given, other]
    | @mismatched _ source text declared' given typed written other =>
        cases hget.symm.trans declared'
        obtain ⟨pattern, read⟩ := read_of_ofSpec declared hget written
        have found : p.pattern? name = some pattern := by
          rw [hpattern, Parameter.read?, written, Option.bind_some, read]
        have unmatched : ¬ pattern.occursIn text = true := fun occurs => other ⟨pattern, read, occurs⟩
        rw [← ArgumentType.accepts_iff] at typed
        simp [checkArgument, given, typed, found, unmatched, written]

/-- The fault of the first argument with one is found. -/
theorem validate_eq_error_iff (declared : ofSpec p.spec = .ok p) :
    p.validate path args = .error e ↔ ∃ name, p.spec.Flaw path args name e ∧
      ∀ other e', p.spec.Flaw path args other e' → name ≤ other := by
  have check {name : String} {parameter : Parameter} {e : GraphError}
      (hm : (name, parameter) ∈ p.spec.parameters.entries) :
      p.checkArgument path args name parameter = .error e ↔ p.spec.Flaw path args name e :=
    checkArgument_eq_error_iff declared (Dict.get?_eq_some_iff.2 hm)
  rw [validate, forM_eq_error]
  constructor
  · rintro ⟨before, ⟨name, parameter⟩, after, hentries, clean, fails⟩
    have ascending := p.spec.parameters.ascending
    rw [hentries] at ascending check
    refine ⟨name, (check (by simp)).1 fails, fun other e' flaw => ?_⟩
    obtain ⟨parameter', hother⟩ := flaw.declared
    have hm := Dict.get?_eq_some_iff.1 hother
    rw [hentries] at hm
    obtain hbefore | hafter := List.mem_append.1 hm
    · cases (clean _ hbefore).symm.trans ((check hm).2 flaw)
    · obtain heq | hafter := List.mem_cons.1 hafter
      · cases heq
        exact Std.le_refl _
      · have := List.pairwise_append.1 ascending
        exact Std.le_of_lt ((List.pairwise_cons.1 this.2.1).1 _ hafter)
  · rintro ⟨name, flaw, first⟩
    obtain ⟨parameter, hget⟩ := flaw.declared
    obtain ⟨before, after, hentries⟩ := List.append_of_mem (Dict.get?_eq_some_iff.1 hget)
    have ascending := p.spec.parameters.ascending
    rw [hentries] at ascending check
    refine ⟨before, _, after, hentries, fun x hx => ?_, (check (by simp)).2 flaw⟩
    cases hcheck : p.checkArgument path args x.1 x.2 with
    | ok => exact hcheck
    | error e' =>
        have flaw' := (check (List.mem_append_left _ hx)).1 hcheck
        have lt := (List.pairwise_append.1 ascending).2.2 x hx _ List.mem_cons_self
        exact absurd (first _ _ flaw') (Std.not_le.2 lt)

theorem validate_eq_ok_iff (declared : ofSpec p.spec = .ok p) :
    p.validate path args = .ok () ↔ p.spec.Fulfilled args := by
  rw [ProcessSpec.fulfilled_iff path, validate, forM_eq_ok]
  constructor
  · intro accepted name e flaw
    obtain ⟨parameter, hget⟩ := flaw.declared
    have fails := (checkArgument_eq_error_iff declared hget).2 flaw
    cases (accepted _ (Dict.get?_eq_some_iff.1 hget)).symm.trans fails
  · intro clean x hx
    have hget := Dict.get?_eq_some_iff.2 hx
    cases hcheck : p.checkArgument path args x.1 x.2 with
    | ok => exact hcheck
    | error e => exact absurd ((checkArgument_eq_error_iff declared hget).1 hcheck) (clean _ _)

/-- Only declared arguments are looked at. -/
theorem validate_congr
    (same : ∀ name, (p.spec.parameters.get? name).isSome = true → args'.get? name = args.get? name) :
    p.validate path args' = p.validate path args := by
  refine forM_congr fun x hx => ?_
  have hget := Dict.get?_eq_some_iff.2 hx
  have given := same x.1 (by rw [hget]; rfl)
  simp only [checkArgument, given]

/-- A registered process accepts arguments just if all that are declared are as declared. If it does
not, the error is the fault of the first argument, by name, that has one. Arguments that are not declared
make no difference. -/
theorem validate_first_flaw {specs : List ProcessSpec} {processes : Dict String Process} {id : String}
    (built : Registries.processesOf specs = .ok processes) (registered : processes.get? id = some p)
    (path : String) (args : Members) :
    (p.validate path args = .ok () ↔ p.spec.Fulfilled args) ∧
    (∀ e, p.validate path args = .error e ↔ ∃ name, p.spec.Flaw path args name e ∧
      ∀ other e', p.spec.Flaw path args other e' → name ≤ other) ∧
    ∀ args' : Members, (∀ name, (p.spec.parameters.get? name).isSome = true →
      args'.get? name = args.get? name) → p.validate path args' = p.validate path args := by
  have declared := (Registries.declared_of_processesOf built id p registered).2
  exact ⟨validate_eq_ok_iff declared, fun _ => validate_eq_error_iff declared,
    fun _ same => validate_congr same⟩

/-- Of a text that does not match and a number that is missing the text is reported, since its name comes
first. -/
theorem validate_first_flaw_sample :
    let spec : ProcessSpec := ⟨"crop", .operation, "", Dict.ofList
      [("band", .ofType .string true (some "^b+$")), ("size", .ofType .number true)]⟩
    let args : Members := Dict.ofList [("band", .string "x"), ("zoom", .null)]
    let e : GraphError := .patternMismatch "process_graph" "crop" "band" "^b+$"
    ∃ processes p, Registries.processesOf [spec] = .ok processes ∧ processes.get? "crop" = some p ∧
      p.validate "process_graph" args = .error e ∧
      p.validate "process_graph" (args.erase "zoom") = .error e := by
  intro spec args e
  have ok : (ofSpec spec).isOk = true := by decide +kernel
  cases hp : ofSpec spec with
  | error name => rw [hp] at ok; cases ok
  | ok p =>
      have built : Registries.processesOf [spec] = .ok ((∅ : Dict String Process).insert "crop" p) := by
        simp only [Registries.processesOf, List.foldlM_cons, hp]
        rfl
      have registered : ((∅ : Dict String Process).insert "crop" p).get? "crop" = some p := by simp
      obtain ⟨-, fails, undeclared⟩ := validate_first_flaw built registered "process_graph" args
      have hspec : p.spec = spec := spec_of_ofSpec hp
      rw [hspec] at fails undeclared
      have unmatched : ¬ Pattern.Matches "^b+$" "x" := by
        have found : ((Pattern.read? "^b+$").map (·.occursIn "x")) = some false := by decide +kernel
        rintro ⟨pattern, read, occurs⟩
        rw [read, Option.map_some, occurs] at found
        cases found
      have flaw : spec.Flaw "process_graph" args "band" e :=
        .mismatched (by rfl) (by rfl) (.string _) rfl unmatched
      have names {name : String} (declared : (spec.parameters.get? name).isSome = true) :
          name = "band" ∨ name = "size" := by
        have keys : spec.parameters.keys = ["band", "size"] := by decide +kernel
        simpa [keys] using Dict.mem_keys.2 declared
      have failed : p.validate "process_graph" args = .error e := by
        refine (fails e).2 ⟨"band", flaw, fun other e' flaw' => ?_⟩
        obtain ⟨parameter, declared⟩ := flaw'.declared
        obtain rfl | rfl := names (by rw [declared]; rfl) <;> decide +kernel
      refine ⟨_, p, built, registered, failed, (undeclared _ fun name declared => ?_).trans failed⟩
      obtain rfl | rfl := names declared <;> rw [Dict.get?_erase] <;> rfl

end Process
end ImageryJobs
