import ImageryJobs.Proofs.Cluster.Labels
import ImageryJobs.Proofs.Cluster.Names
import ImageryJobs.Proofs.Text.Percent
import ImageryJobs.Simulation.Cluster
import Mathlib.Data.List.TakeWhile

/-!
What the paths of requests name. Names of objects are labels, which have none of the characters that
divide paths, so a path names just what it was made for; under a namespace with a question mark no
path names anything.
-/

namespace ImageryJobs

open Text (after? before? splitAt?)

namespace Text

theorem splitAt?_of_notMem {c : Char} {cs : List Char} (h : c ∉ cs) : splitAt? c cs = none := by
  have all : cs.dropWhile (· ≠ c) = [] :=
    List.dropWhile_eq_nil_iff.2 fun x hx => decide_eq_true fun heq => h (heq ▸ hx)
  rw [splitAt?, all]

theorem splitAt?_append {c : Char} {front : List Char} (h : c ∉ front) (cs : List Char) :
    splitAt? c (front ++ cs) = (splitAt? c cs).map fun p => (front ++ p.1, p.2) := by
  have all : ∀ x ∈ front, decide (x ≠ c) = true :=
    fun x hx => decide_eq_true fun heq => h (heq ▸ hx)
  rw [splitAt?, splitAt?, List.dropWhile_append_of_pos all, List.takeWhile_append_of_pos all]
  split <;> rfl

@[simp] theorem splitAt?_cons (c : Char) (rest : List Char) :
    splitAt? c (c :: rest) = some ([], rest) := by
  simp [splitAt?]

theorem splitAt?_append_cons {c : Char} {front : List Char} (h : c ∉ front) (rest : List Char) :
    splitAt? c (front ++ c :: rest) = some (front, rest) := by
  rw [splitAt?_append h, splitAt?_cons, Option.map_some, List.append_nil]

theorem notMem_of_splitAt? {c : Char} {cs before after : List Char}
    (h : splitAt? c cs = some (before, after)) : c ∉ before := by
  rw [splitAt?] at h
  split at h
  · cases h
  · cases h
    intro hc
    have other := List.mem_takeWhile_imp hc
    simp at other

theorem mem_of_splitAt?_none {c : Char} {cs : List Char} (h : splitAt? c cs = none) : c ∉ cs := by
  rw [splitAt?] at h
  split at h
  · rename_i all
    exact fun hc => of_decide_eq_true (List.dropWhile_eq_nil_iff.1 all c hc) rfl
  · cases h

@[simp] theorem after?_append (start : String) (rest : List Char) :
    after? start (start.toList ++ rest) = some rest := by
  simp [after?]

theorem after?_eq_none {start : String} {cs : List Char} (h : ¬ start.toList <+: cs) :
    after? start cs = none := by
  rw [after?, if_neg]
  rwa [List.isPrefixOf_iff_prefix]

@[simp] theorem before?_append (front : List Char) (ending : String) :
    before? ending (front ++ ending.toList) = some front := by
  simp [before?]

theorem before?_eq_none {ending : String} {cs : List Char} (h : ¬ ending.toList <:+ cs) :
    before? ending cs = none := by
  rw [before?, if_neg]
  rwa [List.isSuffixOf_iff_suffix]

end Text

/-! ### Labels -/

/-- A text of letters, digits and dashes. -/
def IsLabel (name : String) : Prop := ∀ c ∈ name.toList, isLabelChar c = true ∨ c = '-'

theorem IsLabel.notMem {name : String} (h : IsLabel name) {c : Char} (hc : isLabelChar c = false)
    (hdash : c ≠ '-') : c ∉ name.toList := by
  intro hm
  obtain hl | hd := h c hm
  · cases hc.symm.trans hl
  · exact hdash hd

theorem isLabel_sanitizeName (raw : String) : IsLabel (sanitizeName raw) :=
  fun _ hc => (isDnsChar_of_mem_sanitizeName hc).isLabelChar_or_dash

theorem isLabel_objectName (kind : ResourceKind) (jobId taskId : String) :
    IsLabel (objectName kind jobId taskId) := by
  have tag : kind.tag.toList.all isLabelChar = true := by cases kind <;> decide
  have digit : ∀ n : Fin 16, isLabelChar (Json.hexDigit n) = true := by decide
  have hash : ∀ text, ∀ c ∈ (shortHash text).toList, isLabelChar c = true := by
    intro text c hc
    rw [shortHash, String.toList_ofList, List.mem_flatMap] at hc
    obtain ⟨b, -, hc⟩ := hc
    have hlt : b.toNat < 256 := b.toNat_lt
    simp only [List.mem_cons, List.not_mem_nil, or_false] at hc
    obtain rfl | rfl := hc
    · exact digit ⟨b.toNat / 16, by omega⟩
    · exact digit ⟨b.toNat % 16, Nat.mod_lt _ (by decide)⟩
  intro c hc
  simp only [objectName, String.toList_append, List.mem_append] at hc
  obtain (hc | hc) | hc := hc
  · exact .inl (List.all_eq_true.1 tag c hc)
  · simp at hc
    exact .inr hc
  · exact .inl (hash _ c hc)

theorem objectName_ne_empty (kind : ResourceKind) (jobId taskId : String) :
    objectName kind jobId taskId ≠ "" := by
  intro h
  have dash : '-' ∈ (objectName kind jobId taskId).toList := by
    simp [objectName, String.toList_append]
  rw [h] at dash
  cases dash

namespace Simulation.Route

/-! ### Routes -/

variable {ns : String}

/-- What a path without query names, with the selector that its query had. -/
def resolve (ns : String) (path : List Char) (selector : Option (String × String)) : Route :=
  if path = (podsPath ns).toList then .pods selector
  else match after? (podsPath ns ++ "/") path with
    | some rest =>
        match before? "/log" rest with
        | some name => .podLog (String.ofList name)
        | none => .pod (String.ofList rest)
    | none => (ResourceKind.all.findSome? fun kind => within kind ns path selector).getD .unknown

theorem ofPath_eq (ns path : String) : ofPath ns path =
    match splitAt? '?' path.toList with
    | some (path, query) => resolve ns path (selectorOf query)
    | none => resolve ns path.toList none := by
  unfold ofPath resolve
  cases splitAt? '?' path.toList <;> rfl

theorem ofPath_of_notMem {path : String} (h : '?' ∉ path.toList) :
    ofPath ns path = resolve ns path.toList none := by
  rw [ofPath_eq, Text.splitAt?_of_notMem h]

/-- Under a namespace with a question mark no path names anything. -/
theorem ofPath_of_mem (h : '?' ∈ ns.toList) (path : String) : ofPath ns path = .unknown := by
  have pods : '?' ∈ (podsPath ns).toList := by
    change '?' ∈ ("/api/v1/namespaces/" ++ ns ++ "/pods").toList
    simp only [String.toList_append, List.mem_append]
    exact .inl (.inr h)
  have collection (kind : ResourceKind) : '?' ∈ (kind.collectionPath ns).toList := by
    rw [ResourceKind.collectionPath]
    simp only [String.toList_append, List.mem_append]
    exact .inl (.inl (.inr h))
  have unnamed (path : List Char) (selector : Option (String × String)) (hp : '?' ∉ path) :
      resolve ns path selector = .unknown := by
    have other {start : String} (hs : '?' ∈ start.toList) : path ≠ start.toList := by
      intro heq
      exact hp (heq.symm ▸ hs)
    have after {start : String} (hs : '?' ∈ start.toList) : after? (start ++ "/") path = none := by
      refine Text.after?_eq_none fun prefixed => hp (prefixed.subset ?_)
      rw [String.toList_append]
      exact List.mem_append_left _ hs
    have none_within : ∀ kind ∈ ResourceKind.all, within kind ns path selector = none := by
      intro kind _
      rw [within, if_neg (other (collection kind)), after (collection kind)]
    rw [resolve, if_neg (other pods), after pods, List.findSome?_eq_none_iff.2 none_within]
    rfl
  rw [ofPath_eq]
  split
  · exact unnamed _ _ (Text.notMem_of_splitAt? ‹_›)
  · exact unnamed _ _ (Text.mem_of_splitAt?_none ‹_›)

/-- Whatever a namespace is like, a path names what it names under those without a question mark,
or nothing. -/
theorem ofPath_or_unknown {path : String} {route : Route}
    (h : '?' ∉ ns.toList → ofPath ns path = route) :
    ofPath ns path = route ∨ ofPath ns path = .unknown := by
  by_cases hns : '?' ∈ ns.toList
  · exact .inr (ofPath_of_mem hns path)
  · exact .inl (h hns)

theorem not_prefix_append {a b : List Char} (h : ¬ a <+: b) (h' : ¬ b <+: a) (x y : List Char) :
    ¬ a ++ x <+: b ++ y := by
  intro prefixed
  obtain hab | hba := List.prefix_or_prefix_of_prefix ((List.prefix_append a x).trans prefixed)
    (List.prefix_append b y)
  · exact h hab
  · exact h' hba

variable (ns) in
/-- Paths of collections begin differently. -/
theorem collectionPath_apart {kind kind' : ResourceKind} (h : kind' ≠ kind) (rest : List Char) :
    ¬ (kind'.collectionPath ns).toList <+: (kind.collectionPath ns).toList ++ rest := by
  have plural : kind'.group = kind.group →
      ¬ kind'.plural.toList <+: kind.plural.toList ∧ ¬ kind.plural.toList <+: kind'.plural.toList := by
    cases kind <;> cases kind' <;> first | exact absurd rfl h | decide +kernel
  have group : kind'.group ≠ kind.group →
      ¬ kind'.group.toList <+: kind.group.toList ∧ ¬ kind.group.toList <+: kind'.group.toList := by
    cases kind <;> cases kind' <;> decide +kernel
  simp only [ResourceKind.collectionPath, String.toList_append, List.append_assoc]
  by_cases hg : kind'.group = kind.group
  · simp only [hg, List.prefix_append_right_inj]
    simpa using not_prefix_append (plural hg).1 (plural hg).2 [] rest
  · exact not_prefix_append (group hg).1 (group hg).2 _ _

variable (ns) in
theorem podsPath_apart (kind : ResourceKind) (rest : List Char) :
    ¬ (podsPath ns).toList <+: (kind.collectionPath ns).toList ++ rest := by
  have split : podsPath ns = "/api/v1" ++ "/namespaces/" ++ ns ++ "/" ++ "pods" := by
    have front : "/api/v1" ++ "/namespaces/" = "/api/v1/namespaces/" := by decide +kernel
    have back : "/" ++ "pods" = "/pods" := by decide +kernel
    rw [front, String.append_assoc, back]
    rfl
  have plural : kind.group = "/api/v1" →
      ¬ "pods".toList <+: kind.plural.toList ∧ ¬ kind.plural.toList <+: "pods".toList := by
    cases kind <;> decide +kernel
  have group : kind.group ≠ "/api/v1" →
      ¬ "/api/v1".toList <+: kind.group.toList ∧ ¬ kind.group.toList <+: "/api/v1".toList := by
    cases kind <;> decide +kernel
  rw [split]
  simp only [ResourceKind.collectionPath, String.toList_append, List.append_assoc]
  by_cases hg : kind.group = "/api/v1"
  · simp only [hg, List.prefix_append_right_inj]
    simpa using not_prefix_append (plural hg).1 (plural hg).2 [] rest
  · exact not_prefix_append (group hg).1 (group hg).2 _ _

theorem after?_slash_of_apart {start : String} {cs : List Char} (h : ¬ start.toList <+: cs) :
    after? (start ++ "/") cs = none := by
  refine Text.after?_eq_none fun prefixed => h ?_
  rw [String.toList_append] at prefixed
  exact (List.prefix_append _ _).trans prefixed

theorem ne_of_apart {start : String} {cs : List Char} (h : ¬ start.toList <+: cs) :
    cs ≠ start.toList := by
  intro heq
  exact h (heq ▸ List.prefix_rfl)

variable (ns) in
theorem resolve_collection (kind : ResourceKind) (rest : List Char)
    (selector : Option (String × String)) :
    resolve ns ((kind.collectionPath ns).toList ++ rest) selector =
      (within kind ns ((kind.collectionPath ns).toList ++ rest) selector).getD .unknown := by
  have others (kind' : ResourceKind) (h : kind' ≠ kind) :
      within kind' ns ((kind.collectionPath ns).toList ++ rest) selector = none := by
    have apart := collectionPath_apart ns h rest
    rw [within, if_neg (ne_of_apart apart), after?_slash_of_apart apart]
  have apart := podsPath_apart ns kind rest
  have first : ResourceKind.all.findSome? (fun kind' =>
      within kind' ns ((kind.collectionPath ns).toList ++ rest) selector) =
        within kind ns ((kind.collectionPath ns).toList ++ rest) selector := by
    cases hw : within kind ns ((kind.collectionPath ns).toList ++ rest) selector with
    | none =>
        refine List.findSome?_eq_none_iff.2 fun kind' _ => ?_
        by_cases h : kind' = kind
        · rw [h, hw]
        · exact others kind' h
    | some route =>
        cases kind with
        | volume => simp only [ResourceKind.all, List.findSome?_cons, hw]
        | imageStream =>
            simp only [ResourceKind.all, List.findSome?_cons, hw, others .volume nofun]
        | build =>
            simp only [ResourceKind.all, List.findSome?_cons, hw, others .volume nofun,
              others .imageStream nofun]
        | config =>
            simp only [ResourceKind.all, List.findSome?_cons, hw, others .volume nofun,
              others .imageStream nofun, others .build nofun]
        | batchJob =>
            simp only [ResourceKind.all, List.findSome?_cons, hw, others .volume nofun,
              others .imageStream nofun, others .build nofun, others .config nofun]
  rw [resolve, if_neg (ne_of_apart apart), after?_slash_of_apart apart, first]

section Named

variable (hns : '?' ∉ ns.toList)
include hns

theorem notMem_collectionPath (kind : ResourceKind) : '?' ∉ (kind.collectionPath ns).toList := by
  have group : '?' ∉ kind.group.toList := by cases kind <;> decide +kernel
  have plural : '?' ∉ kind.plural.toList := by cases kind <;> decide +kernel
  have middle : '?' ∉ "/namespaces/".toList ∧ '?' ∉ "/".toList := by decide +kernel
  simp only [ResourceKind.collectionPath, String.toList_append, List.mem_append, not_or]
  exact ⟨⟨⟨⟨group, middle.1⟩, hns⟩, middle.2⟩, plural⟩

theorem notMem_podsPath : '?' ∉ (podsPath ns).toList := by
  have ends : '?' ∉ "/api/v1/namespaces/".toList ∧ '?' ∉ "/pods".toList := by decide +kernel
  change '?' ∉ ("/api/v1/namespaces/" ++ ns ++ "/pods").toList
  simp only [String.toList_append, List.mem_append, not_or]
  exact ⟨⟨ends.1, hns⟩, ends.2⟩

theorem ofPath_collectionPath (kind : ResourceKind) :
    ofPath ns (kind.collectionPath ns) = .collection kind none := by
  have resolved := resolve_collection ns kind [] none
  rw [List.append_nil] at resolved
  rw [ofPath_of_notMem (notMem_collectionPath hns kind), resolved, within, if_pos rfl]
  rfl

omit hns in
theorem selectorOf_encode {label value : String} (hl : '=' ∉ label.toList) :
    selectorOf ("labelSelector=".toList ++ (encodeSelector (ImageryJobs.selectorOf label value)).toList) =
      some (label, value) := by
  have split : splitAt? '=' (ImageryJobs.selectorOf label value).toList =
      some (label.toList, value.toList) := by
    have parts : (ImageryJobs.selectorOf label value).toList = label.toList ++ '=' :: value.toList := by
      simp [ImageryJobs.selectorOf, String.toList_append]
    rw [parts, Text.splitAt?_append_cons hl]
  rw [selectorOf, Text.after?_append]
  simp [encodeSelector, Text.Percent.decode?_encode, split]

/-- A listing under a selector names the collection and the label. -/
theorem ofPath_listPath (kind : ResourceKind) {label value : String} (hl : '=' ∉ label.toList) :
    ofPath ns (listPath (kind.collectionPath ns) (ImageryJobs.selectorOf label value)) =
      .collection kind (some (label, value)) := by
  have path : (listPath (kind.collectionPath ns) (ImageryJobs.selectorOf label value)).toList =
      (kind.collectionPath ns).toList ++ '?' :: ("labelSelector=".toList ++
        (encodeSelector (ImageryJobs.selectorOf label value)).toList) := by
    simp [listPath, String.toList_append]
  have resolved := resolve_collection ns kind [] (some (label, value))
  rw [List.append_nil] at resolved
  rw [ofPath_eq, path, Text.splitAt?_append_cons (notMem_collectionPath hns kind)]
  dsimp only
  rw [selectorOf_encode hl, resolved, within, if_pos rfl]
  rfl

theorem ofPath_listPods {label value : String} (hl : '=' ∉ label.toList) :
    ofPath ns (listPath (podsPath ns) (ImageryJobs.selectorOf label value)) =
      .pods (some (label, value)) := by
  have path : (listPath (podsPath ns) (ImageryJobs.selectorOf label value)).toList =
      (podsPath ns).toList ++ '?' :: ("labelSelector=".toList ++
        (encodeSelector (ImageryJobs.selectorOf label value)).toList) := by
    simp [listPath, String.toList_append]
  rw [ofPath_eq, path, Text.splitAt?_append_cons (notMem_podsPath hns)]
  dsimp only
  rw [selectorOf_encode hl, resolve, if_pos rfl]

/-- A name that does not divide its path is the name of the object. -/
theorem ofPath_instancePath_of_notMem (kind : ResourceKind) {name : String} (slash : '/' ∉ name.toList)
    (question : '?' ∉ name.toList) : ofPath ns (kind.instancePath ns name) = .object kind name := by
  have path : (kind.instancePath ns name).toList =
      (kind.collectionPath ns).toList ++ '/' :: name.toList := by
    simp [ResourceKind.instancePath, String.toList_append]
  have whole : '?' ∉ (kind.instancePath ns name).toList := by
    rw [path]
    simp [notMem_collectionPath hns kind, question]
  have after : after? (kind.collectionPath ns ++ "/")
      ((kind.collectionPath ns).toList ++ '/' :: name.toList) = some name.toList := by
    have start : (kind.collectionPath ns ++ "/").toList = (kind.collectionPath ns).toList ++ ['/'] := by
      simp [String.toList_append]
    have := Text.after?_append (kind.collectionPath ns ++ "/") name.toList
    rwa [start, List.append_assoc] at this
  have longer : (kind.collectionPath ns).toList ++ '/' :: name.toList ≠ (kind.collectionPath ns).toList := by
    simp
  rw [ofPath_of_notMem whole, path, resolve_collection, within, if_neg longer, after]
  simp [slash]

theorem ofPath_instancePath (kind : ResourceKind) {name : String} (hn : IsLabel name) :
    ofPath ns (kind.instancePath ns name) = .object kind name :=
  ofPath_instancePath_of_notMem hns kind (hn.notMem (by decide) (by decide))
    (hn.notMem (by decide) (by decide))

omit hns in
theorem ofPath_instance (ns : String) (kind : ResourceKind) {name : String} (hn : IsLabel name) :
    ofPath ns (kind.instancePath ns name) = .object kind name ∨
      ofPath ns (kind.instancePath ns name) = .unknown :=
  ofPath_or_unknown fun hns => ofPath_instancePath hns kind hn

omit hns in
theorem toList_podPath (pod : String) :
    (podPath ns pod).toList = (podsPath ns ++ "/").toList ++ pod.toList := by
  rw [podPath, String.toList_append]

theorem notMem_podsPath_slash : '?' ∉ (podsPath ns ++ "/").toList := by
  simp [String.toList_append, notMem_podsPath hns]

omit hns in
/-- What follows the path of the pods is the name of one, or of one whose writing is asked for. -/
theorem resolve_pods (rest : List Char) (selector : Option (String × String)) :
    resolve ns ((podsPath ns ++ "/").toList ++ rest) selector =
      match before? "/log" rest with
      | some name => .podLog (String.ofList name)
      | none => .pod (String.ofList rest) := by
  have longer : (podsPath ns ++ "/").toList ++ rest ≠ (podsPath ns).toList := by
    simp [String.toList_append]
  rw [resolve, if_neg longer, Text.after?_append]

/-- The path of a pod, or of what it has written, names no other object. -/
theorem ofPath_podPath (pod : String) :
    ∃ name, ofPath ns (podPath ns pod) = .pod name ∨ ofPath ns (podPath ns pod) = .podLog name := by
  have named (rest : List Char) (selector : Option (String × String)) :
      ∃ name, resolve ns ((podsPath ns ++ "/").toList ++ rest) selector = .pod name ∨
        resolve ns ((podsPath ns ++ "/").toList ++ rest) selector = .podLog name := by
    rw [resolve_pods]
    cases before? "/log" rest with
    | some name => exact ⟨_, .inr rfl⟩
    | none => exact ⟨_, .inl rfl⟩
  rw [ofPath_eq, toList_podPath, Text.splitAt?_append (notMem_podsPath_slash hns)]
  cases splitAt? '?' pod.toList <;> exact named _ _

theorem ofPath_podsPath : ofPath ns (podsPath ns) = .pods none := by
  rw [ofPath_of_notMem (notMem_podsPath hns), resolve, if_pos rfl]

theorem ofPath_of_podPath {pod : String} (question : '?' ∉ pod.toList) :
    ofPath ns (podPath ns pod) =
      match before? "/log" pod.toList with
      | some name => .podLog (String.ofList name)
      | none => .pod pod := by
  have whole : '?' ∉ (podPath ns pod).toList := by
    rw [toList_podPath, List.mem_append]
    exact not_or.2 ⟨notMem_podsPath_slash hns, question⟩
  rw [ofPath_of_notMem whole, toList_podPath, resolve_pods, String.ofList_toList]

/-- Without a slash a name does not end like a path that asks for what a pod has written. -/
theorem ofPath_podPath_of_notMem {pod : String} (slash : '/' ∉ pod.toList)
    (question : '?' ∉ pod.toList) : ofPath ns (podPath ns pod) = .pod pod := by
  have other : ¬ "/log".toList <:+ pod.toList := fun ends => slash (ends.subset (by decide))
  rw [ofPath_of_podPath hns question, Text.before?_eq_none other]

theorem ofPath_podLogPath {pod : String} (question : '?' ∉ pod.toList) :
    ofPath ns (podLogPath ns pod) = .podLog pod := by
  have whole : '?' ∉ (pod ++ "/log").toList := by
    rw [String.toList_append, List.mem_append]
    exact not_or.2 ⟨question, by decide⟩
  rw [podLogPath_eq, ofPath_of_podPath hns whole, String.toList_append, Text.before?_append]
  dsimp only
  rw [String.ofList_toList]

end Named

/-! ### Listings -/

theorem listPath_ne_instancePath {kind kind' : ResourceKind} {selector name : String} :
    listPath (kind.collectionPath ns) selector ≠ kind'.instancePath ns name := by
  intro heq
  rw [← String.toList_inj] at heq
  simp only [listPath, ResourceKind.instancePath, String.toList_append, List.append_assoc] at heq
  by_cases hk : kind' = kind
  · subst hk
    simp at heq
  · refine collectionPath_apart ns hk ("?labelSelector=".toList ++ (encodeSelector selector).toList) ?_
    rw [heq]
    exact List.prefix_append _ _

end Simulation.Route
end ImageryJobs
