import ImageryJobs.Cluster.Naming
import ImageryJobs.Proofs.Text.Lowercase
import ImageryJobs.Proofs.Text.Percent
import Mathlib.Data.List.DropRight

/-!
Labels made from any text. What is made is a label of the domain name system or empty, and those are the
texts that stay as they are. The text is ASCII before it is cut, so it has as many octets as characters,
and no cut goes through a character.
-/

namespace ImageryJobs

namespace Text

/-- The text of the first octets of a text. There is none if they end within a character. -/
def firstOctets? (count : Nat) (s : String) : Option String := ofOctets? ((octets s).take count)

theorem firstOctets?_of_ascii {cs : List Char} (h : ∀ c ∈ cs, c.toNat < 128) (count : Nat) :
    firstOctets? count (String.ofList cs) = some (String.ofList (cs.take count)) := by
  have first : ∀ c ∈ cs.take count, c.toNat < 128 := fun c hc => h c (List.mem_of_mem_take hc)
  rw [firstOctets?, Percent.octets_ofList h, ← List.map_take, ← Percent.octets_ofList first,
    ofOctets?_octets]

example : firstOctets? 1 "\u00e9" = none := by decide +kernel

end Text

/-! ### Letters and digits -/

theorem isLabelChar_iff {c : Char} : isLabelChar c = true ↔ c.isAlphanum = true := by
  rw [isLabelChar, Bool.and_eq_true, decide_eq_true_eq, and_iff_right_iff_imp, Text.isAlphanum_iff,
    Text.isUpper_iff, Text.isLower_iff, Text.isDigit_iff]
  omega

/-- The characters of labels in lower case. -/
def IsDnsChar (c : Char) : Prop := c.isLower = true ∨ c.isDigit = true ∨ c = '-'

theorem IsDnsChar.bounds {c : Char} (h : IsDnsChar c) : c.toNat < 128 ∧ c.isUpper = false := by
  rw [Bool.eq_false_iff, Ne, Text.isUpper_iff]
  obtain letter | digit | rfl := h
  · have := Text.isLower_iff.1 letter
    omega
  · have := Text.isDigit_iff.1 digit
    omega
  · decide

theorem isDnsChar_of_isAlphanum {c : Char} (h : c.isAlphanum = true) (small : c.isUpper = false) :
    IsDnsChar c := by
  obtain (capital | letter) | digit := Text.isAlphanum_iff.1 h
  · cases small.symm.trans capital
  · exact .inl letter
  · exact .inr (.inl digit)

/-- A dash for all but letters and digits. -/
def labelChar (c : Char) : Char := if isLabelChar c then c else '-'

theorem labelChar_ne_dash {c : Char} : labelChar c ≠ '-' ↔ c.isAlphanum = true := by
  rw [← isLabelChar_iff, labelChar]
  split
  · rename_i label
    refine iff_of_true ?_ label
    rintro rfl
    exact absurd label (by decide)
  · rename_i other
    exact iff_of_false (not_not_intro rfl) other

theorem isDnsChar_labelChar {c : Char} (small : c.isUpper = false) : IsDnsChar (labelChar c) := by
  rw [labelChar]
  split
  · exact isDnsChar_of_isAlphanum (isLabelChar_iff.1 ‹_›) small
  · exact .inr (.inr rfl)

theorem IsDnsChar.isLabelChar_or_dash {c : Char} (h : IsDnsChar c) : isLabelChar c = true ∨ c = '-' := by
  rw [isLabelChar_iff, Text.isAlphanum_iff]
  obtain letter | digit | dash := h
  · exact .inl (.inl (.inr letter))
  · exact .inl (.inr digit)
  · exact .inr dash

theorem IsDnsChar.labelChar_eq {c : Char} (h : IsDnsChar c) : labelChar c = c := by
  rw [labelChar]
  split
  · rfl
  · exact (h.isLabelChar_or_dash.resolve_left ‹_›).symm

/-! ### Dashes at the ends -/

section Dashes

variable {cs : List Char}

theorem head?_dropDashes (cs : List Char) : (cs.dropWhile (· = '-')).head? ≠ some '-' := by
  intro h
  rw [← List.find?_not_eq_head?_dropWhile] at h
  exact absurd (List.find?_some h) (by decide)

theorem dropDashes_eq_self (h : cs.head? ≠ some '-') : cs.dropWhile (· = '-') = cs := by
  cases cs with
  | nil => rfl
  | cons c cs => exact List.dropWhile_cons_of_neg fun hc => h (congrArg some (of_decide_eq_true hc))

theorem trimDashes_eq (cs : List Char) :
    trimDashes cs = (cs.dropWhile (· = '-')).rdropWhile (· = '-') := rfl

theorem isInfix_trimDashes (cs : List Char) : trimDashes cs <:+: cs :=
  (List.rdropWhile_prefix _ _).isInfix.trans (List.dropWhile_suffix _).isInfix

theorem trimDashes_eq_nil : trimDashes cs = [] ↔ ∀ c ∈ cs, c = '-' := by
  rw [trimDashes_eq, List.rdropWhile_eq_nil_iff]
  constructor
  · intro rest c hc
    -- what was cut at the start is dashes too
    rw [← List.takeWhile_append_dropWhile (p := fun c => c = '-') (l := cs), List.mem_append] at hc
    obtain cut | kept := hc
    · have := List.mem_takeWhile_imp cut
      exact of_decide_eq_true this
    · exact of_decide_eq_true (rest c kept)
  · intro all c hc
    exact decide_eq_true (all c ((List.dropWhile_suffix _).subset hc))

theorem head?_trimDashes (cs : List Char) : (trimDashes cs).head? ≠ some '-' := by
  intro h
  obtain ⟨rest, hrest⟩ := List.rdropWhile_prefix (· = '-') (cs.dropWhile (· = '-'))
  obtain ⟨tail, htail⟩ := List.head?_eq_some_iff.1 h
  refine head?_dropDashes cs ?_
  rw [← hrest, ← trimDashes_eq, htail]
  rfl

theorem getLast?_trimDashes (cs : List Char) : (trimDashes cs).getLast? ≠ some '-' := by
  rw [trimDashes, List.getLast?_reverse]
  exact head?_dropDashes _

theorem trimDashes_eq_self (first : cs.head? ≠ some '-') (last : cs.getLast? ≠ some '-') :
    trimDashes cs = cs := by
  rw [trimDashes, dropDashes_eq_self first, dropDashes_eq_self (List.head?_reverse ▸ last),
    List.reverse_reverse]

end Dashes

/-! ### Labels -/

/-- A DNS-1123 label: at most 63 small letters, digits and dashes, of which there is at least one, and
neither the first nor the last is a dash. -/
structure IsDnsLabel (name : String) : Prop where
  ne_empty : name ≠ ""
  length_le : name.length ≤ 63
  chars : ∀ c ∈ name.toList, IsDnsChar c
  first : name.toList.head? ≠ some '-'
  last : name.toList.getLast? ≠ some '-'

/-- The lower case of a text, with dashes for all but letters and digits. -/
def dashed (raw : String) : List Char := (Text.lowercase raw).toList.map labelChar

/-- A text made into a label, where the text is cut by its octets. There is none if the cut goes through a
character. -/
def sanitizeOctets? (raw : String) : Option String :=
  (Text.firstOctets? labelLimit (String.ofList (dashed raw))).map fun cut =>
    String.ofList (trimDashes cut.toList)

variable {raw name : String} {c : Char}

theorem sanitizeName_eq (raw : String) :
    sanitizeName raw = String.ofList (trimDashes ((dashed raw).take labelLimit)) := rfl

theorem toList_sanitizeName (raw : String) :
    (sanitizeName raw).toList = trimDashes ((dashed raw).take labelLimit) := by
  rw [sanitizeName_eq, String.toList_ofList]

theorem isDnsChar_of_mem_dashed (h : c ∈ dashed raw) : IsDnsChar c := by
  obtain ⟨d, hd, rfl⟩ := List.mem_map.1 h
  exact isDnsChar_labelChar (Text.isUpper_of_mem_lowercase hd)

theorem isDnsChar_of_mem_sanitizeName (h : c ∈ (sanitizeName raw).toList) : IsDnsChar c := by
  rw [toList_sanitizeName] at h
  exact isDnsChar_of_mem_dashed (List.mem_of_mem_take ((isInfix_trimDashes _).subset h))

/-- A label is made of what has one, and nothing of what has none. -/
theorem sanitizeName_ne_empty : sanitizeName raw ≠ "" ↔
    ∃ c ∈ (Text.lowercase raw).toList.take labelLimit, c.isAlphanum = true := by
  rw [Ne, sanitizeName_eq, String.ofList_eq_empty_iff, trimDashes_eq_nil, dashed, ← List.map_take,
    List.forall_mem_map]
  simp only [not_forall, labelChar_ne_dash, exists_prop]

theorem isDnsLabel_sanitizeName (h : sanitizeName raw ≠ "") : IsDnsLabel (sanitizeName raw) where
  ne_empty := h
  length_le := by
    rw [← String.length_toList, toList_sanitizeName]
    exact (isInfix_trimDashes _).length_le.trans (List.length_take_le ..)
  chars := fun _ => isDnsChar_of_mem_sanitizeName
  first := by
    rw [toList_sanitizeName]
    exact head?_trimDashes _
  last := by
    rw [toList_sanitizeName]
    exact getLast?_trimDashes _

theorem sanitizeName_of_isDnsLabel (h : IsDnsLabel name) : sanitizeName name = name := by
  have lower : Text.lowercase name = name :=
    Text.lowercase_of_ascii fun c hc => (h.chars c hc).bounds
  have same : dashed name = name.toList := by
    rw [dashed, lower]
    exact (List.map_congr_left fun c hc => (h.chars c hc).labelChar_eq).trans (List.map_id _)
  have short : name.toList.length ≤ labelLimit := String.length_toList.trans_le h.length_le
  rw [sanitizeName_eq, same, List.take_of_length_le short, trimDashes_eq_self h.first h.last,
    String.ofList_toList]

/-- The texts that stay as they are. -/
theorem sanitizeName_eq_self_iff : sanitizeName name = name ↔ name = "" ∨ IsDnsLabel name := by
  constructor
  · intro same
    by_cases empty : name = ""
    · exact .inl empty
    · rw [← same] at empty ⊢
      exact .inr (isDnsLabel_sanitizeName empty)
  · rintro (rfl | label)
    · decide
    · exact sanitizeName_of_isDnsLabel label

theorem sanitizeOctets?_eq (raw : String) : sanitizeOctets? raw = some (sanitizeName raw) := by
  have ascii : ∀ c ∈ dashed raw, c.toNat < 128 := fun c hc => (isDnsChar_of_mem_dashed hc).bounds.1
  rw [sanitizeOctets?, Text.firstOctets?_of_ascii ascii, Option.map_some, String.toList_ofList,
    sanitizeName_eq]

/-- No character is cut in two when a name is made from a text. The name is a label or empty, and stays
as it is when a name is made from it. It is a label just if one of the first 63 characters of the lower
case of the text is an ASCII letter or digit. -/
theorem sanitizeName_dnsLabel (raw : String) :
    sanitizeOctets? raw = some (sanitizeName raw) ∧
      (sanitizeName raw = "" ∨ IsDnsLabel (sanitizeName raw)) ∧
      sanitizeName (sanitizeName raw) = sanitizeName raw ∧
      (sanitizeName raw ≠ "" ↔ ∃ c ∈ (Text.lowercase raw).toList.take 63, c.isAlphanum = true) := by
  have shape : sanitizeName raw = "" ∨ IsDnsLabel (sanitizeName raw) :=
    or_iff_not_imp_left.2 isDnsLabel_sanitizeName
  exact ⟨sanitizeOctets?_eq raw, shape, sanitizeName_eq_self_iff.2 shape, sanitizeName_ne_empty⟩

/-- The dotted capital I is two characters in lower case, the second of which is no letter. -/
example : sanitizeName "_\u0130stanbul.K" = "i-stanbul-k" := by decide +kernel

end ImageryJobs
