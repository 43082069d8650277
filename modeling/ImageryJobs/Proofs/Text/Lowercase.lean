import ImageryJobs.Text.Lowercase

/-!
Lower case and ASCII. The lower case of a text has no capital letters of ASCII, whatever characters the
text has; a text of ASCII without capital letters is its own lower case.
-/

namespace ImageryJobs.Text

theorem isUpper_iff {c : Char} : c.isUpper = true ↔ 65 ≤ c.toNat ∧ c.toNat ≤ 90 := decide_eq_true_iff

theorem isLower_iff {c : Char} : c.isLower = true ↔ 97 ≤ c.toNat ∧ c.toNat ≤ 122 := by
  change (decide (97 ≤ c.toNat) && decide (c.toNat ≤ 122)) = true ↔ _
  rw [Bool.and_eq_true, decide_eq_true_eq, decide_eq_true_eq]

theorem isDigit_iff {c : Char} : c.isDigit = true ↔ 48 ≤ c.toNat ∧ c.toNat ≤ 57 :=
  Char.isDigit_iff_toNat

theorem isAlphanum_iff {c : Char} :
    c.isAlphanum = true ↔ (c.isUpper = true ∨ c.isLower = true) ∨ c.isDigit = true := by
  change ((c.isUpper || c.isLower) || c.isDigit) = true ↔ _
  rw [Bool.or_eq_true, Bool.or_eq_true]

theorem toNat_ofNat_eq (n : Nat) : (Char.ofNat n).toNat = n ∨ (Char.ofNat n).toNat = 0 := by
  by_cases valid : n.isValidChar
  · exact .inl (congrArg Char.toNat (dif_pos valid))
  · exact .inr (congrArg Char.toNat (dif_neg valid))

/-! ### Characters -/

theorem shiftApplies_iff {code : Nat} {s : Nat × Nat × Nat × Int} :
    shiftApplies code s = true ↔ (s.1 ≤ code ∧ code ≤ s.2.1) ∧ (code - s.1) % s.2.2.1 = 0 := by
  simp only [shiftApplies, Bool.and_eq_true, decide_eq_true_eq]

/-- A code point is moved by a shift that applies to it, or stays where none does. -/
theorem shift_cases (shifts : List (Nat × Nat × Nat × Int)) (code : Nat) :
    (∃ s ∈ shifts, shiftApplies code s = true ∧ shift shifts code = (code + s.2.2.2 : Int).toNat) ∨
      (∀ s ∈ shifts, shiftApplies code s ≠ true) ∧ shift shifts code = code := by
  rw [shift]
  cases found : shifts.find? (shiftApplies code) with
  | some s => exact .inl ⟨s, List.mem_of_find?_eq_some found, List.find?_some found, rfl⟩
  | none => exact .inr ⟨List.find?_eq_none.1 found, rfl⟩

/-- What is moved goes beyond the capital letters of ASCII, and these are moved themselves. -/
theorem shift_lowerShifts (code : Nat) :
    shift lowerShifts code < 65 ∨ 90 < shift lowerShifts code := by
  have beyond : ∀ s ∈ lowerShifts, 90 < s.1 + s.2.2.2 := by decide +kernel
  have capitals : (65, 90, 1, 32) ∈ lowerShifts := .head _
  obtain ⟨s, hs, applies, moved⟩ | ⟨still, same⟩ := shift_cases lowerShifts code
  · have := beyond s hs
    have := (shiftApplies_iff.1 applies).1.1
    omega
  · have outside : ¬ (65 ≤ code ∧ code ≤ 90) :=
      fun inside => still _ capitals (shiftApplies_iff.2 ⟨inside, Nat.mod_one _⟩)
    omega

/-- The other characters of ASCII are not moved. -/
theorem shift_lowerShifts_of_ascii {code : Nat} (ascii : code < 128) (h : code < 65 ∨ 90 < code) :
    shift lowerShifts code = code := by
  have outside : ∀ s ∈ lowerShifts, s.1 = 65 ∧ s.2.1 = 90 ∨ 128 ≤ s.1 := by decide +kernel
  obtain ⟨s, hs, applies, -⟩ | ⟨-, same⟩ := shift_cases lowerShifts code
  · have := outside s hs
    have := (shiftApplies_iff.1 applies).1
    omega
  · exact same

theorem isUpper_of_mem_lowerChar {c d : Char} (h : d ∈ lowerChar c) : d.isUpper = false := by
  rw [lowerChar] at h
  split at h
  · simp only [List.mem_cons, List.not_mem_nil, or_false] at h
    obtain rfl | rfl := h
    · rfl
    · rfl
  · rw [List.mem_singleton.1 h, Bool.eq_false_iff, Ne, isUpper_iff]
    have := shift_lowerShifts c.toNat
    have := toNat_ofNat_eq (shift lowerShifts c.toNat)
    omega

theorem lowerChar_of_ascii {c : Char} (ascii : c.toNat < 128) (h : c.isUpper = false) :
    lowerChar c = [c] := by
  rw [Bool.eq_false_iff, Ne, isUpper_iff] at h
  rw [lowerChar, if_neg (by omega), shift_lowerShifts_of_ascii ascii (by omega), Char.ofNat_toNat]

/-! ### Texts -/

variable {before cs : List Char} {c : Char} {s : String}

/-- The characters around a sigma matter only for which of its small forms it goes to. -/
theorem mem_lowerFrom (h : c ∈ lowerFrom before cs) :
    c = finalSigma ∨ ∃ d ∈ cs, c ∈ lowerChar d := by
  induction cs generalizing before with
  | nil => cases h
  | cons d after ih =>
      rw [lowerFrom, List.mem_append] at h
      obtain here | later := h
      · rw [lowerWithin] at here
        split at here
        · exact .inl (List.mem_singleton.1 here)
        · exact .inr ⟨d, .head _, here⟩
      · obtain final | ⟨e, he, hc⟩ := ih later
        · exact .inl final
        · exact .inr ⟨e, .tail _ he, hc⟩

theorem isUpper_of_mem_lowercase (h : c ∈ (lowercase s).toList) : c.isUpper = false := by
  rw [lowercase, String.toList_ofList] at h
  obtain rfl | ⟨d, -, hc⟩ := mem_lowerFrom h
  · decide
  · exact isUpper_of_mem_lowerChar hc

theorem lowerFrom_of_ascii (h : ∀ c ∈ cs, c.toNat < 128 ∧ c.isUpper = false) :
    lowerFrom before cs = cs := by
  induction cs generalizing before with
  | nil => rfl
  | cons c after ih =>
      obtain ⟨⟨ascii, small⟩, hafter⟩ := List.forall_mem_cons.1 h
      have other : c ≠ capitalSigma := by
        rintro rfl
        exact absurd ascii (by decide)
      rw [lowerFrom, lowerWithin, if_neg fun hc => other hc.1, lowerChar_of_ascii ascii small, ih hafter]
      rfl

theorem lowercase_of_ascii (h : ∀ c ∈ s.toList, c.toNat < 128 ∧ c.isUpper = false) :
    lowercase s = s := by
  rw [lowercase, lowerFrom_of_ascii h, String.ofList_toList]

end ImageryJobs.Text
