import ImageryJobs.Json.Schema
import ImageryJobs.Proofs.Json.RoundTrip
import Mathlib.Data.List.Basic
import Mathlib.Data.List.TakeWhile
import Mathlib.Data.Option.Basic

/-!
Lists of natural numbers as JSON text: what is read back is what was written.
-/

namespace ImageryJobs.Json

namespace Number.Literal

theorem natural_toDigits (n : Nat) : natural (Nat.toDigits 10 n) = n :=
  Nat.ofDigitChars_ten_toDigits

theorem eq_zero_of_leading_zero {n : Nat} (h : (Nat.toDigits 10 n).head? = some '0') : n = 0 := by
  have small : ∀ m < 10, Nat.digitChar m = '0' → m = 0 := by decide
  induction n using Nat.strongRecOn with
  | ind n ih =>
      rw [Nat.toDigits_eq_if (by decide)] at h
      split at h
      · exact small n ‹_› (Option.some.inj h)
      · have hlt : n / 10 < n := Nat.div_lt_self (by omega) (by decide)
        rw [List.head?_append_of_ne_nil _ Nat.toDigits_ne_nil] at h
        have := ih (n / 10) hlt h
        omega

/-- The literal of a natural number. -/
def ofNat (n : Nat) : Literal := ⟨false, Nat.toDigits 10 n, none, none⟩

theorem isDigit_of_mem {n : Nat} : ∀ c ∈ Nat.toDigits 10 n, c.isDigit = true := fun _ hc =>
  Nat.isDigit_of_mem_toDigits (by decide) (by decide) hc

theorem parse?_toDigits (n : Nat) : parse? (Nat.toDigits 10 n) = some (ofNat n) := by
  have hlead : (Nat.toDigits 10 n).head? = some '0' → (Nat.toDigits 10 n).length = 1 := by
    intro h
    rw [eq_zero_of_leading_zero h]
    rfl
  have htake : (Nat.toDigits 10 n).takeWhile Char.isDigit = Nat.toDigits 10 n :=
    List.takeWhile_eq_self_iff.2 isDigit_of_mem
  have hdrop : (Nat.toDigits 10 n).dropWhile Char.isDigit = [] :=
    List.dropWhile_eq_nil_iff.2 isDigit_of_mem
  have hsign : ∀ rest, Nat.toDigits 10 n ≠ '-' :: rest := by
    intro rest heq
    have := isDigit_of_mem (n := n) '-' (by simp [heq])
    cases this
  have hne : Nat.toDigits 10 n ≠ [] := Nat.toDigits_ne_nil
  unfold parse?
  split
  rename_i negative cs heq
  split at heq
  · rename_i rest hcs
    exact absurd hcs (hsign rest)
  · cases heq
    have hguard : (guard (Nat.toDigits 10 n ≠ [] ∧ ((Nat.toDigits 10 n).head? = some '0' →
        (Nat.toDigits 10 n).length = 1)) : Option Unit) = some () := if_pos ⟨hne, hlead⟩
    rw [htake, hdrop]
    dsimp only
    rw [hguard]
    rfl

theorem natBelow_value? {bound depth n m : Nat}
    (h : Schema.natBelow bound depth (.number (ofNat n).value?) = some m) : m = n := by
  have hvalue : (ofNat n).value? = if n ≤ significandMax then some (.integer n)
      else (ofNat n).float?.map .float := by
    simp only [value?, ofNat, natural_toDigits, Bool.false_eq_true, if_false]
  rw [hvalue] at h
  by_cases hn : n ≤ significandMax
  · rw [if_pos hn] at h
    simp only [Schema.natBelow] at h
    split at h
    · cases h
      exact Int.toNat_natCast n
    · cases h
  · rw [if_neg hn] at h
    cases hf : (ofNat n).float? with
    | none =>
        rw [hf] at h
        cases h
    | some x =>
        rw [hf] at h
        cases h

end Number.Literal

/-! ### Trees -/

theorem text_ofNat (n : Nat) : Number.text (.integer n) = Nat.toDigits 10 n := by
  rw [Number.text, if_neg (Int.not_lt.2 (Int.natCast_nonneg n)), Int.natAbs_natCast]

theorem reread_ofNat (n : Nat) : Number.reread (.integer n) = (Number.Literal.ofNat n).value? := by
  rw [Number.reread, text_ofNat, Number.Literal.parse?_toDigits, Option.bind_some]

theorem written_ofNat (n : Nat) : Number.Written (.integer n) := by
  have digits := Number.Literal.isDigit_of_mem (n := n)
  refine ⟨?_, ?_, ?_⟩ <;> rw [text_ofNat]
  · cases hcs : Nat.toDigits 10 n with
    | nil => exact absurd hcs Nat.toDigits_ne_nil
    | cons c cs => exact ⟨c, cs, rfl, .inl (digits c (by simp [hcs]))⟩
  · intro c hc
    simp [Token.isNumberChar, digits c hc]
  · exact ⟨_, Number.Literal.parse?_toDigits n⟩

/-- The tree of a written natural number. -/
def Raw.ofNat (n : Nat) : Raw := .number (Number.Literal.ofNat n).value?

/-- The tree of a written list of numbers. -/
theorem read?_render_ofNats (ns : List Nat) :
    Raw.read? (ofList ns ofNat).render = some (.array (ns.map Raw.ofNat)) := by
  have items : EveryNumberOf Number.Written (ns.map ofNat) ∧
      Raw.ofItems (ns.map ofNat) = ns.map Raw.ofNat := by
    induction ns with
    | nil => exact ⟨trivial, rfl⟩
    | cons n ns ih =>
        refine ⟨⟨written_ofNat n, ih.1⟩, ?_⟩
        rw [List.map_cons, Raw.ofItems, ih.2, ofNat, Raw.ofJson, reread_ofNat]
        rfl
  have written : EveryNumber Number.Written (ofList ns ofNat) := items.1
  rw [Raw.read?_render written, ofList, Raw.ofJson, items.2]

/-- A list of numbers that is read from its text is the one that was written. -/
theorem eq_of_read_ofNats {bound : Nat} {ns ms : List Nat}
    (h : (Schema.list (.natBelow bound)).read? (ofList ns ofNat).render = some ms) : ms = ns := by
  rw [Schema.read?, read?_render_ofNats] at h
  have items : ∀ (depth : Nat) (ns ms : List Nat),
      (ns.map Raw.ofNat).mapM (Schema.natBelow bound depth) = some ms → ms = ns := by
    intro depth ns
    induction ns with
    | nil =>
        intro ms h
        cases h
        rfl
    | cons n ns ih =>
        intro ms h
        rw [List.map_cons, List.mapM_cons] at h
        obtain ⟨m, hm, h⟩ := Option.bind_eq_some_iff.1 h
        obtain ⟨rest, hrest, h⟩ := Option.bind_eq_some_iff.1 h
        cases h
        rw [Number.Literal.natBelow_value? hm, ih rest hrest]
  exact items _ ns ms h

end ImageryJobs.Json
