import ImageryJobs.Text.Percent
import Mathlib.Data.List.Basic

/-!
Percent encoding can be undone. What is written is ASCII, so its octets are its characters; reading
them gives back the octets of the text, and those are its UTF-8 form.
-/

namespace ImageryJobs.Text

theorem toList_loop (bs : ByteArray) (i : Nat) (r : List UInt8) :
    ByteArray.toList.loop bs i r = r.reverse ++ bs.data.toList.drop i := by
  induction i, r using ByteArray.toList.loop.induct bs with
  | case1 i r h ih =>
      have there : bs.data.toList.drop i = bs.get! i :: bs.data.toList.drop (i + 1) := by
        have hi : i < bs.data.size := h
        rw [List.drop_eq_getElem_cons (by simpa using hi)]
        congr 1
        exact (getElem!_pos bs.data i hi).symm
      rw [ByteArray.toList.loop, if_pos h, ih, there]
      simp
  | case2 i r h =>
      have done : bs.data.toList.length ≤ i := by
        have : bs.data.size ≤ i := Nat.le_of_not_lt h
        simpa using this
      rw [ByteArray.toList.loop, if_neg h, List.drop_eq_nil_of_le done, List.append_nil]

theorem octets_eq (s : String) : octets s = s.toByteArray.data.toList := by
  change ByteArray.toList.loop _ 0 [] = _
  rw [toList_loop]
  rfl

theorem octets_eq_flatMap (s : String) : octets s = s.toList.flatMap String.utf8EncodeChar := by
  rw [octets_eq, ← String.ofList_toList (s := s), String.toByteArray_ofList, List.utf8Encode,
    String.toList_ofList]
  simp

theorem ofOctets?_octets (s : String) : ofOctets? (octets s) = some s := by
  rw [octets_eq, ofOctets?, String.fromUTF8?, dif_pos s.isValidUTF8]
  rfl

namespace Percent

/-- The octets of ASCII characters. -/
theorem octets_ofList {cs : List Char} (h : ∀ c ∈ cs, c.val.toNat < 128) :
    octets (String.ofList cs) = cs.map fun c => c.val.toUInt8 := by
  have each : cs.flatMap String.utf8EncodeChar = cs.map fun c => c.val.toUInt8 := by
    induction cs with
    | nil => rfl
    | cons c cs ih =>
        obtain ⟨hc, hcs⟩ := List.forall_mem_cons.1 h
        have one : String.utf8EncodeChar c = [c.val.toUInt8] := by
          rw [String.utf8EncodeChar, if_pos (Nat.le_of_lt_succ hc)]
          rfl
        rw [List.flatMap_cons, one, ih hcs]
        rfl
  rw [octets_eq_flatMap, String.toList_ofList, each]

/-- The octets of what is written for an octet. -/
def written (b : UInt8) : List UInt8 := (encodeOctet b).map fun c => c.val.toUInt8

theorem isAscii_encodeOctet (b : UInt8) : ∀ c ∈ encodeOctet b, c.val.toNat < 128 := by
  have each : ∀ n : Fin 256, (encodeOctet (UInt8.ofNat n)).all (·.val.toNat < 128) = true := by
    decide +kernel
  have := each ⟨b.toNat, b.toNat_lt⟩
  rw [UInt8.ofNat_toNat, List.all_eq_true] at this
  exact fun c hc => of_decide_eq_true (this c hc)

theorem decodeOctets_cons {b : UInt8} (h : b ≠ 37) (l : List UInt8) :
    decodeOctets (b :: l) = b :: decodeOctets l := by
  match l with
  | [] | [_] => rfl
  | _ :: _ :: _ => rw [decodeOctets, if_neg h]

theorem decodeOctets_written (b : UInt8) (l : List UInt8) :
    decodeOctets (written b ++ l) = b :: decodeOctets l := by
  have plain : ∀ n : Fin 256, isPlain (UInt8.ofNat n) = true →
      written (UInt8.ofNat n) = [UInt8.ofNat n] ∧ UInt8.ofNat n ≠ 37 := by
    decide +kernel
  have digit : ∀ n : Fin 16, hexValue? (hexDigit n).val.toUInt8 = some n.val := by
    decide +kernel
  by_cases hb : isPlain b
  · have := plain ⟨b.toNat, b.toNat_lt⟩
    rw [UInt8.ofNat_toNat] at this
    rw [(this hb).1]
    exact decodeOctets_cons (this hb).2 l
  · have encoded : written b = [37, (hexDigit (b.toNat / 16)).val.toUInt8,
        (hexDigit (b.toNat % 16)).val.toUInt8] := by
      rw [written, encodeOctet, if_neg hb]
      rfl
    have hlt : b.toNat < 256 := b.toNat_lt
    have high := digit ⟨b.toNat / 16, by omega⟩
    have low := digit ⟨b.toNat % 16, Nat.mod_lt _ (by decide)⟩
    dsimp only at high low
    simp only [encoded, List.cons_append, List.nil_append, decodeOctets, high, low, if_true,
      Nat.div_add_mod, UInt8.ofNat_toNat]

theorem decode?_encode (s : String) : decode? (encode s) = some s := by
  have ascii : ∀ c ∈ (octets s).flatMap encodeOctet, c.val.toNat < 128 := by
    intro c hc
    obtain ⟨b, -, hb⟩ := List.mem_flatMap.1 hc
    exact isAscii_encodeOctet b c hb
  have read : ∀ l : List UInt8, decodeOctets (l.flatMap written) = l := by
    intro l
    induction l with
    | nil => rfl
    | cons b l ih => rw [List.flatMap_cons, decodeOctets_written, ih]
  rw [decode?, encode, octets_ofList ascii, List.map_flatMap]
  exact (congrArg ofOctets? (read _)).trans (ofOctets?_octets s)

end Percent
end ImageryJobs.Text
