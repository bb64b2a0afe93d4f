import BuildScripts.Json.Bytes
import BuildScripts.Proofs.Text.Utf8

namespace BuildScripts

open BuildScripts.Text

namespace Text.Utf8

theorem firstPiece_utf8EncodeChar (c : Char) (rest : List UInt8) : ∃ b bs,
    String.utf8EncodeChar c = b :: bs ∧ firstPiece b (bs ++ rest) = (.char c, bs.length) ∧
      Json.half8? (b :: (bs ++ rest)) = none := by
  have hbyte {n : Nat} (h : n < 0x100) : (UInt8.ofNat n).toNat = n := UInt8.toNat_ofNat_of_lt' h
  have hc : ∀ n, n = c.toNat → Char.ofNat n = c := fun n h => h ▸ Char.ofNat_toNat c
  have hvalid := isValid_toNat c
  have hnothalf {a : UInt8} (ha : a.toNat ≠ 0xed) (bs : List UInt8) : Json.half8? (a :: bs) = none := by
    have : ¬ a = 0xed := fun h => ha (h ▸ rfl)
    match bs with
    | [] => rfl
    | [_] => rfl
    | _ :: _ :: _ => exact if_neg fun h => this h.1
  have hbytes := String.utf8EncodeChar.eq_1 c
  rw [show c.val.toNat = c.toNat from rfl] at hbytes
  -- One case for each number of bytes.
  split at hbytes
  · have h0 := hbyte (n := c.toNat) (by omega)
    refine ⟨_, [], hbytes, ?_, hnothalf (by omega) _⟩
    rw [firstPiece_one (by omega), hc _ h0]
    rfl
  split at hbytes
  · have h0 := hbyte (n := c.toNat / 64 % 32 + 192) (by omega)
    have h1 := hbyte (n := c.toNat % 64 + 128) (by omega)
    refine ⟨_, [_], hbytes, ?_, hnothalf (by omega) _⟩
    rw [List.cons_append, firstPiece_two (by omega) (by omega), hc _ (by omega)]
    rfl
  split at hbytes
  · have h0 := hbyte (n := c.toNat / 4096 % 16 + 224) (by omega)
    have h1 := hbyte (n := c.toNat / 64 % 64 + 128) (by omega)
    have h2 := hbyte (n := c.toNat % 64 + 128) (by omega)
    refine ⟨_, [_, _], hbytes, ?_, ?_⟩
    · rw [List.cons_append, List.cons_append, firstPiece_three (by omega) (by omega) (by omega)
        (by omega) (by omega), hc _ (by omega)]
      rfl
    -- No half of a surrogate pair is a character, which bounds the second byte.
    · refine if_neg ?_
      rintro ⟨ha, hb, -⟩
      rw [← UInt8.toNat_inj] at ha
      rw [UInt8.le_iff_toNat_le] at hb
      have ha : (UInt8.ofNat (c.toNat / 4096 % 16 + 224)).toNat = 0xed := ha
      have hb : 0xa0 ≤ (UInt8.ofNat (c.toNat / 64 % 64 + 128)).toNat := hb
      omega
  · have h0 := hbyte (n := c.toNat / 262144 % 8 + 240) (by omega)
    have h1 := hbyte (n := c.toNat / 4096 % 64 + 128) (by omega)
    have h2 := hbyte (n := c.toNat / 64 % 64 + 128) (by omega)
    have h3 := hbyte (n := c.toNat % 64 + 128) (by omega)
    refine ⟨_, [_, _, _], hbytes, ?_, hnothalf (by omega) _⟩
    rw [List.cons_append, List.cons_append, List.cons_append, firstPiece_four (by omega) (by omega)
      (by omega) (by omega) (by omega) (by omega), hc _ (by omega)]
    rfl

end Text.Utf8

namespace Json

theorem codes8_append {bs : List UInt8} (rest : List UInt8) (pos : Nat) :
    codes8 bs.length pos (bs ++ rest) = codes8 0 (pos + bs.length) rest := by
  induction bs generalizing pos with
  | nil => rfl
  | cons b bs ih =>
    rw [List.length_cons, List.cons_append, codes8, ih]
    congr 1
    omega

theorem codes8_flatMap (cs : List Char) (pos : Nat) :
    codes8 0 pos (cs.flatMap String.utf8EncodeChar) = .ok (cs.map Char.toNat) := by
  induction cs generalizing pos with
  | nil => rfl
  | cons c cs ih =>
    obtain ⟨b, bs, hbytes, hpiece, hhalf⟩ :=
      Utf8.firstPiece_utf8EncodeChar c (cs.flatMap String.utf8EncodeChar)
    rw [List.flatMap_cons, hbytes, List.cons_append, codes8, hhalf]
    simp only [hpiece]
    rw [codes8_append, ih]
    rfl

theorem isHalf_toNat (c : Char) : isHalf c.toNat = false := by
  have hvalid := Utf8.isValid_toNat c
  simp only [isHalf, isHighHalf, isLowHalf, Bool.or_eq_false_iff, Bool.and_eq_false_iff,
    decide_eq_false_iff_not]
  omega

theorem any_isHalf (cs : List Char) : (cs.map Char.toNat).any isHalf = false := by
  simp [isHalf_toNat]

theorem properText?_toNat (s : String) : properText? (s.toList.map Char.toNat) = some s := by
  have hmap : (s.toList.map Char.toNat).map Char.ofNat = s.toList := by
    rw [List.map_map]
    refine (List.map_congr_left fun c _ => ?_).trans (List.map_id _)
    exact Char.ofNat_toNat c
  rw [properText?, any_isHalf, hmap, String.ofList_toList]
  rfl

theorem textOfCodes_toNat (standIn : Char) (s : String) :
    textOfCodes standIn (s.toList.map Char.toNat) = s :=
  textOfCodes_of_proper (properText?_toNat s)

theorem halvesOf_toNat (cs : List Char) : halvesOf (cs.map Char.toNat) = [] := by
  have hnone : ∀ p ∈ (cs.map Char.toNat).zipIdx, ¬ isHalf p.1 = true := by
    rintro ⟨n, i⟩ hp
    obtain ⟨c, -, rfl⟩ := List.mem_map.1 (List.fst_mem_of_mem_zipIdx hp)
    simp [isHalf_toNat]
  rw [halvesOf, List.filter_eq_nil_iff.2 hnone]
  rfl

theorem encodingOf_brace {b : UInt8} (bs : List UInt8) (hb : b ≠ 0) :
    encodingOf (0x7b :: b :: bs) = .utf8 := by
  match bs with
  | [] => exact if_neg hb
  | [_] => rfl
  | _ :: _ :: _ => exact if_neg hb

section Braced

variable {s : String} {c : Char} {cs : List Char}

theorem encodingOf_encode (hs : s.toList = '\x7b' :: c :: cs) (hc : 0 < c.toNat ∧ c.toNat < 0x80) :
    encodingOf (Utf8.encode s).toList = .utf8 := by
  have hbyte : (UInt8.ofNat c.toNat).toNat = c.toNat :=
    UInt8.toNat_ofNat_of_lt' (Nat.lt_trans hc.2 (by decide))
  have hchar : String.utf8EncodeChar c = [UInt8.ofNat c.toNat] := by
    rw [String.utf8EncodeChar]
    exact if_pos (Nat.le_of_lt_succ hc.2)
  have hne : UInt8.ofNat c.toNat ≠ 0 := by
    intro hzero
    rw [hzero] at hbyte
    exact absurd hbyte (Nat.ne_of_lt hc.1)
  rw [Utf8.toList_encode, hs, List.flatMap_cons, List.flatMap_cons, hchar]
  exact encodingOf_brace _ hne

theorem readBytes_encode (hs : s.toList = '\x7b' :: c :: cs) (hc : 0 < c.toNat ∧ c.toNat < 0x80) :
    readBytes (Utf8.encode s) = (read s).mapError (faultOf s) := by
  have hcodes : decodeCodes (Utf8.encode s).toList = .ok (s.toList.map Char.toNat) := by
    simp only [decodeCodes, encodingOf_encode hs hc]
    rw [Utf8.toList_encode, codes8_flatMap]
    rfl
  rw [readBytes, hcodes]
  simp only [bind, Except.bind, textOfCodes_toNat, halvesOf_toNat]
  rfl

end Braced

end Json

end BuildScripts
