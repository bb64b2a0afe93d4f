import Mathlib.Logic.Function.Basic
import BuildScripts.Text.Utf8

namespace BuildScripts.Text.Utf8

theorem toList_loop (bytes : ByteArray) (i : Nat) (taken : List UInt8) :
    ByteArray.toList.loop bytes i taken = taken.reverse ++ bytes.data.toList.drop i := by
  induction i, taken using ByteArray.toList.loop.induct bytes with
  | case1 i taken hi ih =>
    have hdata : i < bytes.data.toList.length := hi
    rw [ByteArray.toList.loop, if_pos hi, ih, List.drop_eq_getElem_cons hdata, List.reverse_cons,
      List.append_assoc, List.singleton_append]
    congr 2
    rw [ByteArray.get!, getElem!_pos bytes.data i hi, Array.getElem_toList]
  | case2 i taken hi =>
    rw [ByteArray.toList.loop, if_neg hi, List.drop_eq_nil_of_le, List.append_nil]
    exact Nat.le_of_not_lt hi

theorem encode_eq (s : String) : encode s = (s.toList.flatMap String.utf8EncodeChar).toByteArray :=
  String.utf8Encode_toList.symm

theorem toList_encode (s : String) : (encode s).toList = s.toList.flatMap String.utf8EncodeChar := by
  rw [ByteArray.toList, toList_loop, encode_eq, List.toList_data_toByteArray]
  rfl

theorem encode_injective : Function.Injective encode := by
  intro s s' h
  have hd := decode_encode s
  rw [h, decode_encode s', Except.ok.injEq] at hd
  exact hd.symm

theorem decodeLossy_encode (s : String) : decodeLossy (encode s) = s := by
  have h := decode_encode s
  rw [decode] at h
  rw [decodeLossy]
  split at h
  · exact Except.ok.inj h
  · cases h

theorem continued_succ {low high b : UInt8} {count code taken : Nat} {bs : List UInt8}
    (hlow : low.toNat ≤ b.toNat) (hhigh : b.toNat ≤ high.toNat) :
    continued low high (count + 1) code taken (b :: bs) =
      continued 0x80 0xbf count (code * 0x40 + b.toNat % 0x40) (taken + 1) bs := by
  rw [continued, if_pos ⟨UInt8.le_iff_toNat_le.2 hlow, UInt8.le_iff_toNat_le.2 hhigh⟩]

theorem shape?_eq (b : UInt8) : shape? b =
    if b.toNat < 0x80 then some (0, 0x80, 0xbf)
    else if b.toNat < 0xc2 then none
    else if b.toNat < 0xe0 then some (1, 0x80, 0xbf)
    else if b.toNat = 0xe0 then some (2, 0xa0, 0xbf)
    else if b.toNat = 0xed then some (2, 0x80, 0x9f)
    else if b.toNat < 0xf0 then some (2, 0x80, 0xbf)
    else if b.toNat = 0xf0 then some (3, 0x90, 0xbf)
    else if b.toNat < 0xf4 then some (3, 0x80, 0xbf)
    else if b.toNat = 0xf4 then some (3, 0x80, 0x8f)
    else none := by
  simp only [shape?, UInt8.lt_iff_toNat_lt, ← UInt8.toNat_inj]
  rfl

theorem startBits_eq (b : UInt8) : startBits b =
    if b.toNat < 0x80 then b.toNat
    else if b.toNat < 0xe0 then b.toNat % 0x20
    else if b.toNat < 0xf0 then b.toNat % 0x10
    else b.toNat % 8 := by
  simp only [startBits, UInt8.lt_iff_toNat_lt]
  rfl

theorem isValid_toNat (c : Char) : c.toNat < 0xd800 ∨ 0xdfff < c.toNat ∧ c.toNat < 0x110000 :=
  c.valid

theorem continued_tail {b : UInt8} {count code taken : Nat} {bs : List UInt8}
    (hb : 0x80 ≤ b.toNat ∧ b.toNat ≤ 0xbf) : continued 0x80 0xbf (count + 1) code taken (b :: bs) =
      continued 0x80 0xbf count (code * 0x40 + b.toNat % 0x40) (taken + 1) bs :=
  continued_succ hb.1 hb.2

section Pieces

variable {a b c d : UInt8} {rest : List UInt8}

theorem firstPiece_one (ha : a.toNat < 0x80) :
    firstPiece a rest = (.char (Char.ofNat a.toNat), 0) := by
  rw [firstPiece, shape?_eq, if_pos ha]
  simp only [continued, startBits_eq, if_pos ha]

theorem firstPiece_two (ha : 0xc2 ≤ a.toNat ∧ a.toNat < 0xe0) (hb : 0x80 ≤ b.toNat ∧ b.toNat ≤ 0xbf) :
    firstPiece a (b :: rest) = (.char (Char.ofNat (a.toNat % 0x20 * 0x40 + b.toNat % 0x40)), 1) := by
  have hshape : shape? a = some (1, 0x80, 0xbf) := by
    rw [shape?_eq, if_neg (by omega), if_neg (by omega), if_pos ha.2]
  have hbits : startBits a = a.toNat % 0x20 := by
    rw [startBits_eq, if_neg (by omega), if_pos ha.2]
  simp only [firstPiece, hshape, hbits]
  rw [continued_tail hb, continued]

theorem firstPiece_three (ha : 0xe0 ≤ a.toNat ∧ a.toNat < 0xf0) (hb : 0x80 ≤ b.toNat ∧ b.toNat ≤ 0xbf)
    (hfirst : a.toNat = 0xe0 → 0xa0 ≤ b.toNat) (hhalf : a.toNat = 0xed → b.toNat ≤ 0x9f)
    (hc : 0x80 ≤ c.toNat ∧ c.toNat ≤ 0xbf) : firstPiece a (b :: c :: rest) =
      (.char (Char.ofNat ((a.toNat % 0x10 * 0x40 + b.toNat % 0x40) * 0x40 + c.toNat % 0x40)), 2) := by
  obtain ⟨low, high, hshape, hlow, hhigh⟩ : ∃ low high, shape? a = some (2, low, high) ∧
      low.toNat ≤ b.toNat ∧ b.toNat ≤ high.toNat := by
    rw [shape?_eq, if_neg (by omega), if_neg (by omega), if_neg (by omega)]
    by_cases h0 : a.toNat = 0xe0
    · exact ⟨0xa0, 0xbf, if_pos h0, hfirst h0, hb.2⟩
    by_cases h1 : a.toNat = 0xed
    · exact ⟨0x80, 0x9f, by rw [if_neg h0, if_pos h1], hb.1, hhalf h1⟩
    · exact ⟨0x80, 0xbf, by rw [if_neg h0, if_neg h1, if_pos ha.2], hb⟩
  have hbits : startBits a = a.toNat % 0x10 := by
    rw [startBits_eq, if_neg (by omega), if_neg (by omega), if_pos ha.2]
  simp only [firstPiece, hshape, hbits]
  rw [continued_succ hlow hhigh, continued_tail hc, continued]

theorem firstPiece_four (ha : 0xf0 ≤ a.toNat ∧ a.toNat ≤ 0xf4) (hb : 0x80 ≤ b.toNat ∧ b.toNat ≤ 0xbf)
    (hfirst : a.toNat = 0xf0 → 0x90 ≤ b.toNat) (hlast : a.toNat = 0xf4 → b.toNat ≤ 0x8f)
    (hc : 0x80 ≤ c.toNat ∧ c.toNat ≤ 0xbf) (hd : 0x80 ≤ d.toNat ∧ d.toNat ≤ 0xbf) :
    firstPiece a (b :: c :: d :: rest) = (.char (Char.ofNat (((a.toNat % 8 * 0x40 + b.toNat % 0x40) *
      0x40 + c.toNat % 0x40) * 0x40 + d.toNat % 0x40)), 3) := by
  obtain ⟨low, high, hshape, hlow, hhigh⟩ : ∃ low high, shape? a = some (3, low, high) ∧
      low.toNat ≤ b.toNat ∧ b.toNat ≤ high.toNat := by
    rw [shape?_eq, if_neg (by omega), if_neg (by omega), if_neg (by omega), if_neg (by omega),
      if_neg (by omega), if_neg (by omega)]
    by_cases h0 : a.toNat = 0xf0
    · exact ⟨0x90, 0xbf, if_pos h0, hfirst h0, hb.2⟩
    by_cases h4 : a.toNat < 0xf4
    · exact ⟨0x80, 0xbf, by rw [if_neg h0, if_pos h4], hb⟩
    · have h4 : a.toNat = 0xf4 := by omega
      exact ⟨0x80, 0x8f, by rw [if_neg h0, if_neg (by omega), if_pos h4], hb.1, hlast h4⟩
  have hbits : startBits a = a.toNat % 8 := by
    rw [startBits_eq, if_neg (by omega), if_neg (by omega), if_neg (by omega)]
  simp only [firstPiece, hshape, hbits]
  rw [continued_succ hlow hhigh, continued_tail hc, continued_tail hd, continued]

end Pieces

end BuildScripts.Text.Utf8
