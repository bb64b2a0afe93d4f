import Mathlib.Data.Nat.Digits.Lemmas
import BuildScripts.Json.Printer
import BuildScripts.Json.Reader

namespace BuildScripts

open BuildScripts.Text

namespace Text

/-! ### Digits -/

theorem digit_digitChar {d : Nat} (h : d < 10) : asciiDigit? (digitChar d) = some d := by
  have hall : ∀ d < 10, asciiDigit? (digitChar d) = some d := by decide
  exact hall d h

theorem hexDigit_digitChar {d : Nat} (h : d < 16) : hexDigit? (digitChar d) = some d := by
  have hall : ∀ d < 16, hexDigit? (digitChar d) = some d := by decide
  exact hall d h

theorem digitsOnto_eq {fuel n : Nat} (hfuel : n < fuel) (hn : 0 < n) (acc : List Char) :
    digitsOnto 10 fuel n acc = (Nat.digits 10 n).reverse.map digitChar ++ acc := by
  induction fuel generalizing n acc with
  | zero => exact absurd hfuel (Nat.not_lt_zero n)
  | succ fuel ih =>
    rw [digitsOnto, Nat.digits_def' (by decide) hn]
    by_cases hlt : n < 10
    · rw [if_pos hlt, Nat.mod_eq_of_lt hlt, Nat.div_eq_of_lt hlt]
      rfl
    · rw [if_neg hlt, ih (by omega) (by omega), List.reverse_cons, List.map_append, List.append_assoc]
      rfl

theorem toList_decimal {n : Nat} (hn : 0 < n) :
    (decimal n).toList = (Nat.digits 10 n).reverse.map digitChar := by
  rw [decimal, digitsOnto_eq (Nat.lt_succ_self n) hn, List.append_nil, String.toList_ofList]

theorem ofDigits_reverse (b : Nat) (ds : List Nat) : ofDigits b ds.reverse = Nat.ofDigits b ds := by
  rw [ofDigits, List.foldl_reverse, Nat.ofDigits_eq_foldr]
  congr
  funext d n
  rw [Nat.cast_id, Nat.mul_comm, Nat.add_comm]

theorem exists_decimal (n : Nat) : ∃ d ds, (decimal n).toList = (d :: ds).map digitChar ∧
    (∀ x ∈ d :: ds, x < 10) ∧ ofDigits 10 (d :: ds) = n ∧ (d = 0 → ds = []) ∧
      ∀ k, 0 < k → n < 10 ^ k → (d :: ds).length ≤ k := by
  by_cases hn : 0 < n
  · have hne : (Nat.digits 10 n).reverse ≠ [] := by
      rw [Ne, List.reverse_eq_nil_iff]
      exact Nat.digits_ne_nil_iff_ne_zero.2 hn.ne'
    obtain ⟨d, ds, hds⟩ := List.exists_cons_of_ne_nil hne
    refine ⟨d, ds, hds ▸ toList_decimal hn, ?_, ?_, ?_, ?_⟩
    · intro x hx
      rw [← hds, List.mem_reverse] at hx
      exact Nat.digits_lt_base (by decide) hx
    · rw [← hds, ofDigits_reverse, Nat.ofDigits_digits]
    · rintro rfl
      have hlast := Nat.getLast_digit_ne_zero 10 hn.ne'
      rw [← List.head_reverse hne] at hlast
      simp [hds] at hlast
    · intro k _ hk
      rw [← hds, List.length_reverse]
      exact (Nat.digits_length_le_iff (by decide) n).2 hk
  · obtain rfl : n = 0 := by omega
    refine ⟨0, [], by rfl, by simp, by rfl, fun _ => rfl, fun k hk _ => hk⟩

theorem hexDigits_four {n : Nat} : hexDigits 4 n = [digitChar (n / 16 / 16 / 16 % 16),
    digitChar (n / 16 / 16 % 16), digitChar (n / 16 % 16), digitChar (n % 16)] := rfl

end Text

namespace Json

def Token.Reads (t : Token) (cs rest : List Char) : Prop :=
  ∀ pos, tokensFrom [] 0 pos (cs ++ rest) = ⟨t, pos⟩ :: tokensFrom [] 0 (pos + cs.length) rest

/-! ### One token -/

section Reads

variable {t : Token} {c : Char} {cs rest : List Char}

theorem tokensFrom_append (cs rest : List Char) (pos : Nat) :
    tokensFrom [] cs.length pos (cs ++ rest) = tokensFrom [] 0 (pos + cs.length) rest := by
  induction cs generalizing pos with
  | nil => rfl
  | cons c cs ih =>
    rw [List.length_cons, List.cons_append, tokensFrom, ih]
    congr 1
    omega

theorem reads_of_readToken (hc : isSpace c = false)
    (h : ∀ pos, readToken [] pos c (cs ++ rest) = (t, cs.length + 1)) : t.Reads (c :: cs) rest := by
  intro pos
  rw [List.cons_append, tokensFrom, hc]
  simp only [h, Bool.false_eq_true, if_false, Nat.add_sub_cancel]
  rw [tokensFrom_append]
  congr 2
  rw [List.length_cons]
  omega

theorem reads_punctuation (h : punctuation? c = some t) (rest : List Char) : t.Reads [c] rest := by
  refine reads_of_readToken ?_ fun pos => ?_
  · rw [punctuation?.eq_def] at h
    split at h
    case h_7 => cases h
    all_goals rfl
  · rw [readToken, h]
    rfl

theorem reads_null (rest : List Char) : (Token.scalar .null).Reads "null".toList rest :=
  reads_of_readToken rfl fun _ => rfl

theorem reads_bool (b : Bool) (rest : List Char) :
    (Token.scalar (.bool b)).Reads (if b then "true" else "false").toList rest := by
  cases b
  · exact reads_of_readToken rfl fun _ => rfl
  · exact reads_of_readToken rfl fun _ => rfl

end Reads

/-! ### Texts -/

section Texts

variable {c : Char} {start pos : Nat} {acc : List Nat} {cs rest : List Char}

theorem readText_append (halves : Halves) (cs rest : List Char) :
    readText halves start cs.length pos acc (cs ++ rest) =
      readText halves start 0 (pos + cs.length) acc rest := by
  induction cs generalizing pos with
  | nil => rfl
  | cons c cs ih =>
    rw [List.length_cons, List.cons_append, readText, ih]
    congr 1
    omega

theorem hexValue?_hexDigits {n : Nat} (h : n < 0x10000) : hexValue? (hexDigits 4 n) = some n := by
  rw [hexDigits_four, hexValue?]
  simp only [List.mapM_cons, List.mapM_nil, hexDigit_digitChar (Nat.mod_lt _ (by decide)),
    Option.pure_def, Option.bind_eq_bind, Option.bind_some, ofDigits, List.foldl_cons, List.foldl_nil]
  congr 1
  omega

theorem readEscape_hexDigits {n : Nat} (hn : n < 0x20) (hrest : rest ≠ []) :
    readEscape start pos ('u' :: (hexDigits 4 n ++ rest)) = .code n 5 := by
  have hhex := hexValue?_hexDigits (n := n) (by omega)
  have hhalf : isHighHalf n = false := by
    rw [isHighHalf, Bool.and_eq_false_iff, decide_eq_false_iff_not]
    exact .inl (by omega)
  rw [hexDigits_four] at hhex ⊢
  simp only [List.cons_append, List.nil_append, readEscape, unicodeEscape]
  rw [if_neg (by simp [hrest]), hhex]
  simp only [hhalf, Bool.false_eq_true, if_false]

theorem readText_escapedChar (c : Char) (hrest : rest ≠ []) :
    readText [] start 0 pos acc (escapedChar c ++ rest) =
      readText [] start 0 (pos + (escapedChar c).length) (c.toNat :: acc) rest := by
  rw [escapedChar.eq_def]
  split
  -- The other cases are escapes of two characters.
  case h_8 hquote hslash _ _ _ _ _ =>
    split
    · rename_i hlow
      rw [List.cons_append, List.cons_append, readText, if_neg (by decide), if_pos rfl,
        readEscape_hexDigits hlow hrest]
      exact readText_append [] ('u' :: hexDigits 4 c.toNat) rest
    · rename_i hlow
      rw [List.singleton_append, readText, if_neg hquote, if_neg hslash, if_neg (by omega)]
      rfl
  all_goals rfl

theorem readText_flatMap (cs rest : List Char) :
    readText [] start 0 pos acc (cs.flatMap escapedChar ++ '"' :: rest) =
      (.text (acc.reverse ++ cs.map Char.toNat),
        pos + (cs.flatMap escapedChar).length + 1 - start) := by
  induction cs generalizing pos acc with
  | nil =>
    rw [List.flatMap_nil, List.nil_append, readText, if_pos rfl, List.map_nil, List.append_nil]
    rfl
  | cons c cs ih =>
    rw [List.flatMap_cons, List.append_assoc, readText_escapedChar c (by simp), ih,
      List.reverse_cons, List.append_assoc, List.length_append, Nat.add_assoc pos]
    rfl

theorem reads_text (s : String) (rest : List Char) :
    (Token.text (s.toList.map Char.toNat)).Reads (textLiteral s).toList rest := by
  rw [textLiteral, String.toList_ofList, List.cons_append]
  refine reads_of_readToken rfl fun pos => ?_
  have hquote : readToken [] pos '"' (s.toList.flatMap escapedChar ++ ['"'] ++ rest) =
      readText [] pos 0 (pos + 1) [] (s.toList.flatMap escapedChar ++ '"' :: rest) := by
    rw [List.append_assoc]
    rfl
  rw [hquote, readText_flatMap, List.length_append, List.length_singleton]
  congr 1
  omega

end Texts

/-! ### Numbers -/

def EndsNumber (rest : List Char) : Prop :=
  ∀ c cs, rest = c :: cs → asciiDigit? c = none ∧ c ≠ '.' ∧ c ≠ 'e' ∧ c ≠ 'E'

section Numbers

variable {d n : Nat} {ds : List Nat} {rest : List Char}

theorem endsNumber_nil : EndsNumber [] := by
  intro c cs h
  cases h

theorem endsNumber_cons {c : Char} (h : asciiDigit? c = none ∧ c ≠ '.' ∧ c ≠ 'e' ∧ c ≠ 'E')
    (cs : List Char) : EndsNumber (c :: cs) := by
  intro c' cs' hc
  cases hc
  exact h

theorem fractionPart_of_ends (h : EndsNumber rest) : fractionPart rest = ([], rest) := by
  rw [fractionPart.eq_def]
  split
  · exact absurd rfl (h _ _ rfl).2.1
  · rfl

theorem exponentPart_of_ends (h : EndsNumber rest) : exponentPart rest = [] := by
  cases rest with
  | nil => rfl
  | cons c cs =>
    obtain ⟨-, -, he, hE⟩ := h c cs rfl
    exact if_neg (not_or.2 ⟨he, hE⟩)

theorem digitsOf_append (hds : ∀ x ∈ ds, x < 10) (h : EndsNumber rest) :
    digitsOf (ds.map digitChar ++ rest) = (ds.map digitChar, rest) := by
  have hdigits : ∀ c ∈ ds.map digitChar, (asciiDigit? c).isSome = true := by
    intro c hc
    obtain ⟨x, hx, rfl⟩ := List.mem_map.1 hc
    rw [digit_digitChar (hds x hx)]
    rfl
  have hstop : rest.takeWhile (asciiDigit? · |>.isSome) = [] ∧
      rest.dropWhile (asciiDigit? · |>.isSome) = rest := by
    cases rest with
    | nil => exact ⟨rfl, rfl⟩
    | cons c cs => simp [(h c cs rfl).1]
  rw [digitsOf, List.takeWhile_append_of_pos hdigits, List.dropWhile_append_of_pos hdigits, hstop.1,
    hstop.2, List.append_nil]

theorem wholePart_append (hds : ∀ x ∈ d :: ds, x < 10) (hzero : d = 0 → ds = [])
    (h : EndsNumber rest) : wholePart ((d :: ds).map digitChar ++ rest) =
      ((d :: ds).map digitChar, rest) := by
  by_cases hd : d = 0
  · rw [hd, hzero hd]
    rfl
  · have hne : digitChar d ≠ '0' := by
      intro heq
      have hsome := digit_digitChar (hds d List.mem_cons_self)
      rw [heq] at hsome
      exact hd (Option.some.inj hsome).symm
    rw [← digitsOf_append hds h, List.map_cons, List.cons_append, wholePart.eq_def]
    split
    · rename_i heq
      exact absurd (List.cons.inj heq).1 hne
    · rfl

theorem natOf_digits (hds : ∀ x ∈ ds, x < 10) : natOf (ds.map digitChar) = ofDigits 10 ds := by
  rw [natOf, List.filterMap_map]
  congr 1
  have hsome : ∀ x ∈ ds, (asciiDigit? ∘ digitChar) x = some x := fun x hx => digit_digitChar (hds x hx)
  rw [List.filterMap_congr hsome, List.filterMap_some]

theorem readNumber_whole {body whole : List Char} (hwhole : whole ≠ [])
    (hbody : wholePart body = (whole, rest)) (h : EndsNumber rest) :
    (body.head? ≠ some '-' → readNumber body = some (integer false whole, whole.length)) ∧
      readNumber ('-' :: body) = some (integer true whole, whole.length + 1) := by
  obtain ⟨c, cs, rfl⟩ := List.exists_cons_of_ne_nil hwhole
  constructor
  · intro hhead
    rw [readNumber]
    · simp only [hbody, fractionPart_of_ends h, exponentPart_of_ends h]
      simp
    · rintro more rfl
      exact hhead rfl
  · rw [readNumber]
    simp only [hbody, fractionPart_of_ends h, exponentPart_of_ends h]
    simp [Nat.add_comm]

theorem readWord_digit (hd : d < 10) (cs : List Char) : isSpace (digitChar d) = false ∧
    punctuation? (digitChar d) = none ∧ digitChar d ≠ '"' ∧ digitChar d ≠ '-' ∧
      readWord (digitChar d :: cs) = none ∧ readWord ('-' :: digitChar d :: cs) = none := by
  have hcases : d = 0 ∨ d = 1 ∨ d = 2 ∨ d = 3 ∨ d = 4 ∨ d = 5 ∨ d = 6 ∨ d = 7 ∨ d = 8 ∨ d = 9 := by
    omega
  rcases hcases with rfl | rfl | rfl | rfl | rfl | rfl | rfl | rfl | rfl | rfl
  all_goals exact ⟨rfl, rfl, by decide, by decide, rfl, rfl⟩

theorem reads_int {i : Int} (hi : i.natAbs < 10 ^ longest) (h : EndsNumber rest) :
    (Token.scalar (.int i)).Reads (signedDecimal i).toList rest := by
  obtain ⟨d, ds, hdecimal, hds, hvalue, hzero, hlength⟩ := exists_decimal i.natAbs
  have hwhole : (d :: ds).map digitChar ≠ [] := List.cons_ne_nil _ _
  obtain ⟨hplain, hsigned⟩ := readNumber_whole hwhole (wholePart_append hds hzero h) h
  have hshort : ¬ longest < ((d :: ds).map digitChar).length := by
    have hle := hlength longest (by decide) hi
    rw [List.length_map]
    omega
  have hinteger (negative : Bool) : integer negative ((d :: ds).map digitChar) =
      .scalar (.int (if negative then -Int.ofNat i.natAbs else Int.ofNat i.natAbs)) := by
    rw [integer, if_neg hshort, natOf_digits hds, hvalue]
  obtain ⟨hspace, hpunctuation, hquote, hsign, hword, hsignedWord⟩ :=
    readWord_digit (hds d List.mem_cons_self) (ds.map digitChar ++ rest)
  cases i with
  | ofNat n =>
    have htext : (signedDecimal (.ofNat n)).toList = digitChar d :: ds.map digitChar := hdecimal
    rw [htext]
    refine reads_of_readToken hspace fun pos => ?_
    rw [readToken, hpunctuation]
    simp only [if_neg hquote, hword]
    rw [← List.cons_append, ← List.map_cons, Option.orElse_none,
      hplain (by simpa using hsign), hinteger]
    simp
  | negSucc n =>
    have htext : (signedDecimal (.negSucc n)).toList = '-' :: (d :: ds).map digitChar := by
      rw [signedDecimal, String.toList_append, ← hdecimal]
      rfl
    rw [htext]
    refine reads_of_readToken rfl fun pos => ?_
    have hminus : readToken [] pos '-' ((d :: ds).map digitChar ++ rest) =
        ((readWord ('-' :: digitChar d :: (ds.map digitChar ++ rest))).orElse fun _ =>
          readNumber ('-' :: ((d :: ds).map digitChar ++ rest))).getD (.unknown, 1) := rfl
    rw [hminus, hsignedWord, Option.orElse_none, hsigned, hinteger]
    rfl

end Numbers

end Json

end BuildScripts
