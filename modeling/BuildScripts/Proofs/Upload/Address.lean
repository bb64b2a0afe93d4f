import Mathlib.Data.List.DropRight
import Mathlib.Data.List.TakeWhile
import BuildScripts.Proofs.Upload.Request

namespace BuildScripts

open BuildScripts.Text

theorem Text.toList_withoutEnd (c : Char) (s : String) :
    (withoutEnd c s).toList = s.toList.rdropWhile (· == c) :=
  String.toList_ofList

theorem rdropWhile_append_of_pos {α : Type} {p : α → Bool} {front back : List α}
    (h : ∀ a ∈ back, p a = true) : (front ++ back).rdropWhile p = front.rdropWhile p := by
  rw [List.rdropWhile, List.rdropWhile, List.reverse_append,
    List.dropWhile_append_of_pos fun a ha => h a (List.mem_reverse.1 ha)]

namespace Url

variable {s : String} {cs scheme authority rest more : List Char} {u : Url}

theorem checkCharacters_eq_ok_iff : checkCharacters cs = .ok () ↔
    cs.length ≤ longest ∧ ∀ c ∈ cs, isControl c = false := by
  rw [checkCharacters]
  split
  · rename_i hlong
    simp only [invalid, reduceCtorEq, false_iff, not_and]
    intro hshort
    omega
  · rename_i hshort
    cases hfind : cs.find? isControl with
    | none =>
      rw [List.find?_eq_none] at hfind
      simp only [Bool.not_eq_true] at hfind
      exact ⟨fun _ => ⟨Nat.le_of_not_lt hshort, hfind⟩, fun _ => rfl⟩
    | some c =>
      simp only [invalid, reduceCtorEq, false_iff]
      rintro ⟨-, hall⟩
      have hc := hall c (List.mem_of_find?_eq_some hfind)
      rw [List.find?_some hfind] at hc
      cases hc

theorem takeWhile_append_cons {p : Char → Bool} {front back : List Char} {c : Char}
    (hfront : ∀ a ∈ front, p a = true) (hc : p c = false) :
    (front ++ c :: back).takeWhile p = front := by
  rw [List.takeWhile_append_of_pos hfront, List.takeWhile_cons_of_neg (by simp [hc]), List.append_nil]

theorem cutScheme_append (h : cutScheme cs = (scheme, rest)) (hne : scheme ≠ []) :
    cs = scheme ++ ':' :: rest ∧ ∀ more, cutScheme (scheme ++ ':' :: more) = (scheme, more) := by
  obtain ⟨p, hp⟩ : ∃ p : Char → Bool, p = fun c => c.isAlphanum || "+.-".toList.contains c := ⟨_, rfl⟩
  have hcolon : p ':' = false := by
    rw [hp]
    decide
  have hall : ∀ c ∈ cs.takeWhile p, p c = true := fun c hc => List.mem_takeWhile_imp hc
  simp only [cutScheme, ← hp] at h ⊢
  split at h
  · cases h
    exact absurd rfl hne
  · rename_i rest' a t hdrop ht
    split at h
    · rename_i halpha
      cases h
      refine ⟨?_, fun more => ?_⟩
      · rw [← hdrop]
        exact (List.prefix_iff_eq_append.1 (List.takeWhile_prefix p)).symm
      · rw [takeWhile_append_cons hall hcolon, List.drop_left, ht]
        exact if_pos halpha
    · cases h
      exact absurd rfl hne
  · cases h
    exact absurd rfl hne

theorem cutAuthority_append (h : cutAuthority cs = (authority, rest)) (hne : authority ≠ []) :
    cs = '/' :: '/' :: (authority ++ rest) ∧ '/' ∉ authority ∧
      ∀ more, cutAuthority ('/' :: '/' :: (authority ++ '/' :: more)) = (authority, '/' :: more) := by
  obtain ⟨p, hp⟩ : ∃ p : Char → Bool, p = fun c => !"/?#".toList.contains c := ⟨_, rfl⟩
  have hslash : p '/' = false := by
    rw [hp]
    decide
  rw [cutAuthority.eq_def] at h
  split at h
  · rename_i cs'
    simp only [← hp] at h
    cases h
    have hall : ∀ c ∈ cs'.takeWhile p, p c = true := fun c hc => List.mem_takeWhile_imp hc
    refine ⟨?_, fun hmem => ?_, fun more => ?_⟩
    · rw [List.prefix_iff_eq_append.1 (List.takeWhile_prefix p)]
    · rw [hall _ hmem] at hslash
      cases hslash
    · simp only [cutAuthority, ← hp, takeWhile_append_cons hall hslash, List.drop_left]
  · cases h
    exact absurd rfl hne

theorem read_of_cut (hscheme : cutScheme s.toList = (scheme, cs))
    (hauthority : cutAuthority cs = (authority, rest)) (hrest : ∀ c ∈ rest, c ≠ '?' ∧ c ≠ '#') :
    read s = do
      checkCharacters s.toList
      let (userInfo, hostPort) := cutUserInfo authority
      let (host, portPart) := cutHost hostPort
      let userInfo := escape staysInUserInfo userInfo
      let host ← readHost host
      let port ← readPort (String.ofList scheme) (portText portPart)
      let hasScheme := !scheme.isEmpty
      let hasAuthority := !userInfo.isEmpty || !host.isEmpty || port.isSome
      checkPath hasScheme hasAuthority rest
      let path := if hasScheme || hasAuthority then normalPath rest else rest
      return ⟨String.ofList (scheme.map Double.lowerAscii), userInfo, host, port, escape staysInPath path,
        none, none⟩ := by
  have htake : rest.takeWhile (fun c => c != '?' && c != '#') = rest := by
    rw [List.takeWhile_eq_self_iff]
    intro c hc
    simpa using hrest c hc
  simp only [read, hscheme, hauthority, htake, List.drop_length, cutMarked, Option.map_none]

theorem unescapedBytes_of_plain (h : '%' ∉ cs) :
    unescapedBytes 0 cs = cs.flatMap String.utf8EncodeChar := by
  induction cs with
  | nil => rfl
  | cons c cs ih =>
    rw [List.mem_cons, not_or] at h
    rw [unescapedBytes, ih h.2, Utf8.toList_encode, String.toList_ofList, ← List.flatMap_append,
      List.singleton_append]
    rintro a b bs rfl -
    exact h.1 rfl

theorem unescape_of_plain (h : '%' ∉ s.toList) : unescape s = s := by
  rw [unescape, unescapedBytes_of_plain h, ← Utf8.encode_eq, Utf8.decodeLossy_encode]

def beyondServer (s : String) : List Char :=
  (cutAuthority (cutScheme s.toList).2).2

theorem withoutEnd_server (hs : s.toList = scheme ++ ':' :: '/' :: '/' :: (authority ++ rest))
    (hne : authority ≠ []) (hslash : '/' ∉ authority) (hrest : ∀ c ∈ rest, c = '/') :
    (withoutEnd '/' s).toList = scheme ++ ':' :: '/' :: '/' :: authority := by
  obtain ⟨front, last, rfl⟩ := authority.eq_nil_or_concat'.resolve_left hne
  have hlast : last ≠ '/' := by
    rintro rfl
    exact hslash (by simp)
  have hassoc : scheme ++ ':' :: '/' :: '/' :: (front ++ [last] ++ rest) =
      scheme ++ ':' :: '/' :: '/' :: front ++ [last] ++ rest := by simp
  rw [toList_withoutEnd, hs, hassoc, rdropWhile_append_of_pos (by simpa using hrest),
    List.rdropWhile_concat_neg _ _ _ (by simpa using hlast)]
  simp

theorem cut_uploads (hscheme : cutScheme s.toList = (scheme, cs)) (hscheme_ne : scheme ≠ [])
    (hauthority : cutAuthority cs = (authority, rest)) (hauthority_ne : authority ≠ [])
    (hrest : ∀ c ∈ rest, c = '/') :
    cutScheme (withoutEnd '/' s ++ Client.uploadPath).toList =
        (scheme, '/' :: '/' :: (authority ++ Client.uploadPath.toList)) ∧
      cutAuthority ('/' :: '/' :: (authority ++ Client.uploadPath.toList)) =
        (authority, Client.uploadPath.toList) := by
  obtain ⟨hcs, hscheme'⟩ := cutScheme_append hscheme hscheme_ne
  obtain ⟨rfl, hslash, hauthority'⟩ := cutAuthority_append hauthority hauthority_ne
  constructor
  · rw [String.toList_append, withoutEnd_server hcs hauthority_ne hslash hrest, List.append_assoc]
    exact hscheme' _
  · have hpath : Client.uploadPath.toList = '/' :: "api/scripts/upload".toList := by decide
    rw [hpath]
    exact hauthority' _

theorem checkCharacters_uploads (h : checkCharacters s.toList = .ok ())
    (hlength : s.length + Client.uploadPath.length ≤ longest) :
    checkCharacters (withoutEnd '/' s ++ Client.uploadPath).toList = .ok () := by
  obtain ⟨-, hcontrol⟩ := checkCharacters_eq_ok_iff.1 h
  have hfront : (withoutEnd '/' s).toList <+: s.toList := by
    rw [toList_withoutEnd]
    exact List.rdropWhile_prefix _ _
  have hpath : Client.uploadPath.toList.all (!isControl ·) = true := by decide
  rw [checkCharacters_eq_ok_iff, String.toList_append, List.length_append]
  refine ⟨(Nat.add_le_add_right hfront.length_le _).trans hlength, fun c hc => ?_⟩
  rcases List.mem_append.1 hc with hc | hc
  · exact hcontrol c (hfront.subset hc)
  · simpa using List.all_eq_true.1 hpath c hc

theorem read_uploads (hread : read s = .ok u) (habsolute : u.isAbsolute = true)
    (hbeyond : ∀ c ∈ beyondServer s, c = '/')
    (hlength : s.length + Client.uploadPath.length ≤ longest) :
    read (withoutEnd '/' s ++ Client.uploadPath) = .ok { u with path := Client.uploadPath } := by
  -- Both addresses are cut at the same places, so they differ only in what is read of the rest.
  obtain ⟨scheme, cs, hscheme⟩ : ∃ scheme cs, cutScheme s.toList = (scheme, cs) := ⟨_, _, rfl⟩
  obtain ⟨authority, rest, hauthority⟩ : ∃ authority rest, cutAuthority cs = (authority, rest) :=
    ⟨_, _, rfl⟩
  have hrest : ∀ c ∈ rest, c = '/' := by
    simpa only [beyondServer, hscheme, hauthority] using hbeyond
  have hmarks : ∀ c ∈ rest, c ≠ '?' ∧ c ≠ '#' := by
    intro c hc
    rw [hrest c hc]
    decide
  rw [read_of_cut hscheme hauthority hmarks] at hread
  cases hchars : checkCharacters s.toList with
  | error f => simp only [hchars, bind, Except.bind, reduceCtorEq] at hread
  | ok _ =>
  cases hhost : readHost (cutHost (cutUserInfo authority).2).1 with
  | error f => simp only [hchars, hhost, bind, Except.bind, reduceCtorEq] at hread
  | ok host =>
  cases hport : readPort (String.ofList scheme) (portText (cutHost (cutUserInfo authority).2).2) with
  | error f => simp only [hchars, hhost, hport, bind, Except.bind, reduceCtorEq] at hread
  | ok port =>
  simp only [hchars, hhost, hport, bind, Except.bind] at hread
  split at hread
  · cases hread
  cases hread
  rw [isAbsolute, Bool.and_eq_true] at habsolute
  have hscheme_ne : scheme ≠ [] := by
    rintro rfl
    exact absurd habsolute.1 Bool.false_ne_true
  have hauthority_ne : authority ≠ [] := by
    rintro rfl
    have hempty : readHost (cutHost (cutUserInfo []).2).1 = .ok "" := rfl
    rw [hempty] at hhost
    cases hhost
    exact absurd habsolute.2 Bool.false_ne_true
  obtain ⟨hscheme', hauthority'⟩ := cut_uploads hscheme hscheme_ne hauthority hauthority_ne hrest
  have hmarks' : ∀ c ∈ Client.uploadPath.toList, c ≠ '?' ∧ c ≠ '#' := by
    have hplain : Client.uploadPath.toList.all (fun c => c != '?' && c != '#') = true := by decide
    simpa using hplain
  have hnamed : scheme.isEmpty = false := by simpa using hscheme_ne
  have hpath (named : Bool) : checkPath true named Client.uploadPath.toList = .ok () := by
    cases named <;> rfl
  have hnormal : escape staysInPath (normalPath Client.uploadPath.toList) = Client.uploadPath := by
    decide
  rw [read_of_cut hscheme' hauthority' hmarks', checkCharacters_uploads hchars hlength]
  simp only [hhost, hport, bind, Except.bind, hnamed, Bool.not_false, Bool.true_or, if_true, hpath, hnormal]
  rfl

end Url

theorem Client.reaches_of_server {c : Client} {s : String} {u : Url} (hbase : c.baseUrl = .text s)
    (hread : Url.read s = .ok u) (habsolute : u.isAbsolute = true)
    (hbeyond : ∀ ch ∈ Url.beyondServer s, ch = '/')
    (hlength : s.length + uploadPath.length ≤ Url.longest)
    (huser : c.apiKey.truthy = true → u.basicAuthorization? = none) :
    c.Reaches { u with path := uploadPath } where
  address := by
    have htruthy : c.baseUrl.truthy = true := by
      rw [hbase, Value.truthy, Bool.not_eq_true', ← Bool.not_eq_true, String.isEmpty_iff]
      rintro rfl
      cases hread
      cases habsolute
    refine ⟨withoutEnd '/' s ++ uploadPath, ?_, Url.read_uploads hread habsolute hbeyond hlength⟩
    rw [address, if_pos htruthy, hbase]
  isAbsolute := habsolute
  path := by
    have hplain : '%' ∉ uploadPath.toList := by decide
    exact Url.unescape_of_plain hplain
  noUser := huser

end BuildScripts
