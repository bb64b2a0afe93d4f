import BuildScripts.Text.Lines
import Mathlib.Data.List.Basic

namespace BuildScripts.Text

theorem dropReturn_cons (c : Char) (cs : List Char) :
    dropReturn (c :: cs) = if c = '\r' ∧ cs = [] then [] else c :: dropReturn cs := by
  cases cs with
  | nil =>
    by_cases hc : c = '\r'
    · simp [hc, dropReturn]
    · simp [hc, dropReturn]
  | cons d ds =>
    rw [if_neg (by simp), dropReturn]
    simp

theorem dropReturn_of_not_mem {cs : List Char} (h : '\r' ∉ cs) : dropReturn cs = cs := by
  induction cs with
  | nil => rfl
  | cons c cs ih =>
    simp only [List.mem_cons, not_or] at h
    rw [dropReturn_cons, if_neg (fun hc => h.1 hc.1.symm), ih h.2]

theorem splitLines_cons_of_ne {c : Char} (hc : c ≠ '\n') (cs : List Char) :
    splitLines (c :: cs) =
      match splitLines cs with
      | [] => [[c]]
      | l :: ls => (c :: l) :: ls := by
  rewrite [splitLines]
  · cases splitLines cs <;> rfl
  · simpa using hc

theorem head_splitLines {c : Char} (hc : c ≠ '\n') {cs l : List Char} {ls : List (List Char)}
    (h : splitLines (c :: cs) = l :: ls) : l ≠ [] := by
  rw [splitLines_cons_of_ne hc] at h
  cases hs : splitLines cs with
  | nil =>
    simp only [hs, List.cons.injEq] at h
    simp [← h.1]
  | cons m ms =>
    simp only [hs, List.cons.injEq] at h
    simp [← h.1]

theorem mem_of_mem_splitOn {α : Type} [DecidableEq α] {a x : α} {xs l : List α}
    (hl : l ∈ xs.splitOn a) (hx : x ∈ l) : x ∈ xs := by
  induction xs generalizing l with
  | nil =>
    rw [List.splitOn_nil, List.mem_singleton] at hl
    exact hl ▸ hx
  | cons y ys ih =>
    rw [List.splitOn_cons_eq_if_modifyHead] at hl
    split at hl
    · rcases List.mem_cons.1 hl with rfl | hl
      · cases hx
      · exact List.mem_cons_of_mem _ (ih hl hx)
    · cases hs : ys.splitOn a with
      | nil => exact absurd hs (List.splitOn_ne_nil _ _)
      | cons m ms =>
        rw [hs, List.modifyHead_cons] at hl
        rcases List.mem_cons.1 hl with rfl | hl
        · rcases List.mem_cons.1 hx with rfl | hx
          · simp
          · exact List.mem_cons_of_mem _ (ih (by simp [hs]) hx)
        · exact List.mem_cons_of_mem _ (ih (by simp [hs, hl]) hx)

theorem not_mem_of_mem_splitOn {α : Type} [DecidableEq α] {a : α} {xs l : List α}
    (hl : l ∈ xs.splitOn a) : a ∉ l := by
  induction xs generalizing l with
  | nil =>
    rw [List.splitOn_nil, List.mem_singleton] at hl
    subst hl
    exact List.not_mem_nil
  | cons y ys ih =>
    rw [List.splitOn_cons_eq_if_modifyHead] at hl
    by_cases hy : y = a
    · rw [if_pos (by simpa using hy), List.mem_cons] at hl
      rcases hl with rfl | hl
      · exact List.not_mem_nil
      · exact ih hl
    · rw [if_neg (by simpa using hy)] at hl
      cases hs : ys.splitOn a with
      | nil => exact absurd hs (List.splitOn_ne_nil _ _)
      | cons m ms =>
        rw [hs, List.modifyHead_cons, List.mem_cons] at hl
        rcases hl with rfl | hl
        · have hm := ih (l := m) (by simp [hs])
          simp [Ne.symm hy, hm]
        · exact ih (by simp [hs, hl])

theorem splitOn_return_cons {c : Char} (cs : List Char) : (c :: cs).splitOn '\r' =
    if c = '\r' then [] :: cs.splitOn '\r' else (cs.splitOn '\r').modifyHead (c :: ·) := by
  rw [List.splitOn_cons_eq_if_modifyHead]
  simp

theorem splitLines_unifyEnds (cs : List Char) : splitLines (unifyEnds cs) =
    (splitLines cs).flatMap fun l => (dropReturn l).splitOn '\r' := by
  fun_induction unifyEnds cs with
  | case1 => rfl
  | case2 cs ih =>
    rw [splitLines_line_feed, ih, splitLines_cons_of_ne (by decide), splitLines_line_feed]
    simp [dropReturn, List.splitOn_nil]
  | case3 cs hne ih =>
    rw [splitLines_line_feed, ih, splitLines_cons_of_ne (by decide)]
    cases hs : splitLines cs with
    | nil => simp [dropReturn, List.splitOn_nil]
    | cons l ls =>
      have hl : l ≠ [] := by
        cases cs with
        | nil => simp [splitLines] at hs
        | cons c cs => exact head_splitLines (fun hc => hne cs (by rw [hc])) hs
      simp [dropReturn_cons, hl, splitOn_return_cons]
  | case4 c cs h1 h2 ih =>
    have hr : c ≠ '\r' := fun hc => h2 hc
    by_cases hc : c = '\n'
    · subst hc
      simp [splitLines_line_feed, ih, dropReturn, List.splitOn_nil]
    · rw [splitLines_cons_of_ne hc, splitLines_cons_of_ne hc, ih]
      cases hs : splitLines cs with
      | nil => simp [dropReturn_cons, hr, dropReturn, splitOn_return_cons, List.splitOn_nil]
      | cons l ls =>
        simp only [List.flatMap_cons, dropReturn_cons, hr, false_and, if_false,
          splitOn_return_cons]
        cases hp : (dropReturn l).splitOn '\r' with
        | nil => exact absurd hp (List.splitOn_ne_nil _ _)
        | cons p ps => simp

theorem not_mem_unifyEnds (cs : List Char) : '\r' ∉ unifyEnds cs := by
  fun_induction unifyEnds cs with
  | case1 => simp
  | case2 cs ih => simpa using ih
  | case3 cs hne ih => simpa using ih
  | case4 c cs h1 h2 ih =>
    simp only [List.mem_cons, not_or]
    exact ⟨fun hc => h2 hc.symm, ih⟩

theorem subset_of_mem_splitLines {cs l : List Char} (h : l ∈ splitLines cs) : l ⊆ cs := by
  induction cs generalizing l with
  | nil => simp [splitLines] at h
  | cons c cs ih =>
    by_cases hc : c = '\n'
    · subst hc
      rw [splitLines_line_feed, List.mem_cons] at h
      rcases h with rfl | h
      · simp
      · exact List.subset_cons_of_subset _ (ih h)
    · rw [splitLines_cons_of_ne hc] at h
      cases hs : splitLines cs with
      | nil =>
        simp only [hs, List.mem_singleton] at h
        simp [h]
      | cons m ms =>
        simp only [hs, List.mem_cons] at h
        rcases h with rfl | h
        · exact List.cons_subset_cons _ (ih (by simp [hs]))
        · exact List.subset_cons_of_subset _ (ih (by simp [hs, h]))

theorem feed_not_mem_of_mem_splitLines {cs l : List Char} (h : l ∈ splitLines cs) : '\n' ∉ l := by
  induction cs generalizing l with
  | nil => simp [splitLines] at h
  | cons c cs ih =>
    by_cases hc : c = '\n'
    · subst hc
      rw [splitLines_line_feed, List.mem_cons] at h
      rcases h with rfl | h
      · simp
      · exact ih h
    · rw [splitLines_cons_of_ne hc] at h
      cases hs : splitLines cs with
      | nil =>
        simp only [hs, List.mem_singleton] at h
        simp [h, Ne.symm hc]
      | cons m ms =>
        simp only [hs, List.mem_cons] at h
        rcases h with rfl | h
        · simpa [Ne.symm hc] using ih (by simp [hs])
        · exact ih (by simp [hs, h])

theorem unifyEnds_of_not_mem {cs : List Char} (h : '\r' ∉ cs) : unifyEnds cs = cs := by
  fun_induction unifyEnds cs with
  | case1 => rfl
  | case2 => simp at h
  | case3 => simp at h
  | case4 c cs _ _ ih => rw [ih fun hm => h (List.mem_cons_of_mem _ hm)]

theorem unifyLineEnds_of_not_mem {text : String} (h : '\r' ∉ text.toList) :
    unifyLineEnds text = text := by
  rw [unifyLineEnds, unifyEnds_of_not_mem h, String.ofList_toList]

theorem not_mem_of_mem_physicalLines {text line : String}
    (h : line ∈ physicalLines (unifyLineEnds text)) : '\r' ∉ line.toList ∧ '\n' ∉ line.toList := by
  obtain ⟨l, hl, rfl⟩ := List.mem_map.1 h
  have hl' : l ∈ splitLines (unifyEnds text.toList) := by
    rwa [unifyLineEnds, String.toList_ofList] at hl
  have hreturn : '\r' ∉ l := fun hm => not_mem_unifyEnds _ (subset_of_mem_splitLines hl' hm)
  rw [String.toList_ofList, dropReturn_of_not_mem hreturn]
  exact ⟨hreturn, feed_not_mem_of_mem_splitLines hl'⟩

def cutAtReturns (line : String) : List String :=
  (line.toList.splitOn '\r').map String.ofList

theorem physicalLines_unifyLineEnds (text : String) :
    physicalLines (unifyLineEnds text) = (physicalLines text).flatMap cutAtReturns := by
  have hplain : ∀ l ∈ splitLines (unifyEnds text.toList), dropReturn l = l := by
    intro l hl
    exact dropReturn_of_not_mem fun hm => not_mem_unifyEnds _ (subset_of_mem_splitLines hl hm)
  simp only [physicalLines, unifyLineEnds, String.toList_ofList]
  rw [List.map_congr_left fun l hl => congrArg String.ofList (hplain l hl), splitLines_unifyEnds]
  simp [List.map_flatMap, List.flatMap_map, cutAtReturns]

theorem cutAtReturns_of_not_mem {line : String} (h : '\r' ∉ line.toList) :
    cutAtReturns line = [line] := by
  simp [cutAtReturns, List.splitOn_eq_singleton h]

def OneLine (line : String) : Prop :=
  '\n' ∉ line.toList ∧ line.toList.getLast? ≠ some '\r'

instance (line : String) : Decidable (OneLine line) :=
  inferInstanceAs (Decidable (_ ∧ _))

inductive LineEnd
  | feed
  | returnFeed
  deriving DecidableEq, Repr

def LineEnd.text : LineEnd → String
  | .feed => "\n"
  | .returnFeed => "\r\n"

theorem splitLines_append_feed {l : List Char} (h : '\n' ∉ l) (cs : List Char) :
    splitLines (l ++ '\n' :: cs) = l :: splitLines cs := by
  induction l with
  | nil => exact splitLines_line_feed cs
  | cons c l ih =>
    simp only [List.mem_cons, not_or] at h
    rw [List.cons_append, splitLines_cons_of_ne (Ne.symm h.1), ih h.2]

theorem dropReturn_of_getLast? {cs : List Char} (h : cs.getLast? ≠ some '\r') :
    dropReturn cs = cs := by
  induction cs with
  | nil => rfl
  | cons c cs ih =>
    rw [dropReturn_cons, if_neg]
    · cases cs with
      | nil => rfl
      | cons d ds => rw [ih (by simpa using h)]
    · rintro ⟨rfl, rfl⟩
      simp at h

theorem dropReturn_append_return (cs : List Char) : dropReturn (cs ++ ['\r']) = cs := by
  induction cs with
  | nil => rfl
  | cons c cs ih =>
    rw [List.cons_append, dropReturn_cons, if_neg (by simp), ih]

theorem physicalLines_line {line : String} (h : OneLine line) (e : LineEnd) (rest : String) :
    physicalLines (line ++ e.text ++ rest) = line :: physicalLines rest := by
  cases e with
  | feed =>
    have hcut := splitLines_append_feed h.1 rest.toList
    simp [physicalLines, LineEnd.text, hcut, dropReturn_of_getLast? h.2]
  | returnFeed =>
    have hno : '\n' ∉ line.toList ++ ['\r'] := by simpa using h.1
    have hcut := splitLines_append_feed hno rest.toList
    rw [List.append_assoc, List.singleton_append] at hcut
    simp [physicalLines, LineEnd.text, hcut, dropReturn_append_return]

end BuildScripts.Text
