import Mathlib.Data.List.TakeWhile
import BuildScripts.Text.Basic

namespace BuildScripts.Text

theorem dropEnd_eq_nil_iff {p : Char → Bool} {cs : List Char} :
    dropEnd p cs = [] ↔ ∀ c ∈ cs, p c = true := by
  induction cs with
  | nil => simp [dropEnd]
  | cons c cs ih =>
    rw [List.forall_mem_cons, ← ih]
    simp only [dropEnd]
    cases dropEnd p cs with
    | nil => cases p c <;> simp
    | cons e es => simp

theorem trim_eq_nil_iff (p : Char → Bool) (cs : List Char) :
    trim p cs = [] ↔ ∀ c ∈ cs, p c = true := by
  rw [trim, dropEnd_eq_nil_iff]
  induction cs with
  | nil => simp
  | cons c cs ih =>
    cases hc : p c with
    | true => simpa [hc] using ih
    | false => simp [hc]

theorem mem_dropEnd {p : Char → Bool} {c : Char} {cs : List Char} (hc : c ∈ cs) (hp : p c = false) :
    c ∈ dropEnd p cs := by
  induction cs with
  | nil => cases hc
  | cons d cs ih =>
    rw [dropEnd]
    rcases List.mem_cons.1 hc with rfl | hmem
    · cases dropEnd p cs <;> simp [hp]
    · have hrest := ih hmem
      cases hd : dropEnd p cs with
      | nil => simp [hd] at hrest
      | cons e es => exact List.mem_cons_of_mem _ (hd ▸ hrest)

theorem mem_dropWhile {p : Char → Bool} {c : Char} {cs : List Char} (hc : c ∈ cs)
    (hp : p c = false) : c ∈ cs.dropWhile p := by
  rw [← List.takeWhile_append_dropWhile (p := p) (l := cs), List.mem_append] at hc
  refine hc.resolve_left fun htake => ?_
  rw [List.mem_takeWhile_imp htake] at hp
  cases hp

theorem mem_trim {p : Char → Bool} {c : Char} {cs : List Char} (hc : c ∈ cs) (hp : p c = false) :
    c ∈ trim p cs :=
  mem_dropEnd (mem_dropWhile hc hp) hp

theorem dropEnd_subset (p : Char → Bool) (cs : List Char) : dropEnd p cs ⊆ cs := by
  induction cs with
  | nil => exact List.Subset.refl _
  | cons c cs ih =>
    rw [dropEnd]
    cases hd : dropEnd p cs with
    | nil =>
      dsimp only
      split <;> simp
    | cons e es => exact List.cons_subset_cons c (hd ▸ ih)

theorem trim_subset (p : Char → Bool) (cs : List Char) : trim p cs ⊆ cs :=
  List.Subset.trans (dropEnd_subset p _) (List.dropWhile_sublist p).subset

theorem dropEnd_of_getLast? {p : Char → Bool} {cs : List Char}
    (h : ∀ c ∈ cs.getLast?, p c = false) : dropEnd p cs = cs := by
  induction cs with
  | nil => rfl
  | cons c cs ih =>
    cases cs with
    | nil => simp [dropEnd, h c (by simp)]
    | cons d ds =>
      have hrest := ih (by simpa using h)
      rw [dropEnd, hrest]

theorem trim_of_edges {p : Char → Bool} {cs : List Char} (hhead : ∀ c ∈ cs.head?, p c = false)
    (hlast : ∀ c ∈ cs.getLast?, p c = false) : trim p cs = cs := by
  have hwhole : cs.dropWhile p = cs := by
    cases cs with
    | nil => rfl
    | cons c cs => simp [hhead c (by simp)]
  rw [trim, hwhole, dropEnd_of_getLast? hlast]

def Unpadded (s : String) : Prop :=
  (∀ c ∈ s.toList.head?, isBlank c = false) ∧ ∀ c ∈ s.toList.getLast?, isBlank c = false

instance (s : String) : Decidable (Unpadded s) :=
  decidable_of_iff (s.toList.head?.all (fun c => !isBlank c) = true ∧
    s.toList.getLast?.all (fun c => !isBlank c) = true) (by simp [Unpadded, Option.all_eq_true])

theorem stripChars_of_unpadded {s : String} (h : Unpadded s) :
    stripChars s.toList = s.toList :=
  trim_of_edges h.1 h.2

end BuildScripts.Text
