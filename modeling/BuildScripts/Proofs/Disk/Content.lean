import BuildScripts.Proofs.Disk.Reach
import BuildScripts.Proofs.Slash

namespace BuildScripts

open BuildScripts.Text

def Entry.content? : Entry → Option ByteArray
  | .file bytes => some bytes
  | .sink => some .empty
  | _ => none

def Tree.content? (t : Tree) (l : Location) : Option ByteArray :=
  (t.get? l).bind Entry.content?

section Content

variable {t t' : Tree} {l : Location} {e : Entry} {bytes : ByteArray}

theorem Tree.content?_of_some (h : t.get? l = some e) : t.content? l = e.content? := by
  rw [content?, h, Option.bind_some]

theorem Tree.content?_of_none (h : t.get? l = none) : t.content? l = none := by
  rw [content?, h, Option.bind_none]

theorem Tree.content?_of_directory (h : t.get? l = some .directory) : t.content? l = none :=
  content?_of_some h

theorem Tree.get?_ne_none_of_content (h : t.content? l ≠ none) : t.get? l ≠ none :=
  fun hnone => h (content?_of_none hnone)

theorem Tree.Grown.content?_ne_none (h : t.Grown t') (hl : t.content? l ≠ none) :
    t'.content? l ≠ none := by
  obtain ⟨e, he⟩ := Option.ne_none_iff_exists'.1 (get?_ne_none_of_content hl)
  cases e with
  | directory => exact absurd (content?_of_directory he) hl
  | link target => exact absurd (content?_of_some he) hl
  | sink => simp [content?_of_some (h.sink l he), Entry.content?]
  | file bytes =>
    obtain ⟨bytes', he'⟩ := h.file l bytes he
    simp [content?_of_some he', Entry.content?]

theorem Disk.readBytes_eq_ok_iff {d : Disk} {p : Path} : d.readBytes p = .ok bytes ↔
    p.hasNull = false ∧ ∃ l e, d.find p = .ok (l, e) ∧ e.content? = some bytes := by
  rw [readBytes]
  cases p.hasNull with
  | true => simp
  | false =>
    cases hf : d.find p with
    | error why => simp
    | ok found =>
      obtain ⟨l, e⟩ := found
      cases e <;> simp [Entry.content?]

theorem Disk.readText_of_readBytes {d : Disk} {p : Path} {raw : String} (h : d.readBytes p = .ok bytes)
    (hraw : Utf8.decode bytes = .ok raw) : d.readText p = .ok (unifyLineEnds raw) := by
  rw [readText, h]
  simp only [hraw]

end Content

section Tests

variable {t : Tree} {d : Disk} {p : Path} {l : Location}

def Tree.holdsFile (t : Tree) (l : Location) (test : ByteArray → Bool) : Bool :=
  match t.get? l with
  | some (.file bytes) => test bytes
  | _ => false

theorem Tree.file_of_holdsFile {test : ByteArray → Bool} (h : t.holdsFile l test = true) :
    ∃ bytes, t.get? l = some (.file bytes) ∧ test bytes = true := by
  rw [holdsFile] at h
  split at h
  · rename_i bytes hget
    exact ⟨bytes, hget, h⟩
  · cases h

def Disk.findsDirectory (d : Disk) (p : Path) (l : Location) : Bool :=
  match d.find p with
  | .ok (k, .directory) => k = l
  | _ => false

theorem Disk.findsDirectory_iff : d.findsDirectory p l = true ↔ d.find p = .ok (l, .directory) := by
  rw [findsDirectory]
  split
  · rename_i k hfind
    simp [hfind]
  · rename_i hfind
    simpa using hfind l

def Disk.findsFile (d : Disk) (p : Path) (test : ByteArray → Bool) : Bool :=
  match d.find p with
  | .ok (_, .file bytes) => test bytes
  | _ => false

theorem Disk.file_of_findsFile {test : ByteArray → Bool} (h : d.findsFile p test = true) :
    ∃ l bytes, d.find p = .ok (l, .file bytes) ∧ test bytes = true := by
  rw [findsFile] at h
  split at h
  · rename_i l bytes hfind
    exact ⟨l, bytes, hfind, h⟩
  · cases h

end Tests

theorem Disk.isName_of_readBytes {d : Disk} {p : Path} {bytes : ByteArray}
    (hparts : ∀ part ∈ p.parts, IsPart part) (h : d.readBytes p = .ok bytes) :
    IsName p.name ∧ p.name ∈ p.parts := by
  obtain ⟨-, l, e, hfind, he⟩ := readBytes_eq_ok_iff.1 h
  have hread {aim : Aim} {k : Nat} {here : Location} :
      walk d.tree aim k here [] ≠ .ok (.found l e) := by
    rw [walk_of_arrived (p := .found here .directory) rfl]
    rintro ⟨⟩
    cases he
  have hseek := find_eq_ok_iff.1 hfind
  rw [seek_of_short (size_le_of_seek hseek)] at hseek
  rcases p.parts.eq_nil_or_concat' with hnil | ⟨front, last, hlast⟩
  · rw [hnil] at hseek
    exact absurd hseek hread
  · have hname : p.name = last := by
      rw [Path.name, hlast, List.getLast?_concat]
      rfl
    have hmem : last ∈ p.parts := by rw [hlast]; simp
    rw [hname]
    refine ⟨⟨(hparts last hmem).notEmpty, (hparts last hmem).notHere, ?_⟩, hmem⟩
    rintro rfl
    rw [hlast] at hseek
    obtain ⟨here, k, hreaches, -⟩ := reaches_of_walk hseek (.inl (by simp))
    rw [hreaches.walk_eq (.inl rfl), walk_of_stride (stride_up (by simp))] at hseek
    exact hread hseek

end BuildScripts
