import BuildScripts.Proofs.Disk.Clear
import BuildScripts.Proofs.Disk.Reach
import BuildScripts.Proofs.Slash
import Mathlib.Data.List.Perm.Subperm

/-!
Full paths on disks with links. A walk goes through a link's target together with the parts behind
the link; a full path takes the target for itself first. Main statements: where every link can be
looked up under its own full path, the full path of what an absolute path leads to is the way to its
place; and full paths have parts that a text names.
-/

namespace BuildScripts

structure Fits (name : String) : Prop where
  isName : IsName name
  short : name.utf8ByteSize ≤ longestName

/-- The parts lead from one place to another if each link on the way is followed to its end before the
parts behind it. The number counts the links. -/
inductive Tree.Arrives (t : Tree) : Nat → Location → List String → Location → Prop
  | stop {l : Location} : Arrives t 0 l [] l
  | skip {n : Nat} {here l : Location} {name : String} {rest : List String}
      (hn : name = "" ∨ name = ".") (h : Arrives t n here rest l) : Arrives t n here (name :: rest) l
  | up {n : Nat} {here l : Location} {rest : List String} (h : Arrives t n here.tail rest l) :
      Arrives t n here (".." :: rest) l
  | enter {n : Nat} {here l : Location} {name : String} {e : Entry} {rest : List String}
      (hf : Fits name) (he : t.get? (name :: here) = some e) (hlink : ∀ target, e ≠ .link target)
      (h : Arrives t n (name :: here) rest l) : Arrives t n here (name :: rest) l
  | link {m n : Nat} {here mid l : Location} {name target : String} {rest : List String}
      (hf : Fits name) (he : t.get? (name :: here) = some (.link target))
      (ht : Arrives t m (targetStart here target) (Path.pieces target) mid)
      (h : Arrives t n mid rest l) : Arrives t (m + n + 1) here (name :: rest) l

def Tree.LinksNear (t : Tree) : Prop :=
  ∀ l target, t.get? l = some (.link target) →
    (Path.absolute l.reverse).toText.utf8ByteSize ≤ longestPath

theorem Tree.LinksNear.of_grown {t t' : Tree} (h : t.LinksNear) (hgr : t.Grown t') : t'.LinksNear :=
  fun l target he => h l target (hgr.noLink l target he)

def Tree.isLinksNear (t : Tree) : Bool :=
  t.entries.all fun (l, e) => !(e matches .link _) ||
    decide ((Path.absolute l.reverse).toText.utf8ByteSize ≤ longestPath)

theorem Tree.linksNear_of_isLinksNear {t : Tree} (h : t.isLinksNear = true) : t.LinksNear := by
  intro l target he
  have hne : l ≠ [] := by
    rintro rfl
    cases he
  have hm := List.all_eq_true.1 h _ (mem_entries_of_get? hne he)
  exact of_decide_eq_true hm

section Arrives

variable {t : Tree} {n : Nat} {here l : Location} {parts front rest : List String}
  {target : String}

theorem not_fits_up : ¬Fits ".." := fun h => not_isName_up h.isName

namespace Tree.Arrives

theorem unique {n' : Nat} {l' : Location} (h : t.Arrives n here parts l)
    (h' : t.Arrives n' here parts l') : n' = n ∧ l' = l := by
  -- Each part goes one way only: its name and the entry under it decide which.
  induction h generalizing n' l' with
  | stop =>
    cases h'
    exact ⟨rfl, rfl⟩
  | skip hn _ ih =>
    cases h' with
    | skip _ h' => exact ih h'
    | up => simp at hn
    | enter hf => exact absurd hn hf.isName.ne_skip
    | link hf => exact absurd hn hf.isName.ne_skip
  | up _ ih =>
    cases h' with
    | skip hn => simp at hn
    | up h' => exact ih h'
    | enter hf => exact absurd hf not_fits_up
    | link hf => exact absurd hf not_fits_up
  | enter hf he hlink _ ih =>
    cases h' with
    | skip hn => exact absurd hn hf.isName.ne_skip
    | up => exact absurd hf not_fits_up
    | enter _ _ _ h' => exact ih h'
    | link _ he' =>
      rw [he] at he'
      exact absurd (Option.some.inj he') (hlink _)
  | link hf he _ _ iht ih =>
    cases h' with
    | skip hn => exact absurd hn hf.isName.ne_skip
    | up => exact absurd hf not_fits_up
    | enter _ he' hlink' =>
      rw [he] at he'
      exact absurd (Option.some.inj he').symm (hlink' _)
    | link _ he' ht' h' =>
      rw [he] at he'
      cases he'
      obtain ⟨rfl, rfl⟩ := iht ht'
      obtain ⟨rfl, rfl⟩ := ih h'
      exact ⟨rfl, rfl⟩

theorem of_append (h : t.Arrives n here (front ++ rest) l) :
    ∃ m k mid, t.Arrives m here front mid ∧ t.Arrives k mid rest l := by
  induction front generalizing n here with
  | nil => exact ⟨0, n, here, .stop, h⟩
  | cons name front ih =>
    rw [List.cons_append] at h
    cases h with
    | skip hn h =>
      obtain ⟨m, k, mid, hm, hk⟩ := ih h
      exact ⟨m, k, mid, .skip hn hm, hk⟩
    | up h =>
      obtain ⟨m, k, mid, hm, hk⟩ := ih h
      exact ⟨m, k, mid, .up hm, hk⟩
    | enter hf he hlink h =>
      obtain ⟨m, k, mid, hm, hk⟩ := ih h
      exact ⟨m, k, mid, .enter hf he hlink hm, hk⟩
    | @link i _ _ _ _ _ _ _ hf he ht h =>
      obtain ⟨m, k, mid, hm, hk⟩ := ih h
      exact ⟨i + m + 1, k, mid, .link hf he ht hm, hk⟩

theorem filter_iff : t.Arrives n here (parts.filter (· ≠ "")) l ↔ t.Arrives n here parts l := by
  constructor
  · intro h
    induction parts generalizing n here with
    | nil => exact h
    | cons name rest ih =>
      by_cases hn : name = ""
      · rw [List.filter_cons_of_neg (by simp [hn])] at h
        exact .skip (.inl hn) (ih h)
      · rw [List.filter_cons_of_pos (by simp [hn])] at h
        cases h with
        | skip hn h => exact .skip hn (ih h)
        | up h => exact .up (ih h)
        | enter hf he hlink h => exact .enter hf he hlink (ih h)
        | link hf he ht h => exact .link hf he ht (ih h)
  · intro h
    induction h with
    | stop => exact .stop
    | @skip _ _ _ name _ hn _ ih =>
      by_cases he : name = ""
      · rwa [List.filter_cons_of_neg (by simp [he])]
      · rw [List.filter_cons_of_pos (by simp [he])]
        exact .skip hn ih
    | up _ ih =>
      rw [List.filter_cons_of_pos (by decide)]
      exact .up ih
    | enter hf he hlink _ ih =>
      rw [List.filter_cons_of_pos (by simp [hf.isName.notEmpty])]
      exact .enter hf he hlink ih
    | link hf he ht _ _ ih =>
      rw [List.filter_cons_of_pos (by simp [hf.isName.notEmpty])]
      exact .link hf he ht ih

theorem of_targetParts (h : t.Arrives n here (targetParts target) l) :
    t.Arrives n here (Path.pieces target) l := by
  have hsame : (targetParts target).filter (· ≠ "") = (Path.pieces target).filter (· ≠ "") := by
    rw [targetParts]
    split <;> simp
  rwa [← filter_iff, hsame, filter_iff] at h

theorem fits (h : t.Arrives n here parts l) (hf : ∀ name ∈ here, Fits name) :
    ∀ name ∈ l, Fits name := by
  induction h with
  | stop => exact hf
  | skip _ _ ih => exact ih hf
  | up _ ih => exact ih fun name hm => hf name (List.mem_of_mem_tail hm)
  | enter hname _ _ _ ih => exact ih (List.forall_mem_cons.2 ⟨hname, hf⟩)
  | @link _ _ here _ _ _ target _ _ _ _ _ iht ih =>
    refine ih (iht ?_)
    rw [targetStart]
    split
    · simp
    · exact hf

end Tree.Arrives

theorem arrives_of_stride_arrived {e : Entry}
    (h : stride t .target here parts = .arrived (.found l e)) : t.Arrives 0 here parts l := by
  have hs := strides t .target here parts
  generalize stride t .target here parts = q at h hs
  induction hs with
  | stop =>
    cases h
    exact .stop
  | skip _ hn _ ih => exact .skip hn (ih h)
  | up _ _ ih => exact .up (ih h)
  | enter _ hn hl he _ ih => exact .enter ⟨hn, hl⟩ he (by simp) (ih h)
  | last hn hl hlink =>
    obtain ⟨rfl, he⟩ := Tree.at_eq_found_iff.1 (Stride.arrived.inj h)
    have hno := hlink.resolve_left (by decide)
    exact .enter ⟨hn, hl⟩ he (fun target heq => hno target (heq ▸ he)) .stop
  | _ => cases h

theorem arrives_of_stride_link {holder mid : Location} {m : Nat}
    (h : stride t .target here parts = .link holder target rest)
    (ht : t.Arrives m (targetStart holder target) (Path.pieces target) mid)
    (hrest : t.Arrives n mid rest l) : t.Arrives (m + n + 1) here parts l := by
  have hs := strides t .target here parts
  generalize stride t .target here parts = q at h hs
  induction hs with
  | skip _ hn _ ih => exact .skip hn (ih h)
  | up _ _ ih => exact .up (ih h)
  | enter _ hn hl he _ ih => exact .enter ⟨hn, hl⟩ he (by simp) (ih h)
  | link _ hn hl he _ =>
    cases h
    exact .link ⟨hn, hl⟩ he ht hrest
  | _ => cases h

theorem arrives_of_walk {e : Entry} (h : walk t .target n here parts = .ok (.found l e)) :
    ∃ m, t.Arrives m here parts l := by
  have hw := walks t .target n here parts
  generalize walk t .target n here parts = q at h hw
  induction hw with
  | arrived hs =>
    cases h
    exact ⟨0, arrives_of_stride_arrived hs⟩
  | refused => cases h
  | spent => cases h
  | link hs _ ih =>
    -- The walk has put the target in front of the parts behind the link: the two come apart again.
    obtain ⟨k, hk⟩ := ih h
    obtain ⟨i, j, mid, hi, hj⟩ := hk.of_append
    exact ⟨i + j + 1, arrives_of_stride_link hs hi.of_targetParts hj⟩

end Arrives

namespace Disk

variable {d : Disk} {n depth : Nat} {held : List Location} {here l : Location} {name : String}
  {parts : List String}

theorem enters_of_fits (hg : d.tree.Grounded) (hd : d.tree.get? l = some .directory)
    (hf : ∀ name ∈ l, Fits name) : d.Enters (.absolute l.reverse) l := by
  suffices h : d.tree.Reaches linkBudget [] l.reverse l linkBudget from ⟨linkBudget, h⟩
  induction l with
  | nil => exact .stop
  | cons name l ih =>
    rw [List.forall_mem_cons] at hf
    rw [List.reverse_cons]
    have hholder := hg name l (by simp [hd])
    exact (ih hholder hf.2).append (.enter hf.1.isName hf.1.short hd .stop)

section LinkAt

variable (hg : d.tree.Grounded) (hf : ∀ part ∈ name :: here, Fits part)
include hg hf

theorem seek_place {e : Entry} (he : d.tree.get? (name :: here) = some e) :
    d.seek .entry (.absolute (name :: here).reverse) = .error .nameTooLong ∨
      d.seek .entry (.absolute (name :: here).reverse) = .ok (.found (name :: here) e) := by
  rw [List.forall_mem_cons] at hf
  have henters := enters_of_fits hg (hg name here (by simp [he])) hf.2
  have hseek := henters.seek_child hf.1.isName .entry (.inl rfl)
  rw [Tree.at_of_some he] at hseek
  rwa [List.reverse_cons]

theorem linkAt?_of_link {target : String} (he : d.tree.get? (name :: here) = some (.link target))
    (hnear : (Path.absolute (name :: here).reverse).toText.utf8ByteSize ≤ longestPath) :
    d.linkAt? (.absolute (name :: here).reverse) = some target := by
  rw [List.forall_mem_cons] at hf
  obtain ⟨k, hseek⟩ := (enters_of_fits hg (hg name here (by simp [he])) hf.2).seek_child_eq
    hf.1.isName .entry (by rwa [List.reverse_cons] at hnear)
  rw [walk_of_arrived (stride_last hf.1.isName hf.1.short (.inl rfl)), Tree.at_of_some he] at hseek
  rw [linkAt?, List.reverse_cons, show d.seek .entry (.absolute (here.reverse ++ [name])) = _ from hseek]

theorem linkAt?_of_other {e : Entry} (he : d.tree.get? (name :: here) = some e)
    (hlink : ∀ target, e ≠ .link target) :
    d.linkAt? (.absolute (name :: here).reverse) = none := by
  rcases seek_place hg hf he with h | h
  · rw [linkAt?, h]
  · rw [linkAt?, h]
    cases e with
    | link target => exact absurd rfl (hlink target)
    | _ => rfl

end LinkAt

def Spends (d : Disk) (place : Location) (n : Nat) : Prop :=
  ∃ name holder target mid, place = name :: holder ∧
    d.tree.get? (name :: holder) = some (.link target) ∧
    d.tree.Arrives n (targetStart holder target) (Path.pieces target) mid

theorem Spends.unique {place : Location} {m : Nat} (h : d.Spends place n) (h' : d.Spends place m) :
    m = n := by
  obtain ⟨name, holder, target, mid, rfl, he, hway⟩ := h
  obtain ⟨name', holder', target', mid', heq, he', hway'⟩ := h'
  cases heq
  rw [he] at he'
  cases he'
  exact (hway.unique hway').1

/-- Links that are being resolved while parts are left that lead over the given count of links. Each of
them leads over as many at least, and there is room for those that are not held yet. -/
structure Pending (d : Disk) (depth count : Nat) (held : List Location) : Prop where
  nodup : held.Nodup
  above : ∀ place ∈ held, ∃ n, count ≤ n ∧ d.Spends place n
  room : d.tree.linkCount < depth + held.length

namespace Pending

variable {count : Nat} {place : Location}

theorem start (d : Disk) (hd : d.tree.linkCount < depth) (count : Nat) :
    d.Pending depth count [] :=
  ⟨.nil, by simp, hd⟩

theorem mono (hp : d.Pending depth count held) (hn : n ≤ count) : d.Pending depth n held where
  nodup := hp.nodup
  above place hm := by
    obtain ⟨k, hk, hs⟩ := hp.above place hm
    exact ⟨k, Nat.le_trans hn hk, hs⟩
  room := hp.room

theorem length_le (hp : d.Pending depth count held) : held.length ≤ d.tree.linkCount := by
  let isLink : Location × Entry → Bool := fun (_, e) => e matches .link _
  have hsub : held ⊆ (d.tree.entries.filter isLink).map Prod.fst := by
    intro place hm
    obtain ⟨_, -, name, holder, target, _, rfl, he, -⟩ := hp.above place hm
    have hentry := Tree.mem_entries_of_get? (List.cons_ne_nil name holder) he
    exact List.mem_map.2 ⟨_, List.mem_filter.2 ⟨hentry, rfl⟩, rfl⟩
  calc held.length
      ≤ ((d.tree.entries.filter isLink).map Prod.fst).length :=
        (List.Nodup.subperm hp.nodup hsub).length_le
    _ = d.tree.linkCount := by rw [List.length_map, ← List.countP_eq_length_filter]; rfl

theorem depth_pos (hp : d.Pending depth count held) : 0 < depth := by
  have := hp.length_le
  have := hp.room
  omega

theorem fresh (hp : d.Pending depth count held) (hs : d.Spends place n) (hn : n < count) :
    place ∉ held := by
  intro hm
  obtain ⟨k, hk, hs'⟩ := hp.above place hm
  have := hs.unique hs'
  omega

theorem push (hp : d.Pending (depth + 1) count held) (hs : d.Spends place n) (hn : n < count) :
    d.Pending depth n (place :: held) where
  nodup := List.nodup_cons.2 ⟨hp.fresh hs hn, hp.nodup⟩
  above := List.forall_mem_cons.2 ⟨⟨n, Nat.le_refl n, hs⟩, (hp.mono (Nat.le_of_lt hn)).above⟩
  room := by
    have := hp.room
    rw [List.length_cons]
    omega

end Pending

theorem resolveWithin_of_arrives (hg : d.tree.Grounded) (hnear : d.tree.LinksNear)
    (h : d.tree.Arrives n here parts l) (hf : ∀ name ∈ here, Fits name)
    (hp : d.Pending depth n held) :
    d.resolveWithin depth (held.map (.mk true)) ⟨true, here⟩ parts = .done ⟨true, l⟩ := by
  -- Inside a link's target fewer links are left than the link itself leads over, so that it does not
  -- come up again; and as the links that are held differ, the depth is not used up.
  induction h generalizing depth held with
  | stop =>
    obtain ⟨depth, rfl⟩ := Nat.exists_eq_add_one.2 hp.depth_pos
    rfl
  | skip hn _ ih =>
    obtain ⟨depth, rfl⟩ := Nat.exists_eq_add_one.2 hp.depth_pos
    rw [resolveWithin, resolveParts_skip hn]
    exact ih hf hp
  | up _ ih =>
    obtain ⟨depth, rfl⟩ := Nat.exists_eq_add_one.2 hp.depth_pos
    rw [resolveWithin, resolveParts_up fun name hm => (hf name hm).isName]
    exact ih (fun name hm => hf name (List.mem_of_mem_tail hm)) hp
  | enter hname he hlink _ ih =>
    obtain ⟨depth, rfl⟩ := Nat.exists_eq_add_one.2 hp.depth_pos
    have hf' := List.forall_mem_cons.2 ⟨hname, hf⟩
    have hnone := linkAt?_of_other hg hf' he hlink
    rw [resolveWithin, resolveParts_name hname.isName]
    rw [show d.linkAt? (Reached.push ⟨true, _⟩ _).toPath = none from hnone]
    exact ih hf' hp
  | @link m n here mid l name target rest hname he ht h iht ih =>
    obtain ⟨depth, rfl⟩ := Nat.exists_eq_add_one.2 hp.depth_pos
    have hf' := List.forall_mem_cons.2 ⟨hname, hf⟩
    have hsome := linkAt?_of_link hg hf' he (hnear _ _ he)
    have hspends : d.Spends (name :: here) m := ⟨name, here, target, mid, rfl, he, ht⟩
    have hfresh := hp.fresh hspends (by omega)
    have hstart : ∀ part ∈ targetStart here target, Fits part := by
      rw [targetStart]
      split
      · simp
      · exact hf
    have hinside := iht hstart (hp.push hspends (by omega))
    have hrest := ih (ht.fits hstart) (hp.mono (by omega))
    rw [resolveWithin, resolveParts_name hname.isName]
    rw [show d.linkAt? (Reached.push ⟨true, here⟩ name).toPath = some target from hsome]
    have hnot : Reached.push ⟨true, here⟩ name ∉ held.map (.mk true) := by
      rw [List.mem_map]
      rintro ⟨place, hm, heq⟩
      cases heq
      exact hfresh hm
    have hstartOf : Reached.startOf ⟨true, here⟩ target = ⟨true, targetStart here target⟩ := by
      rw [Reached.startOf, targetStart]
      split <;> rfl
    dsimp only
    rw [if_neg hnot, hstartOf]
    rw [show d.resolveWithin depth (Reached.push ⟨true, here⟩ name :: held.map (.mk true)) _ _ = _
      from hinside]
    exact hrest

theorem linkCount_lt_resolveDepth (d : Disk) : d.tree.linkCount < d.resolveDepth := by
  rw [resolveDepth]
  have := Nat.le_mul_of_pos_right d.tree.linkCount (show 0 < d.here.length + 2 by omega)
  omega

theorem fullPath_of_find {p : Path} {e : Entry} (hg : d.tree.Grounded) (hnear : d.tree.LinksNear)
    (hp : p.isAbsolute = true) (h : d.find p = .ok (l, e)) :
    d.fullPath p = .absolute l.reverse := by
  have hseek := find_eq_ok_iff.1 h
  rw [seek_of_short (size_le_of_seek hseek), start_of_isAbsolute hp] at hseek
  obtain ⟨n, hway⟩ := arrives_of_walk hseek
  have hpending := Pending.start d (linkCount_lt_resolveDepth d) n
  have hdone := resolveWithin_of_arrives hg hnear hway (by simp) hpending
  rw [fullPath, hp]
  rw [show d.resolveWithin d.resolveDepth [] ⟨true, []⟩ p.parts = _ from hdone]
  rfl

theorem find_place_ne_tooManyLinks {e : Entry} (hg : d.tree.Grounded) (hf : ∀ name ∈ l, Fits name)
    (he : d.tree.get? l = some e) (hlink : ∀ target, e ≠ .link target) :
    d.find (.absolute l.reverse) ≠ .error .tooManyLinks := by
  rw [Ne, find_tooManyLinks_iff]
  cases l with
  | nil =>
    rw [seek_of_short (by decide), walk_of_arrived rfl]
    rintro ⟨⟩
  | cons name here =>
    rw [List.forall_mem_cons] at hf
    have hno : ∀ target, d.tree.get? (name :: here) ≠ some (.link target) := by
      intro target h
      rw [he] at h
      exact hlink target (Option.some.inj h)
    have hsought := (enters_of_fits hg (hg name here (by simp [he])) hf.2).seek_child hf.1.isName
      .target (.inr hno)
    rw [List.reverse_cons]
    rcases hsought with h | h
    · rw [show d.seek .target (.absolute (here.reverse ++ [name])) = _ from h]
      rintro ⟨⟩
    · rw [show d.seek .target (.absolute (here.reverse ++ [name])) = _ from h]
      rintro ⟨⟩

theorem resolve_of_find {p : Path} {e : Entry} (hg : d.tree.Grounded) (hnear : d.tree.LinksNear)
    (hp : p.isAbsolute = true) (hn : p.hasNull = false) (h : d.find p = .ok (l, e))
    (hlink : ∀ target, e ≠ .link target) : d.resolve p = .ok (.absolute l.reverse) := by
  have hseek := find_eq_ok_iff.1 h
  rw [seek_of_short (size_le_of_seek hseek), start_of_isAbsolute hp] at hseek
  obtain ⟨n, hway⟩ := arrives_of_walk hseek
  have hget := found_of_seek hg (starts_of_isAbsolute hp) (find_eq_ok_iff.1 h)
  rw [← fullPath_of_find hg hnear hp h]
  apply resolve_of_no_loop hn
  rw [fullPath_of_find hg hnear hp h]
  exact find_place_ne_tooManyLinks hg (hway.fits (by simp)) hget hlink

end Disk

def Resolved.Rooted : Resolved → Prop
  | .done r => r.anchored = true ∧ ∀ name ∈ r.names, IsPart name
  | .stuck text => ∃ cs, text.toList = '/' :: cs

section Rooted

variable {d : Disk} {r : Reached} {name text : String} {rest parts : List String}

theorem Resolved.Rooted.push (h : (Resolved.done r).Rooted) (hn : IsPart name) :
    (Resolved.done (r.push name)).Rooted :=
  ⟨h.1, List.forall_mem_cons.2 ⟨hn, h.2⟩⟩

theorem Resolved.Rooted.up (h : (Resolved.done r).Rooted) : (Resolved.done r.up).Rooted := by
  obtain ⟨anchored, names⟩ := r
  obtain ⟨rfl, hnames⟩ := h
  have hdots : IsPart ".." := ⟨by decide, by decide, by decide⟩
  cases names with
  | nil => exact ⟨rfl, hnames⟩
  | cons n ns =>
    rw [Reached.up]
    dsimp only
    split
    · exact Resolved.Rooted.push (r := ⟨true, n :: ns⟩) ⟨rfl, hnames⟩ hdots
    · exact ⟨rfl, (List.forall_mem_cons.1 hnames).2⟩

theorem Resolved.Rooted.startOf (h : (Resolved.done r).Rooted) (target : String) :
    (Resolved.done (r.startOf target)).Rooted := by
  rw [Reached.startOf]
  split
  · exact ⟨rfl, by simp⟩
  · exact h

theorem Resolved.rooted_stuckBefore (h : ∃ cs, text.toList = '/' :: cs) (rest : List String) :
    (Resolved.stuckBefore text rest).Rooted := by
  obtain ⟨cs, hcs⟩ := h
  rw [Resolved.stuckBefore, Resolved.Rooted, joinTexts]
  split
  · rename_i hb
    obtain ⟨after, hafter⟩ := (Text.beginsWith_iff _ _).1 hb
    exact ⟨after, hafter⟩
  · split
    · exact ⟨_, by rw [String.toList_append, hcs]; rfl⟩
    · exact ⟨_, by rw [String.toList_append, String.toList_append, hcs]; rfl⟩

theorem Resolved.Rooted.stuckBefore (h : (Resolved.done r).Rooted) (rest : List String) :
    (Resolved.stuckBefore r.toPath.toText rest).Rooted := by
  refine Resolved.rooted_stuckBefore (toText_of_isAbsolute ?_) rest
  rw [Reached.toPath, h.1]
  rfl

namespace Disk

theorem rooted_resolveParts {inside : List Reached → Reached → List String → Resolved}
    (hinside : ∀ pending r parts, (Resolved.done r).Rooted → (∀ part ∈ parts, Slashless part) →
      (inside pending r parts).Rooted)
    (pending : List Reached) (hr : (Resolved.done r).Rooted)
    (hparts : ∀ part ∈ parts, Slashless part) :
    (d.resolveParts inside pending r parts).Rooted := by
  -- How targets are resolved is left open here: the induction on the depth is the next lemma's.
  induction parts generalizing r with
  | nil => exact hr
  | cons name rest ih =>
    rw [List.forall_mem_cons] at hparts
    rcases name_cases name with hn | hn | rfl | hn
    · rw [resolveParts_skip (.inl hn)]
      exact ih hr hparts.2
    · rw [resolveParts_skip (.inr hn)]
      exact ih hr hparts.2
    · rw [resolveParts, if_neg (by decide), if_pos rfl]
      exact ih hr.up hparts.2
    · rw [resolveParts_name hn]
      have hpush := hr.push (hn.isPart hparts.1)
      cases d.linkAt? (r.push name).toPath with
      | none => exact ih hpush hparts.2
      | some target =>
        dsimp only
        split
        · exact hpush.stuckBefore rest
        · have htarget := hinside (r.push name :: pending) (r.startOf target) (Path.pieces target)
            (hr.startOf target) fun part => Path.slashless_of_mem_pieces
          split
          · rename_i r' heq
            rw [heq] at htarget
            exact ih htarget hparts.2
          · rename_i text heq
            rw [heq] at htarget
            exact Resolved.rooted_stuckBefore htarget rest

theorem rooted_resolveWithin (depth : Nat) (pending : List Reached)
    (hr : (Resolved.done r).Rooted) (hparts : ∀ part ∈ parts, Slashless part) :
    (d.resolveWithin depth pending r parts).Rooted := by
  induction depth generalizing pending r parts with
  | zero => exact hr.stuckBefore parts
  | succ depth ih =>
    rw [resolveWithin]
    exact rooted_resolveParts (fun pending r parts hr hparts => ih pending hr hparts) pending hr hparts

theorem mem_of_mem_collapse {here : Location} (h : name ∈ collapse here parts) :
    name ∈ here ∨ name ∈ parts := by
  induction parts generalizing here with
  | nil => exact .inl h
  | cons part parts ih =>
    rcases name_cases part with hn | hn | rfl | hn
    · rw [collapse_skip (.inl hn)] at h
      exact (ih h).imp_right (List.mem_cons_of_mem _)
    · rw [collapse_skip (.inr hn)] at h
      exact (ih h).imp_right (List.mem_cons_of_mem _)
    · rw [collapse_up] at h
      exact (ih h).imp List.mem_of_mem_tail (List.mem_cons_of_mem _)
    · rw [collapse_name hn] at h
      rcases ih h with hm | hm
      · rcases List.mem_cons.1 hm with rfl | hm
        · exact .inr List.mem_cons_self
        · exact .inl hm
      · exact .inr (List.mem_cons_of_mem _ hm)

theorem isPart_of_mem_fullPath {p : Path} (hp : p.isAbsolute = true)
    (hparts : ∀ part ∈ p.parts, Slashless part) :
    ∀ part ∈ (d.fullPath p).parts, IsPart part := by
  have hstart : (Resolved.done ⟨p.isAbsolute, []⟩).Rooted := ⟨hp, by simp⟩
  have hrooted := rooted_resolveWithin (d := d) d.resolveDepth [] hstart hparts
  rw [fullPath]
  cases hres : d.resolveWithin d.resolveDepth [] ⟨p.isAbsolute, []⟩ p.parts with
  | done r =>
    rw [hres] at hrooted
    intro part hm
    rw [settled, namesFromRoot, if_pos hrooted.1] at hm
    exact hrooted.2 part (List.mem_reverse.1 hm)
  | stuck text =>
    rw [hres] at hrooted
    obtain ⟨cs, hcs⟩ := hrooted
    rw [settled]
    have hcollapse : ∀ part ∈ (collapse [] (Path.pieces text)).reverse, IsPart part := by
      intro part hm
      have hm := List.mem_reverse.1 hm
      have hname := isName_of_mem_collapse (by simp) part hm
      exact hname.isPart
        (Path.slashless_of_mem_pieces ((mem_of_mem_collapse hm).resolve_left List.not_mem_nil))
    split
    · rename_i hrelative
      rw [hcs] at hrelative
      exact absurd hrelative (anchorOf_slash cs)
    · exact hcollapse

end Disk

end Rooted

end BuildScripts
