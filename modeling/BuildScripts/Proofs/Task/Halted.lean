import BuildScripts.Proofs.Disk.Halfway
import BuildScripts.Proofs.Task.Laid

/-!
Copyings that fail on the way. Main statement: without overwriting, and if the source and the place
where the destination lands are apart and hold no links, a copying fails if one of its targets is
there, and whenever it fails, the files before the entry where it stops have been laid and recorded,
and no others.
-/

namespace BuildScripts

open Attempt

namespace CopyTask

/-- How a copying comes to a stop at an entry below the source: a single copy fails, it cannot be
told whether the entry is a directory, the directory cannot be listed, or it is too deep. -/
inductive Stops (overwrite : Bool) (sel : Selection) (source destination : Path) (j : CopyJob) :
    List String → Fault → CopyJob → Prop
  | copy (way : List String) (name : String) {f : Fault} {j' : CopyJob}
      (hnames : ∀ part ∈ way ++ [name], Named part)
      (hpicked : sel.Picks source (way ++ [name]))
      (hfile : j.disk.isDirectory (source.descend (way ++ [name])) = .ok false)
      (h : copyOne overwrite (source.descend (way ++ [name])) (destination.descend way) j =
        .error f j') :
      Stops overwrite sel source destination j (way ++ [name]) f j'
  | look (stop : List String) {f : Fault}
      (h : j.disk.isDirectory (source.descend stop) = .error f) :
      Stops overwrite sel source destination j stop f j
  | list (stop : List String) {f : Fault} (h : j.disk.list (source.descend stop) = .error f) :
      Stops overwrite sel source destination j stop f j
  | deep (stop : List String) : Stops overwrite sel source destination j stop .tooDeep j

def Begins (names : List String) (rel : List String) : Prop :=
  ∃ name ∈ names, ∃ rest, rel = name :: rest

/-- What a copying of some of the files below a directory has done when it fails: it has copied those
before the entry where it stops, each once and in order. -/
structure Halted (overwrite : Bool) (sel : Selection) (source destination : Path) (l : Location)
    (among : List String → Prop) (rels : List (List String)) (stop : List String) (f : Fault)
    (j j₁ j' : CopyJob) : Prop where
  copies : Copies overwrite source destination rels j j₁
  stops : Stops overwrite sel source destination j₁ stop f j'
  there : j₁.disk.tree.get? (stop.reverse ++ l) ≠ none
  reached : among stop
  sorted : rels.Pairwise (· < ·)
  picked : ∀ rel ∈ rels, sel.Picks source rel
  listed : ∀ rel ∈ rels, among rel
  before : ∀ rel ∈ rels, rel < stop
  all : ∀ rel, among rel → sel.Chooses j.disk.tree source l rel → rel < stop → rel ∈ rels

section Halted

variable {overwrite : Bool} {sel : Selection} {source destination : Path} {l : Location}
  {name : String} {names stop : List String} {rel : List String} {rels rels' : List (List String)}
  {among : List String → Prop} {f : Fault} {j j₁ j₂ j' : CopyJob}

theorem begins_head (rest : List String) : Begins (name :: names) (name :: rest) :=
  ⟨name, List.mem_cons_self, rest, rfl⟩

theorem Begins.tail (h : Begins names rel) : Begins (name :: names) rel := by
  obtain ⟨first, hfirst, hrest⟩ := h
  exact ⟨first, List.mem_cons_of_mem _ hfirst, hrest⟩

theorem begins_singleton_iff : Begins [name] rel ↔ ∃ rest, rel = name :: rest := by
  simp [Begins]

theorem begins_cons_iff : Begins (name :: names) rel ↔ Begins [name] rel ∨ Begins names rel := by
  simp [Begins]

theorem Begins.lt {rel' : List String} (h : Begins [name] rel) (h' : Begins names rel')
    (hlt : ∀ other ∈ names, name < other) : rel < rel' := by
  obtain ⟨rest, rfl⟩ := begins_singleton_iff.1 h
  obtain ⟨other, hother, rest', rfl⟩ := h'
  exact List.cons_lt_cons_iff.2 (.inl (hlt other hother))

theorem Copies.ne_nil (h : Copies overwrite source destination rels j j') (hrel : rel ∈ rels) :
    rel ≠ [] := by
  induction h with
  | nil => cases hrel
  | cons way name _ _ _ ih =>
    rcases List.mem_cons.1 hrel with rfl | hrel
    · simp
    · exact ih hrel

theorem Copies.messages_eq (h : Copies overwrite source destination rels j j') :
    j'.messages = j.messages ++ rels.map fun rel => "copied file '" ++
      (source.descend rel).toText ++ "' to '" ++ (destination.descend rel).toText ++ "'" := by
  induction h with
  | nil => simp
  | cons way name _ h _ ih =>
    obtain ⟨opened, written, -, rfl⟩ := copyOne_eq_ok h
    rw [ih, CopyJob.record, List.map_cons, List.append_assoc, ← Path.descend_child,
      ← Path.descend_child, Path.name_child]
    rfl

theorem Stops.of_child (hn : Named name) (hsource : sel.excludes source.toText = false)
    (h : Stops overwrite sel (source.child name) (destination.child name) j stop f j') :
    Stops overwrite sel source destination j (name :: stop) f j' := by
  cases h with
  | copy way last hnames hpicked hfile h =>
    rw [Path.child_descend] at hfile h
    rw [Path.child_descend] at h
    exact .copy (name :: way) last (List.forall_mem_cons.2 ⟨hn, hnames⟩)
      ((Selection.picks_cons_iff (by simp)).2 ⟨hsource, hpicked⟩) hfile h
  | look _ h =>
    rw [Path.child_descend] at h
    exact .look (name :: stop) h
  | list _ h =>
    rw [Path.child_descend] at h
    exact .list (name :: stop) h
  | deep => exact .deep (name :: stop)

theorem Stops.leaves (h : Stops overwrite sel source destination j stop f j') :
    j'.copied = j.copied ∧ j'.messages = j.messages ∧
      (j'.disk = j.disk ∨ ∃ way name, stop = way ++ [name] ∧ (∀ part ∈ way, Named part) ∧
        j'.disk = (Disk.makeDirectories (destination.descend way)).after j.disk) := by
  cases h with
  | copy way name hnames _ _ h =>
    rcases copyOne_cases overwrite (source.descend (way ++ [name])) (destination.descend way) j with
      ⟨_, _, -, hok⟩ | ⟨_, d, herror, -, hd⟩
    · rw [h] at hok
      cases hok
    · rw [h] at herror
      cases herror
      refine ⟨rfl, rfl, hd.imp_right fun hmade => ?_⟩
      exact ⟨way, name, rfl, fun part hpart => hnames part (List.mem_append_left _ hpart), hmade⟩
  | look => exact ⟨rfl, rfl, .inl rfl⟩
  | list => exact ⟨rfl, rfl, .inl rfl⟩
  | deep => exact ⟨rfl, rfl, .inl rfl⟩

namespace Halted

theorem of_stops (h : Stops overwrite sel source destination j stop f j')
    (hthere : j.disk.tree.get? (stop.reverse ++ l) ≠ none) (hreached : among stop)
    (hfirst : ∀ rel, among rel → ¬rel < stop) :
    Halted overwrite sel source destination l among [] stop f j j j' where
  copies := .nil
  stops := h
  there := hthere
  reached := hreached
  sorted := .nil
  picked := by simp
  listed := by simp
  before := by simp
  all rel hrel _ hlt := absurd hlt (hfirst rel hrel)

theorem of_head (hlt : ∀ other ∈ names, name < other)
    (h : Halted overwrite sel source destination l (Begins [name]) rels stop f j j₁ j') :
    Halted overwrite sel source destination l (Begins (name :: names)) rels stop f j j₁ j' where
  copies := h.copies
  stops := h.stops
  there := h.there
  reached := begins_cons_iff.2 (.inl h.reached)
  sorted := h.sorted
  picked := h.picked
  listed rel hrel := begins_cons_iff.2 (.inl (h.listed rel hrel))
  before := h.before
  all rel hbegins hchosen hbefore := by
    rcases begins_cons_iff.1 hbegins with hfirst | hother
    · exact h.all rel hfirst hchosen hbefore
    · exact absurd hbefore (List.lt_asymm (h.reached.lt hother hlt))

theorem cons (hlt : ∀ other ∈ names, name < other) (hp : j.disk.Proper)
    (h : Visited overwrite sel source destination l [name] rels j j₁)
    (h' : Halted overwrite sel source destination l (Begins names) rels' stop f j₁ j₂ j') :
    Halted overwrite sel source destination l (Begins (name :: names)) (rels ++ rels') stop f j j₂
      j' where
  copies := h.copies.append h'.copies
  stops := h'.stops
  there := h'.there
  reached := h'.reached.tail
  sorted := by
    rw [List.pairwise_append]
    refine ⟨h.sorted, h'.sorted, fun rel hrel rel' hrel' => ?_⟩
    exact Begins.lt (h.listed rel hrel) (h'.listed rel' hrel') hlt
  picked := List.forall_mem_append.2 ⟨h.picked, h'.picked⟩
  listed := by
    rw [List.forall_mem_append]
    constructor
    · intro rel hrel
      exact begins_cons_iff.2 (.inl (h.listed rel hrel))
    · intro rel hrel
      exact (h'.listed rel hrel).tail
  before := by
    rw [List.forall_mem_append]
    refine ⟨fun rel hrel => ?_, h'.before⟩
    exact Begins.lt (h.listed rel hrel) h'.reached hlt
  all rel hbegins hchosen hbefore := by
    rw [List.mem_append]
    rcases begins_cons_iff.1 hbegins with hfirst | hother
    · obtain ⟨rest, rfl⟩ := begins_singleton_iff.1 hfirst
      exact .inl (h.all name List.mem_cons_self rest hchosen)
    · have hgrown := (h.copies.grew hp).grown
      exact .inr (h'.all rel hother ⟨hchosen.toPicks, hgrown.content?_ne_none hchosen.there⟩
        hbefore)

theorem of_child (hn : Named name) (hsource : sel.excludes source.toText = false)
    (hd : j.disk.tree.get? (name :: l) = some .directory)
    (h : Halted overwrite sel (source.child name) (destination.child name) (name :: l)
      (fun _ => True) rels stop f j j₁ j') :
    Halted overwrite sel source destination l (Begins [name]) (rels.map (name :: ·)) (name :: stop) f
      j j₁ j' where
  copies := h.copies.of_child hn
  stops := h.stops.of_child hn hsource
  there := by
    rw [List.reverse_cons, List.append_assoc]
    exact h.there
  reached := begins_head stop
  sorted := by
    rw [List.pairwise_map]
    exact h.sorted.imp fun hlt => List.cons_lt_cons_iff.2 (.inr ⟨rfl, hlt⟩)
  picked := by
    rw [List.forall_mem_map]
    intro rel hrel
    exact (Selection.picks_cons_iff (h.copies.ne_nil hrel)).2 ⟨hsource, h.picked rel hrel⟩
  listed := by
    rw [List.forall_mem_map]
    exact fun rel _ => begins_head rel
  before := by
    rw [List.forall_mem_map]
    intro rel hrel
    exact List.cons_lt_cons_iff.2 (.inr ⟨rfl, h.before rel hrel⟩)
  all rel hbegins hchosen hbefore := by
    obtain ⟨rest, rfl⟩ := begins_singleton_iff.1 hbegins
    rw [List.cons_lt_cons_self] at hbefore
    exact List.mem_map_of_mem (h.all rest trivial (hchosen.of_cons hd) hbefore)

theorem of_names (hg : j.disk.tree.Grounded) (hd : j.disk.tree.get? l = some .directory)
    (h : Halted overwrite sel source destination l (Begins (j.disk.tree.sortedNames l)) rels stop f j
      j₁ j') :
    Halted overwrite sel source destination l (fun _ => True) rels stop f j j₁ j' where
  copies := h.copies
  stops := h.stops
  there := h.there
  reached := trivial
  sorted := h.sorted
  picked := h.picked
  listed _ _ := trivial
  before := h.before
  all rel _ hchosen hbefore := by
    obtain ⟨name, rest, rfl, hname⟩ := hchosen.listed hg hd
    exact h.all _ ⟨name, hname, rest, rfl⟩ hchosen hbefore

end Halted

section Entries

variable {deeper : Path → Path → Attempt CopyJob Unit}
  (hvisited : ∀ name j j', j.disk.Proper → j.disk.Enters (source.child name) (name :: l) →
    j.disk.tree.LinkFreeBelow (name :: l) →
    deeper (source.child name) (destination.child name) j = .ok () j' →
    ∃ rels, Visited overwrite sel (source.child name) (destination.child name) (name :: l)
      (j.disk.tree.sortedNames (name :: l)) rels j j')
  (hhalted : ∀ name j f j', j.disk.Proper → j.disk.Enters (source.child name) (name :: l) →
    j.disk.tree.LinkFreeBelow (name :: l) →
    deeper (source.child name) (destination.child name) j = .error f j' →
    ∃ rels stop j₁, Halted overwrite sel (source.child name) (destination.child name) (name :: l)
      (fun _ => True) rels stop f j j₁ j')
  (hsource : sel.excludes source.toText = false) (hnull : source.hasNull = false)
include hhalted hsource

theorem halted_of_copyEntry (hthere : j.disk.tree.get? (name :: l) ≠ none) (hp : j.disk.Proper)
    (hl : j.disk.Enters source l) (hfree : j.disk.tree.LinkFreeBelow l)
    (h : copyEntry deeper sel overwrite source destination name j = .error f j') :
    ∃ rels stop j₁,
      Halted overwrite sel source destination l (Begins [name]) rels stop f j j₁ j' := by
  have hn := hp.tree.named name l hthere
  have hfirst : ∀ rel, Begins [name] rel → ¬rel < [name] := by
    intro rel hbegins hlt
    obtain ⟨rest, rfl⟩ := begins_singleton_iff.1 hbegins
    rw [List.cons_lt_cons_self] at hlt
    exact List.not_lt_nil rest hlt
  cases hd : j.disk.isDirectory (source.child name) with
  | error g =>
    rw [copyEntry_of_error hd] at h
    cases h
    have hstops : Stops overwrite sel source destination j [name] f j := .look [name] hd
    exact ⟨[], [name], j, .of_stops hstops hthere (begins_head []) hfirst⟩
  | ok found =>
    rw [copyEntry_of_ok hd] at h
    cases found with
    | true =>
      obtain ⟨-, -, l', hl'⟩ := Disk.isDirectory_eq_true_iff.1 hd
      obtain ⟨rfl, hdir⟩ := hl.child_unique hn.isName
        (fun target => hfree _ target (List.suffix_cons name l)) hl'
      obtain ⟨rels, stop, j₁, hin⟩ := hhalted name j f j' hp hl' (hfree.cons name) h
      exact ⟨_, _, j₁, hin.of_child hn hsource hdir⟩
    | false =>
      cases htaken : sel.takes (source.child name).toText with
      | false =>
        rw [htaken] at h
        cases h
      | true =>
        rw [htaken] at h
        have hstops : Stops overwrite sel source destination j [name] f j' := by
          apply Stops.copy [] name
          · simpa using hn
          · exact Selection.picks_singleton_iff.2 ⟨hsource, htaken⟩
          · exact hd
          · rwa [Path.descend_nil]
        exact ⟨[], [name], j, .of_stops hstops hthere (begins_head []) hfirst⟩

include hvisited hnull

theorem halted_of_copyEntries (hsorted : names.Pairwise (· < ·))
    (hthere : ∀ name ∈ names, j.disk.tree.get? (name :: l) ≠ none) (hp : j.disk.Proper)
    (hl : j.disk.Enters source l) (hfree : j.disk.tree.LinkFreeBelow l)
    (h : copyEntries deeper sel overwrite source destination names j = .error f j') :
    ∃ rels stop j₁,
      Halted overwrite sel source destination l (Begins names) rels stop f j j₁ j' := by
  induction names generalizing j with
  | nil => cases h
  | cons name names ih =>
    rw [List.pairwise_cons] at hsorted
    rw [List.forall_mem_cons] at hthere
    rw [copyEntries_cons] at h
    rcases bind_eq_error.1 h with hentry | ⟨_, j₁, hentry, hrest⟩
    · obtain ⟨rels, stop, j₁, hhead⟩ :=
        halted_of_copyEntry hhalted hsource hthere.1 hp hl hfree hentry
      exact ⟨rels, stop, j₁, hhead.of_head hsorted.1⟩
    · obtain ⟨rels, hv⟩ := visited_of_copyEntry hvisited hsource hnull hthere.1 hp hl hfree hentry
      have hgrew := hv.copies.grew hp
      have hthere₁ : ∀ other ∈ names, j₁.disk.tree.get? (other :: l) ≠ none :=
        fun other hother => hgrew.grown.get?_ne_none (hthere.2 other hother)
      obtain ⟨rels', stop, j₂, htail⟩ := ih hsorted.2 hthere₁ hgrew.proper (hgrew.enters hl)
        (hfree.of_grown hgrew.grown) hrest
      exact ⟨rels ++ rels', stop, j₂, .cons hsorted.1 hp hv htail⟩

end Entries

theorem halted_of_copyTree {depth : Nat} (hp : j.disk.Proper) (hl : j.disk.Enters source l)
    (hfree : j.disk.tree.LinkFreeBelow l)
    (h : copyTree sel overwrite depth source destination j = .error f j') :
    ∃ rels stop j₁,
      Halted overwrite sel source destination l (fun _ => True) rels stop f j j₁ j' := by
  have hd : ∀ {j : CopyJob} {source l}, j.disk.Proper → j.disk.Enters source l →
      j.disk.tree.get? l = some .directory :=
    fun hp hl => hl.directory hp.grounded (hp.starts _)
  have hfirst : ∀ rel : List String, True → ¬rel < [] := fun rel _ => List.not_lt_nil rel
  induction depth generalizing source destination l f j j' with
  | zero =>
    cases h
    exact ⟨[], [], j, .of_stops (.deep []) (by simp [hd hp hl]) trivial hfirst⟩
  | succ depth ih =>
    rw [copyTree] at h
    split at h
    · cases h
    · rename_i hexcluded
      cases hlist : j.disk.list source with
      | error g =>
        rw [bind_of_error (CopyJob.asking_of_error hlist)] at h
        cases h
        have hlist' : j.disk.list (source.descend []) = .error f := by rwa [Path.descend_nil]
        exact ⟨[], [], j, .of_stops (.list [] hlist') (by simp [hd hp hl]) trivial hfirst⟩
      | ok names =>
        rw [bind_of_ok (CopyJob.asking_of_ok hlist)] at h
        obtain ⟨hnull, l', hfind, rfl⟩ := Disk.list_eq_ok_iff.1 hlist
        obtain rfl := hl.unique (Disk.find_eq_directory_iff.1 hfind).2
        obtain ⟨rels, stop, j₁, hnames⟩ := halted_of_copyEntries
          (fun name j j' hp hl hfree h => visited_of_copyTree hp hl hfree h)
          (fun name j f j' hp hl hfree h => ih hp hl hfree h) (Bool.not_eq_true _ ▸ hexcluded) hnull
          (hp.tree.pairwise_sortedNames _) (fun name hname => Tree.mem_sortedNames_iff.1 hname) hp hl
          hfree h
        exact ⟨rels, stop, j₁, hnames.of_names hp.grounded (hd hp hl)⟩

theorem halted_of_performWithin {t : CopyTask} {limit : Nat} (hp : j.disk.Proper)
    (hsel : Selection.ofPatterns t.included t.excluded = .ok sel)
    (hsource : j.disk.resolve t.source = .ok source) (hl : j.disk.Enters source l)
    (hfree : j.disk.tree.LinkFreeBelow l) (h : t.performWithin limit j = .error f j') :
    ∃ rels stop j₁,
      Halted t.overwrite sel source t.destination l (fun _ => True) rels stop f (t.begun j) j₁ j' := by
  rw [performWithin_of_ok hsel hsource] at h
  have hbegun : (t.begun j).disk.Proper := hp
  exact halted_of_copyTree hbegun hl hfree h

theorem copyTree_of_not_entered {depth : Nat} (hnot : ∀ l, ¬j.disk.Enters source l)
    (h : copyTree sel overwrite depth source destination j = .error f j') : j' = j := by
  cases depth with
  | zero =>
    cases h
    rfl
  | succ depth =>
    rw [copyTree] at h
    split at h
    · cases h
    · cases hlist : j.disk.list source with
      | error g =>
        rw [bind_of_error (CopyJob.asking_of_error hlist)] at h
        cases h
        rfl
      | ok names =>
        obtain ⟨-, l, hfind, -⟩ := Disk.list_eq_ok_iff.1 hlist
        exact absurd (Disk.find_eq_directory_iff.1 hfind).2 (hnot l)

theorem performWithin_of_not_entered {t : CopyTask} {limit : Nat}
    (hnot : ∀ sel source l, Selection.ofPatterns t.included t.excluded = .ok sel →
      j.disk.resolve t.source = .ok source → ¬j.disk.Enters source l)
    (h : t.performWithin limit j = .error f j') : j' = t.begun j := by
  rcases performWithin_cases limit t j with ⟨g, -, hrun⟩ | ⟨sel, source, hsel, hsource, hrun⟩
  · rw [h] at hrun
    cases hrun
    rfl
  · rw [h] at hrun
    exact copyTree_of_not_entered (fun l => hnot sel source l hsel hsource) hrun.symm

end Halted

/-- Files from below one place have been laid below another, where nothing was. All else that is new
are directories, and they hold these files or are on the way to where one more was to be laid. -/
structure LaidBefore (l place : Location) (rels : List (List String)) (stop : List String)
    (t t' : Tree) : Prop where
  files : ∀ rel ∈ rels, t.get? (rel.reverse ++ place) = none ∧
    ∃ bytes, t.content? (rel.reverse ++ l) = some bytes ∧
      t'.get? (rel.reverse ++ place) = some (.file bytes)
  others : ∀ k, t'.get? k ≠ t.get? k → t.get? k = none ∧
    ((∃ rel ∈ rels, k <:+ rel.reverse ++ place) ∨
      t'.get? k = some .directory ∧ k <:+ stop.dropLast.reverse ++ place)

section LaidBefore

variable {t t' : Tree} {l place : Location} {rel rel' stop : List String}
  {rels : List (List String)} {d d₁ d' : Disk}

theorem Laid.before (h : Laid l place rels d.tree d₁.tree)
    (h' : d' = d₁ ∨ ∃ k, k <:+ stop.dropLast.reverse ++ place ∧ Disk.Opened k d₁ d') :
    LaidBefore l place rels stop d.tree d'.tree := by
  rcases h' with rfl | ⟨way, hway, hopened⟩
  · refine ⟨h.files, fun k hk => ?_⟩
    obtain ⟨hnone, hrel⟩ := h.others k hk
    exact ⟨hnone, .inl hrel⟩
  · constructor
    · intro rel hrel
      obtain ⟨hnone, bytes, hbytes, hfile⟩ := h.files rel hrel
      refine ⟨hnone, bytes, hbytes, ?_⟩
      rw [hopened.held, if_neg (by simp [hfile]), hfile]
    · intro k hk
      rw [hopened.held] at hk ⊢
      split at hk
      · rename_i hmade
        refine ⟨?_, .inr ⟨if_pos hmade, hmade.1.trans hway⟩⟩
        by_contra hsome
        rw [← h.get?_eq hsome] at hsome
        exact hsome hmade.2
      · obtain ⟨hnone, hrel⟩ := h.others k hk
        exact ⟨hnone, .inl hrel⟩

theorem eq_of_prefix (hg : t.Grounded) (hrel : t.content? (rel.reverse ++ l) ≠ none)
    (hrel' : t.get? (rel'.reverse ++ l) ≠ none) (h : rel <+: rel') : rel = rel' := by
  obtain ⟨rest, rfl⟩ := h
  rw [List.reverse_append, List.append_assoc] at hrel'
  by_cases hrest : rest = []
  · rw [hrest, List.append_nil]
  · exact absurd (Tree.content?_of_directory (hg.of_append hrel' (by simpa using hrest))) hrel

theorem LaidBefore.get?_later (h : LaidBefore l place rels stop t t') (hg : t.Grounded)
    (hl : t.get? l = some .directory) (hstop : t.get? (stop.reverse ++ l) ≠ none)
    (hrel : t.content? (rel.reverse ++ l) ≠ none) (hlater : rel ∉ rels) :
    t'.get? (rel.reverse ++ place) = t.get? (rel.reverse ++ place) := by
  by_contra hne
  obtain ⟨-, ⟨rel', hrel', hsuffix⟩ | ⟨-, hsuffix⟩⟩ := h.others _ hne
  · have hfront := prefix_of_suffix hsuffix
    obtain ⟨-, bytes, hbytes, -⟩ := h.files rel' hrel'
    obtain rfl := eq_of_prefix hg hrel (Tree.get?_ne_none_of_content (by simp [hbytes])) hfront
    exact hlater hrel'
  · have hfront := prefix_of_suffix hsuffix
    -- The entry where the copying stops is not in a file, so it is the source itself.
    obtain rfl := eq_of_prefix hg hrel hstop (hfront.trans (List.dropLast_prefix stop))
    have hempty : rel = [] := by
      by_contra hne
      have hlength := hfront.length_le
      rw [List.length_dropLast] at hlength
      have := List.length_pos_iff.2 hne
      omega
    rw [hempty] at hrel
    exact hrel (Tree.content?_of_directory hl)

end LaidBefore

section Apart

variable {overwrite : Bool} {sel : Selection} {source destination : Path} {l : Location}
  {stop : List String} {rels : List (List String)} {among : List String → Prop} {f : Fault}
  {j j₁ j' : CopyJob}

theorem Stops.opened (h : Stops overwrite sel source destination j stop f j') (hp : j.disk.Proper)
    (hup : j.disk.Steady destination) (hparts : destination.Parted)
    (hfree : ∀ place, j.disk.Lands destination place → j.disk.tree.LinkFreeBelow place) :
    j'.disk = j.disk ∨ ∃ place k, j.disk.Lands destination place ∧
      k <:+ stop.dropLast.reverse ++ place ∧ Disk.Opened k j.disk j'.disk := by
  obtain ⟨-, -, hsame | ⟨way, name, rfl, hnamed, hmade⟩⟩ := h.leaves
  · exact .inl hsame
  · have hway : ∀ part ∈ way, IsName part := fun part hpart => (hnamed part hpart).isName
    have htowards := Disk.openedTowards_of_makeDirectories hp.grounded (hp.starts _)
      (hup.descend hway) (hparts.descend hway)
    rw [← hmade] at htowards
    rcases htowards with hsame | ⟨l', k, hlands, hk, hopened⟩
    · exact .inl hsame
    · obtain ⟨place, hplace, rfl⟩ := hlands.below hway hfree
      rw [List.dropLast_concat]
      exact .inr ⟨place, k, hplace, hk, hopened⟩

theorem Halted.laid (h : Halted false sel source destination l among rels stop f j j₁ j')
    (hp : j.disk.Proper) (hl : j.disk.Enters source l) (hfree : j.disk.tree.LinkFreeBelow l)
    (hup : j.disk.Steady destination) (hparts : destination.Parted)
    (hapart : ∀ place, j.disk.Lands destination place →
      j.disk.tree.LinkFreeBelow place ∧ ¬place <:+ l ∧ ¬l <:+ place) :
    ∃ place, (j'.disk = j.disk ∨ j.disk.Lands destination place) ∧
      j.disk.tree.get? (stop.reverse ++ l) ≠ none ∧ Laid l place rels j.disk.tree j₁.disk.tree ∧
      (j'.disk = j₁.disk ∨ ∃ k, k <:+ stop.dropLast.reverse ++ place ∧
        Disk.Opened k j₁.disk j'.disk) := by
  by_cases hrels : rels = []
  · have hcopies := h.copies
    rw [hrels] at hcopies ⊢
    cases hcopies
    rcases h.stops.opened hp hup hparts fun place hplace => (hapart place hplace).1 with
      hsame | ⟨place, k, hplace, hk, hopened⟩
    · exact ⟨l, .inl hsame, h.there, .nil l l _, .inl hsame⟩
    · exact ⟨place, .inr hplace, h.there, .nil l place _, .inr ⟨k, hk, hopened⟩⟩
  · obtain ⟨place, hlands, henters⟩ := h.copies.lands hrels hp hup hparts
    obtain ⟨hfree', hout, hin⟩ := hapart place hlands
    have hgrew := h.copies.grew hp
    have hlaid := h.copies.laid hp hup hparts hl hfree
      (fun d hd place' hplace' =>
        hlands.enters_unique hp.grounded (hp.starts _) hd.here hd.grown hplace')
      hfree' hout hin
    -- Now the destination can be entered, and so it lands nowhere else.
    have hplace : ∀ place', j₁.disk.Lands destination place' → place' = place := fun place' h' =>
      (h'.enters_unique hgrew.proper.grounded (hgrew.proper.starts _) rfl (.refl _) henters).symm
    have hthere := h.there
    rw [hlaid.get?_source hout hin (List.suffix_append _ l)] at hthere
    refine ⟨place, .inr hlands, hthere, hlaid, ?_⟩
    rcases h.stops.opened hgrew.proper (hgrew.steady hup) hparts
      (fun place' h' => hplace place' h' ▸ hfree'.of_grown hgrew.grown) with
      hsame | ⟨place', k, hplace', hk, hopened⟩
    · exact .inl hsame
    · rw [hplace place' hplace'] at hk
      exact .inr ⟨k, hk, hopened⟩

end Apart

/-- If a task may not overwrite, and its source and the place where its destination lands are apart
and without links, it fails if a target is there. Whenever it fails, either there is nothing that it
could have copied, or it stops at an entry of the source: the files before it have been laid in order
and recorded, and the targets of the others are as they were. -/
theorem perform_halts (t : CopyTask) (ht : t.overwrite = false) (hparts : t.destination.Parted)
    (j : CopyJob) (hp : j.disk.Proper) (hup : j.disk.Steady t.destination)
    (hapart : ∀ source l, j.disk.resolve t.source = .ok source → j.disk.Enters source l →
      j.disk.tree.LinkFreeBelow l ∧ ∀ place, j.disk.Lands t.destination place →
        j.disk.tree.LinkFreeBelow place ∧ ¬place <:+ l ∧ ¬l <:+ place) :
    (∀ sel source l rel place, Selection.ofPatterns t.included t.excluded = .ok sel →
      j.disk.resolve t.source = .ok source → j.disk.Enters source l →
      sel.Chooses j.disk.tree source l rel → j.disk.Lands t.destination place →
      j.disk.tree.get? (rel.reverse ++ place) ≠ none → ∃ f j', t.perform j = .error f j') ∧
    ∀ f j', t.perform j = .error f j' →
      (j' = t.begun j ∧ ∀ sel source l, Selection.ofPatterns t.included t.excluded = .ok sel →
        j.disk.resolve t.source = .ok source → ¬j.disk.Enters source l) ∨
      ∃ sel source l rels stop j₁ place, Selection.ofPatterns t.included t.excluded = .ok sel ∧
        j.disk.resolve t.source = .ok source ∧ j.disk.Enters source l ∧
        Stops false sel source t.destination j₁ stop f j' ∧
        j.disk.tree.get? (stop.reverse ++ l) ≠ none ∧ rels.Pairwise (· < ·) ∧
        (∀ rel, rel ∈ rels ↔ sel.Chooses j.disk.tree source l rel ∧ rel < stop) ∧
        j'.copied = rels.map (fun rel => (t.destination.descend rel).toText) ∧
        j'.messages = j.messages ++ t.opening :: rels.map (fun rel => "copied file '" ++
          (source.descend rel).toText ++ "' to '" ++ (t.destination.descend rel).toText ++ "'") ∧
        (j'.disk = j.disk ∨ j.disk.Lands t.destination place) ∧
        LaidBefore l place rels stop j.disk.tree j'.disk.tree ∧
        ∀ rel, sel.Chooses j.disk.tree source l rel → ¬rel < stop →
          j'.disk.tree.get? (rel.reverse ++ place) = j.disk.tree.get? (rel.reverse ++ place) := by
  have hp' : (t.begun j).disk.Proper := hp
  constructor
  · intro sel source l rel place hsel hsource hl hrel hplace hthere
    obtain ⟨hfree, happly⟩ := hapart source l hsource hl
    have hl' : (t.begun j).disk.Enters source l := hl
    cases hrun : t.perform j with
    | error f j' => exact ⟨f, j', rfl⟩
    | ok _ j' =>
      obtain ⟨sel', rels, hsel', hv⟩ := visited_of_performWithin hp hsource hl hfree hrun
      rw [hsel] at hsel'
      cases hsel'
      rw [ht] at hv
      have hmem : rel ∈ rels := hv.mem_of_chooses hp' hl' hrel
      obtain ⟨place', -, henters⟩ := hv.copies.lands (List.ne_nil_of_mem hmem) hp' hup hparts
      have hgrew := hv.copies.grew hp'
      obtain rfl := hplace.enters_unique hp.grounded (hp.starts _) hgrew.here hgrew.grown henters
      obtain ⟨hfree', hout, hin⟩ := happly place' hplace
      have hlaid := hv.copies.laid hp' hup hparts hl' hfree
        (fun d hd place hplace' =>
          hplace.enters_unique hp.grounded (hp.starts _) hd.here hd.grown hplace')
        hfree' hout hin
      -- Whatever is laid is laid where nothing stood.
      exact absurd (hlaid.files rel hmem).1 hthere
  · intro f j' hrun
    -- Without a directory to enter nothing is copied; else the copying stops at some entry.
    by_cases hentered : ∃ sel source l, Selection.ofPatterns t.included t.excluded = .ok sel ∧
        j.disk.resolve t.source = .ok source ∧ j.disk.Enters source l
    · obtain ⟨sel, source, l, hsel, hsource, hl⟩ := hentered
      obtain ⟨hfree, happly⟩ := hapart source l hsource hl
      have hl' : (t.begun j).disk.Enters source l := hl
      have hd : j.disk.tree.get? l = some .directory := hl.directory hp.grounded (hp.starts _)
      obtain ⟨rels, stop, j₁, hh⟩ := halted_of_performWithin hp hsel hsource hl hfree hrun
      rw [ht] at hh
      obtain ⟨place, hplace, hstop, hlaid, hmade⟩ := hh.laid hp' hl' hfree hup hparts happly
      obtain ⟨hcopied, hmessages, -⟩ := hh.stops.leaves
      rw [hh.copies.copied_eq] at hcopied
      rw [hh.copies.messages_eq] at hmessages
      have hbefore : LaidBefore l place rels stop j.disk.tree j'.disk.tree := hlaid.before hmade
      refine .inr ⟨sel, source, l, rels, stop, j₁, place, hsel, hsource, hl, hh.stops, hstop,
        hh.sorted, fun rel => ?_, hcopied, ?_, hplace, hbefore, fun rel hrel hlater => ?_⟩
      · constructor
        · intro hrel
          obtain ⟨-, bytes, hbytes, -⟩ := hlaid.files rel hrel
          have hthere : j.disk.tree.content? (rel.reverse ++ l) ≠ none := by
            simp only [begun] at hbytes
            simp [hbytes]
          exact ⟨⟨hh.picked rel hrel, hthere⟩, hh.before rel hrel⟩
        · rintro ⟨hrel, hlt⟩
          exact hh.all rel trivial hrel hlt
      · rw [hmessages, begun, List.append_assoc, List.singleton_append]
      · apply hbefore.get?_later hp.grounded hd hstop hrel.there
        exact fun hmem => hlater (hh.before rel hmem)
    · have hnot : ∀ sel source l, Selection.ofPatterns t.included t.excluded = .ok sel →
          j.disk.resolve t.source = .ok source → ¬j.disk.Enters source l :=
        fun sel source l hsel hsource hl => hentered ⟨sel, source, l, hsel, hsource, hl⟩
      exact .inl ⟨performWithin_of_not_entered hnot hrun, hnot⟩

def clashing : CopyJob where
  disk :=
    { tree := ⟨[(["src"], .directory), (["a", "src"], .file (Text.Utf8.encode "1")),
        (["b", "src"], .file (Text.Utf8.encode "2")), (["out"], .directory),
        (["b", "out"], .file (Text.Utf8.encode "old"))]⟩
      here := [] }
  messages := ["copied file '/x' to 'y/x'"]
  copied := ["y/x"]

def clashingTask : CopyTask where
  source := .ofText "src"
  destination := .ofText "out"
  overwrite := false
  included := none
  excluded := none

theorem clashing_source : clashing.disk.resolve clashingTask.source = .ok (.absolute ["src"]) := by
  rfl

theorem clashing_list : clashing.disk.list (.absolute ["src"]) = .ok ["a", "b"] :=
  Disk.list_of_pairwise (l := ["src"]) (by decide +kernel) (by rfl) (by decide +kernel)

theorem clashing_run : clashingTask.perform clashing =
    copyEntries (copyTree ⟨none, none⟩ false 959) ⟨none, none⟩ false (.absolute ["src"])
      (.ofText "out") ["a", "b"] (clashingTask.begun clashing) := by
  rw [perform_eq, performWithin_of_ok rfl clashing_source, deepest, copyTree,
    if_neg (by decide +kernel)]
  exact bind_of_ok (CopyJob.asking_of_ok clashing_list)

theorem clashing_after : (clashingTask.perform.after clashing).copied = ["out/a"] ∧
    (clashingTask.perform.after clashing).disk.tree.holdsFile ["a", "out"] (fun _ => true) = true := by
  rw [after, clashing_run]
  decide +kernel

theorem perform_halts_clashing : clashingTask.overwrite = false ∧
    clashingTask.destination.Parted ∧ clashing.disk.Proper ∧
    clashing.disk.Steady clashingTask.destination ∧
    (∀ source l, clashing.disk.resolve clashingTask.source = .ok source →
      clashing.disk.Enters source l → clashing.disk.tree.LinkFreeBelow l ∧
      ∀ place, clashing.disk.Lands clashingTask.destination place →
        clashing.disk.tree.LinkFreeBelow place ∧ ¬place <:+ l ∧ ¬l <:+ place) ∧
    ∃ f j' rels stop, clashingTask.perform clashing = .error f j' ∧ j'.copied = ["out/a"] ∧
      ["a"] ∈ rels ∧ ["b"] ∉ rels ∧
      LaidBefore ["src"] ["out"] rels stop clashing.disk.tree j'.disk.tree := by
  have hparts : clashingTask.destination.Parted := Path.parted_ofText _
  have hproper : clashing.disk.Proper := ⟨Tree.proper_of_isProper (by decide +kernel), rfl⟩
  have hup : clashing.disk.Steady clashingTask.destination :=
    Disk.steady_of_no_up (by decide +kernel)
  have hlinks : clashing.disk.tree.LinkFree := Tree.linkFree_of_isLinkFree (by decide +kernel)
  have hfree : ∀ l, clashing.disk.tree.LinkFreeBelow l := fun l k target _ => hlinks k target
  have hl : clashing.disk.Enters (.absolute ["src"]) ["src"] :=
    (Disk.find_eq_directory_iff.1 (by rfl)).2
  have hout : clashing.disk.Enters clashingTask.destination ["out"] :=
    (Disk.find_eq_directory_iff.1 (by rfl)).2
  have hlands : ∀ place, clashing.disk.Lands clashingTask.destination place → place = ["out"] :=
    fun place h =>
      (h.enters_unique hproper.grounded (hproper.starts _) rfl (.refl _) hout).symm
  have hunique : ∀ source l, clashing.disk.resolve clashingTask.source = .ok source →
      clashing.disk.Enters source l → source = .absolute ["src"] ∧ l = ["src"] := by
    intro source l hsource hl'
    rw [clashing_source] at hsource
    cases hsource
    exact ⟨rfl, hl.unique hl'⟩
  have hapart : ∀ source l, clashing.disk.resolve clashingTask.source = .ok source →
      clashing.disk.Enters source l → clashing.disk.tree.LinkFreeBelow l ∧
      ∀ place, clashing.disk.Lands clashingTask.destination place →
        clashing.disk.tree.LinkFreeBelow place ∧ ¬place <:+ l ∧ ¬l <:+ place := by
    intro source l hsource hl'
    obtain ⟨-, rfl⟩ := hunique source l hsource hl'
    refine ⟨hfree _, fun place h => ?_⟩
    rw [hlands place h]
    exact ⟨hfree _, by decide, by decide⟩
  refine ⟨rfl, hparts, hproper, hup, hapart, ?_⟩
  obtain ⟨hfails, hhalts⟩ := perform_halts clashingTask rfl hparts clashing hproper hup hapart
  have hall : ∀ rel, clashing.disk.tree.content? (rel.reverse ++ ["src"]) ≠ none →
      Selection.Chooses ⟨none, none⟩ clashing.disk.tree (.absolute ["src"]) ["src"] rel :=
    fun rel hthere => ⟨⟨fun _ _ => rfl, rfl⟩, hthere⟩
  have ha := hall ["a"] (by decide +kernel)
  have hb := hall ["b"] (by decide +kernel)
  have hclash : clashing.disk.tree.get? ["b", "out"] ≠ none := by decide +kernel
  obtain ⟨f, j', hrun⟩ := hfails _ _ ["src"] ["b"] ["out"] rfl clashing_source hl hb hout.lands hclash
  obtain ⟨hcopied, hfile⟩ := clashing_after
  rw [after_of_error hrun] at hcopied hfile
  obtain ⟨bytes, hfile, -⟩ := Tree.file_of_holdsFile hfile
  have hfirst : j'.disk.tree.get? ["a", "out"] ≠ clashing.disk.tree.get? ["a", "out"] := by
    rw [hfile]
    rintro ⟨⟩
  rcases hhalts f j' hrun with ⟨-, hnot⟩ |
    ⟨sel, source, l, rels, stop, j₁, place, hsel, hsource, hl', -, -, -, hchosen, -, -, hplace,
      hbefore, hlater⟩
  · exact absurd hl (hnot ⟨none, none⟩ _ _ rfl clashing_source)
  · obtain ⟨rfl, rfl⟩ := hunique source l hsource hl'
    cases hsel
    rcases hplace with hsame | hplace
    · rw [hsame] at hfirst
      exact absurd rfl hfirst
    · obtain rfl := hlands place hplace
      refine ⟨f, j', rels, stop, hrun, hcopied, (hchosen _).2 ⟨ha, ?_⟩, fun hmem => ?_, hbefore⟩
      · by_contra hnot
        exact hfirst (hlater _ ha hnot)
      · exact hclash (hbefore.files _ hmem).1

end CopyTask

end BuildScripts
