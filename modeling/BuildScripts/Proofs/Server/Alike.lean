import BuildScripts.Proofs.Disk.Agree
import BuildScripts.Proofs.Script.Files
import BuildScripts.Proofs.Server.Upload

/-!
What an upload tells about the disk outside the scripts directory. Main statement: in two worlds
without links a proper script is answered alike exactly when the files that its lines look up are
there in both or in neither, as far as its lines are read, and it can be stored in both or in
neither. Any other script is answered alike also where both worlds meet an error of the server.
-/

namespace BuildScripts.Server

open BuildScripts.Text

open Disk (collapse)

structure World (c : Config) where
  library : Library
  root : Path
  workshop : Workshop Imports
  server : Server Imports
  created : create c library workshop.disk root = .ok server
  grounded : workshop.disk.tree.Grounded
  linkFree : workshop.disk.tree.LinkFree

namespace World

variable {c : Config} {r : Request} {u : Submission} {line : String}

def home (a : World c) : Location :=
  collapse [] a.server.scriptsDir.parts

def answer (a : World c) (r : Request) : Response :=
  (a.server.handle r a.workshop).1

def place (a : World c) (u : Submission) : Path :=
  a.server.placeOf u.fileName

def setting (a : World c) (u : Submission) : Setting :=
  c.manifest.setting (.absolute a.home.reverse) a.workshop.disk
    (.absolute (collapse [] (a.place u).parts).reverse)

structure Admits (a : World c) (r : Request) (u : Submission) : Prop where
  authorized : a.server.authorizes (r.header? "authorization") = true
  plain : isPlainName u.fileName = true
  noNull : (a.place u).hasNull = false

structure Reaches (a : World c) (r : Request) (u : Submission) (line : String) : Prop
    extends Admits a r u where
  earlier : ∃ before after, physicalLines u.text = before ++ line :: after ∧
    ∀ l ∈ before, ∃ y, (a.setting u).yield l = .ok y

structure Accepts (a : World c) (r : Request) (u : Submission) : Prop extends Admits a r u where
  lines : ∃ ys, (a.setting u).yields (physicalLines u.text) = .ok ys

def Stores (a : World c) (u : Submission) : Prop :=
  ∃ d, a.server.keep u a.workshop.disk = .ok () d

/-- The files that lines look up are there in both worlds or in neither, as far as both read the
script, and it can be stored in both or in neither. -/
structure Alike (a b : World c) (r : Request) (u : Submission) : Prop where
  lookups : ∀ line path, a.Reaches r u line → b.Reaches r u line →
    (a.setting u).LooksUp line path → b.workshop.disk.isFile path = a.workshop.disk.isFile path
  storing : a.Accepts r u → b.Accepts r u → (b.Stores u ↔ a.Stores u)

theorem lists (hi : c.allowImports = false) (a : World c) :
    a.server.Lists c.manifest (.absolute a.home.reverse) :=
  lists_of_create_linkFree a.created hi a.linkFree

theorem resolve_place (hi : c.allowImports = false) (a : World c)
    (hn : (a.place u).hasNull = false) : a.workshop.disk.resolve (a.place u) =
      .ok (.absolute (collapse [] (a.place u).parts).reverse) :=
  Disk.resolve_of_linkFree a.linkFree (a.lists hi).isAbsolute hn

theorem answer_of_admits (hi : c.allowImports = false) (a : World c) (hu : uploadOf? r = some u)
    (ha : a.Admits r u) : a.answer r =
      match (a.setting u).yields (physicalLines u.text) with
      | .error f => faultAnswer (checkRejection u (rejecting (a.place u) u.text f))
      | .ok ys =>
        match a.server.keep u a.workshop.disk with
        | .ok _ _ => .ofJson 200 (receiptOf u.fileName (a.place u) ys).toValue
        | .error _ _ => .internalError := by
  rw [answer, handle_upload (a.lists hi) hu, ha.authorized, ha.plain]
  have hr := a.resolve_place hi ha.noNull
  cases hy : (a.setting u).yields (physicalLines u.text) with
  | error f =>
    rw [place] at hr
    rw [prepared_of_fault hr hy]
    rfl
  | ok ys =>
    rw [place] at hr
    rw [prepared_of_yields hr hy]
    cases a.server.keep u a.workshop.disk with
    | error f d => rfl
    | ok _ d =>
      exact congrArg (fun receipt : Receipt => Response.ofJson 200 receipt.toValue)
        (ofAnalysis_analysis hy _ _)

theorem line_of_rejection {j j' : Rejection} (h : rejection j = rejection j') {line : String}
    (hl : j.line = some line) (hl' : j'.line ≠ none) : j'.line = some line := by
  obtain ⟨line', hl''⟩ := Option.ne_none_iff_exists'.1 hl'
  simp [rejection, rejectionValue, Response.withDetail, Response.ofJson, Value.object,
    Value.ofText?, hl, hl''] at h
  rw [hl'', h.2.2.1]

theorem answer_of_fault (hi : c.allowImports = false) (a : World c) (hu : uploadOf? r = some u)
    (ha : a.Reaches r u line) {f : Fault} (hf : (a.setting u).yield line = .error f) :
    a.answer r = faultAnswer (checkRejection u (rejecting (a.place u) u.text f)) := by
  obtain ⟨before, after, hsplit, hb⟩ := ha.earlier
  rw [a.answer_of_admits hi hu ha.toAdmits,
    Setting.yields_eq_error_iff.2 ⟨before, line, after, hsplit, hb, hf⟩]

theorem yield_of_rejection (hi : c.allowImports = false) (a : World c) (hu : uploadOf? r = some u)
    (ha : a.Admits r u) {j : Rejection} (h : a.answer r = rejection j) (hj : j.line = some line) :
    ∃ f, (a.setting u).yield line = .error f := by
  rw [a.answer_of_admits hi hu ha] at h
  cases hy : (a.setting u).yields (physicalLines u.text) with
  | ok ys =>
    rw [hy] at h
    cases hk : a.server.keep u a.workshop.disk with
    | ok _ d =>
      rw [hk] at h
      cases h
    | error f d =>
      rw [hk] at h
      cases h
  | error f =>
    obtain ⟨before, l, after, -, -, hl⟩ := Setting.yields_eq_error_iff.1 hy
    have hblame := Setting.blames_of_yield hl
    rw [hy] at h
    cases f with
    | unresolvable v =>
      have hv : v.line = some l := hblame
      simp only [rejecting, checkRejection] at h
      split at h
      · have hline : some l = some line := by
          rw [← hv]
          exact line_of_rejection h.symm hj (by simp [hv])
        cases hline
        exact ⟨_, hl⟩
      · cases h
    | rejected _ => cases hblame
    | _ => cases h

theorem answer_of_missing (hi : c.allowImports = false) (a : World c) (hu : uploadOf? r = some u)
    (ha : a.Reaches r u line) {path : Path} (hl : (a.setting u).LooksUp line path)
    (hf : a.workshop.disk.isFile path = .ok false) : ∃ j : Rejection, j.line = some line ∧
      a.answer r = faultAnswer (checkRejection u (.rejected j)) := by
  obtain ⟨token, f, hy⟩ := Setting.yield_of_looksUp hl
  simp only [Setting.fileAt, setting, Manifest.setting, hf, Except.map] at hy
  exact ⟨_, rfl, a.answer_of_fault hi hu ha hy⟩

section Pair

variable {a b : World c}

theorem authorizes_eq (a : World c) (header : Option String) :
    a.server.authorizes header =
      (!c.connection.apiKey.truthy || header == some ("Bearer " ++ c.connection.apiKey.toText)) := by
  rw [authorizes, key_of_create a.created]

theorem place_eq (hdir : b.server.scriptsDir = a.server.scriptsDir) : b.place u = a.place u := by
  rw [place, place, placeOf, placeOf, hdir]

theorem Admits.other (hdir : b.server.scriptsDir = a.server.scriptsDir) (h : a.Admits r u) :
    b.Admits r u where
  authorized := by rw [b.authorizes_eq, ← a.authorizes_eq, h.authorized]
  plain := h.plain
  noNull := by rw [place_eq hdir, h.noNull]

theorem samePaths (a b : World c) : a.workshop.disk.SamePaths b.workshop.disk :=
  fun _ hp => Disk.resolve_eq_of_linkFree a.linkFree b.linkFree hp

theorem setting_eq (hdir : b.server.scriptsDir = a.server.scriptsDir) (u : Submission) :
    b.setting u = c.manifest.setting (.absolute a.home.reverse) b.workshop.disk
      (.absolute (collapse [] (a.place u).parts).reverse) := by
  rw [setting, home, home, place_eq hdir, hdir]

theorem yield_eq (hdir : b.server.scriptsDir = a.server.scriptsDir)
    (h : ∀ path, (a.setting u).LooksUp line path →
      b.workshop.disk.isFile path = a.workshop.disk.isFile path) :
    (b.setting u).yield line = (a.setting u).yield line := by
  rw [setting_eq hdir]
  exact yield_of_samePaths (a.samePaths b) rfl h

theorem answer_eq_of_not_admits (hi : c.allowImports = false)
    (hdir : b.server.scriptsDir = a.server.scriptsDir) (hu : uploadOf? r = some u)
    (h : ¬ a.Admits r u) : b.answer r = a.answer r := by
  have hkey : b.server.authorizes (r.header? "authorization") =
      a.server.authorizes (r.header? "authorization") := by rw [authorizes_eq, authorizes_eq]
  rw [answer, answer, handle_upload (a.lists hi) hu, handle_upload (b.lists hi) hu, hkey]
  cases ha : a.server.authorizes (r.header? "authorization") with
  | false => rfl
  | true =>
    cases hp : isPlainName u.fileName with
    | false => rfl
    | true =>
      have hn : (a.place u).hasNull = true := by
        cases hn : (a.place u).hasNull with
        | true => rfl
        | false => exact absurd ⟨ha, hp, hn⟩ h
      have hprepared : ∀ w : World c, (w.place u).hasNull = true →
          c.manifest.prepared (.absolute w.home.reverse) w.workshop.disk u.text
            (w.server.placeOf u.fileName) = .error .nullByte := by
        intro w hw
        rw [place] at hw
        rw [Manifest.prepared, Disk.resolve_of_null hw]
      rw [hprepared a hn, hprepared b (by rw [place_eq hdir, hn])]
      rfl

theorem answer_eq_of_alike (hi : c.allowImports = false)
    (hdir : b.server.scriptsDir = a.server.scriptsDir) (hu : uploadOf? r = some u)
    (h : a.Alike b r u) : b.answer r = a.answer r := by
  by_cases ha : a.Admits r u
  · have hb := ha.other hdir
    have hyields : (b.setting u).yields (physicalLines u.text) =
        (a.setting u).yields (physicalLines u.text) := by
      -- The lookups are compared only as far as both worlds have come.
      refine Setting.yields_congr fun before line after hsplit hba hbb => ?_
      exact yield_eq hdir fun path =>
        h.lookups line path ⟨ha, before, after, hsplit, hba⟩ ⟨hb, before, after, hsplit, hbb⟩
    rw [a.answer_of_admits hi hu ha, b.answer_of_admits hi hu hb, place_eq hdir, hyields]
    cases hy : (a.setting u).yields (physicalLines u.text) with
    | error f => rfl
    | ok ys =>
      have hiff := h.storing ⟨ha, ys, hy⟩ ⟨hb, ys, hyields.trans hy⟩
      simp only [Stores] at hiff
      cases hk : a.server.keep u a.workshop.disk with
      | ok _ d =>
        obtain ⟨d', hk'⟩ := hiff.2 ⟨d, hk⟩
        rw [hk']
      | error f d =>
        cases hk' : b.server.keep u b.workshop.disk with
        | error f' d' => rfl
        | ok _ d' =>
          obtain ⟨d'', hd⟩ := hiff.1 ⟨d', hk'⟩
          rw [hk] at hd
          cases hd
  · exact answer_eq_of_not_admits hi hdir hu ha

section Told

variable (hi : c.allowImports = false) (hdir : b.server.scriptsDir = a.server.scriptsDir)
  (hu : uploadOf? r = some u) {path : Path}

theorem false_of_isFile_ne (a b : World c)
    (h : b.workshop.disk.isFile path ≠ a.workshop.disk.isFile path) :
    a.workshop.disk.isFile path = .ok false ∨ b.workshop.disk.isFile path = .ok false := by
  cases hfa : a.workshop.disk.isFile path with
  | ok found =>
    cases found with
    | false => exact .inl rfl
    | true =>
      cases hfb : b.workshop.disk.isFile path with
      | ok found' =>
        cases found' with
        | false => exact .inr rfl
        | true => exact absurd (hfb.trans hfa.symm) h
      | error e => exact absurd hfb (Disk.isFile_ne_error_of_true a.linkFree b.linkFree hfa _)
  | error e =>
    cases hfb : b.workshop.disk.isFile path with
    | ok found' =>
      cases found' with
      | false => exact .inr rfl
      | true => exact absurd hfa (Disk.isFile_ne_error_of_true b.linkFree a.linkFree hfb _)
    | error e' =>
      rw [hfa, hfb, Disk.testEntry_fault hfa, Disk.testEntry_fault hfb] at h
      exact absurd rfl h

theorem LooksUp.other (hdir : b.server.scriptsDir = a.server.scriptsDir)
    (hl : (a.setting u).LooksUp line path) : (b.setting u).LooksUp line path := by
  obtain ⟨hm, token, htoken, hlook⟩ := hl
  refine ⟨hm, token, htoken, ?_⟩
  rw [setting_eq hdir]
  exact (lookup_of_samePaths (a.samePaths b) rfl).trans hlook

include hi hu

theorem missing_of_answer_eq (ha : a.Reaches r u line) (hb : b.Reaches r u line)
    (hla : (a.setting u).LooksUp line path) (hlb : (b.setting u).LooksUp line path)
    (heq : b.answer r = a.answer r) (htold : a.answer r ≠ .internalError)
    (hf : a.workshop.disk.isFile path = .ok false) : b.workshop.disk.isFile path = .ok false := by
  obtain ⟨j, hj, hanswer⟩ := a.answer_of_missing hi hu ha hla hf
  have hrejection : a.answer r = rejection j := by
    rw [hanswer, checkRejection] at htold ⊢
    split
    · rfl
    · rename_i hshow
      rw [if_neg hshow] at htold
      exact absurd rfl htold
  obtain ⟨e, he⟩ := b.yield_of_rejection hi hu hb.toAdmits (heq.trans hrejection) hj
  obtain ⟨_, g, hyb⟩ := Setting.yield_of_looksUp hlb
  -- A file there would have the line read, and a name too long would be an error of the server.
  cases hfb : b.workshop.disk.isFile path with
  | ok found =>
    cases found with
    | false => rfl
    | true =>
      simp only [Setting.fileAt, setting, Manifest.setting, hfb, Except.map] at hyb
      rw [show (b.setting u).yield line = _ from hyb] at he
      cases he
  | error f =>
    simp only [Setting.fileAt, setting, Manifest.setting, hfb, Except.map] at hyb
    have hfault := b.answer_of_fault hi hu hb hyb
    rw [Disk.testEntry_fault hfb] at hfault
    exact absurd (heq.symm.trans hfault) htold

include hdir

theorem isFile_eq_of_answer_eq (heq : b.answer r = a.answer r) (htold : a.answer r ≠ .internalError)
    (ha : a.Reaches r u line) (hb : b.Reaches r u line) (hl : (a.setting u).LooksUp line path) :
    b.workshop.disk.isFile path = a.workshop.disk.isFile path := by
  have hlb := LooksUp.other hdir hl
  by_contra hne
  rcases false_of_isFile_ne a b hne with hfa | hfb
  · exact hne ((missing_of_answer_eq hi hu ha hb hl hlb heq htold hfa).trans hfa.symm)
  · have htold' : b.answer r ≠ .internalError := fun h => htold (heq.symm.trans h)
    exact hne (hfb.trans (missing_of_answer_eq hi hu hb ha hlb hl heq.symm htold' hfb).symm)

theorem isFile_eq_of_proper (hp : (properText? u.content).isSome = true)
    (heq : b.answer r = a.answer r) (ha : a.Reaches r u line) (hb : b.Reaches r u line)
    (hl : (a.setting u).LooksUp line path) :
    b.workshop.disk.isFile path = a.workshop.disk.isFile path := by
  have htold (w : World c) (hw : w.Reaches r u line) (hlw : (w.setting u).LooksUp line path)
      (hf : w.workshop.disk.isFile path = .ok false) : w.answer r ≠ .internalError := by
    obtain ⟨j, -, hanswer⟩ := w.answer_of_missing hi hu hw hlw hf
    rw [hanswer, checkRejection_of_proper hp]
    simp [faultAnswer, rejection, Response.withDetail, Response.ofJson, Response.internalError,
      Response.ofText]
  by_contra hne
  rcases false_of_isFile_ne a b hne with hfa | hfb
  · exact hne (isFile_eq_of_answer_eq hi hdir hu heq (htold a ha hl hfa) ha hb hl)
  · have htold' := htold b hb (LooksUp.other hdir hl) hfb
    exact hne (isFile_eq_of_answer_eq hi hdir hu heq (fun h => htold' (heq.trans h)) ha hb hl)

end Told

theorem stores_iff_of_accepts (hi : c.allowImports = false) (a : World c)
    (hu : uploadOf? r = some u) (ha : a.Accepts r u) : a.Stores u ↔ (a.answer r).status = 200 := by
  obtain ⟨ys, hy⟩ := ha.lines
  rw [a.answer_of_admits hi hu ha.toAdmits, hy, Stores]
  cases a.server.keep u a.workshop.disk with
  | ok _ d => simp [Response.ofJson]
  | error f d => simp [Response.internalError, Response.ofText]

section Inside

def StaysDown (u : Submission) : Prop :=
  ∀ line ∈ physicalLines u.text, ∀ token, isFileLine line = true →
    Directive.payload line = some token → (Path.ofText token).isAbsolute = true →
      ".." ∉ (Path.ofText token).parts

theorem below_of_looksUp (hu : StaysDown u) (hline : line ∈ physicalLines u.text) {path : Path}
    (hl : (a.setting u).LooksUp line path) : path.isAbsolute = true ∧
      (∀ name ∈ path.parts, IsName name) ∧ a.home.reverse <+: path.parts := by
  obtain ⟨hm, token, htoken, hlook⟩ := hl
  obtain ⟨hrel, hbelow⟩ := Setting.lookup_eq_ok_iff.1 hlook
  have habs := isAbsolute_of_scriptRelative hrel
  have hnames : ∀ name ∈ path.parts, IsName name := by
    rw [scriptRelative_eq] at hrel
    split at hrel
    · rename_i ht
      rw [Except.ok.injEq] at hrel
      subst hrel
      intro name hn
      have hup : name ≠ ".." := fun h => hu line hline token hm htoken ht (h ▸ hn)
      simp only [Path.ofText, List.mem_filter, decide_eq_true_eq] at hn
      exact ⟨hn.2.1, hn.2.2, hup⟩
    · have hbase : ((baseOf (a.setting u).disk (a.setting u).script).join
          (Path.ofText token)).isAbsolute = true := isAbsolute_base_join rfl _
      obtain ⟨-, rfl⟩ := Disk.resolve_eq_ok hrel
      rw [Disk.fullPath_of_linkFree (d := (a.setting u).disk) a.linkFree hbase]
      intro name hn
      exact isName_of_mem_collapse (by simp) name (List.mem_reverse.1 hn)
  refine ⟨habs, hnames, ?_⟩
  have hcollapse : collapse [] path.parts = path.parts.reverse := by
    rw [collapse_names hnames, List.append_nil]
  obtain ⟨full, hr, hfull⟩ := checkBelow_eq_ok_iff.1 hbelow
  obtain ⟨-, rfl⟩ := Disk.resolve_eq_ok hr
  rw [Disk.fullPath_of_linkFree (d := (a.setting u).disk) a.linkFree habs, hcollapse,
    List.reverse_reverse] at hfull
  simpa [Path.isBelow, Path.absolute] using hfull

theorem stores_iff_of_agree (hi : c.allowImports = false)
    (hdir : b.server.scriptsDir = a.server.scriptsDir) (hu : uploadOf? r = some u)
    (hplain : isPlainName u.fileName = true)
    (hagree : a.workshop.disk.tree.AgreeAt b.workshop.disk.tree a.home)
    (hda : a.workshop.disk.isDirectory a.server.scriptsDir = .ok true)
    (hdb : b.workshop.disk.isDirectory a.server.scriptsDir = .ok true) :
    b.Stores u ↔ a.Stores u := by
  have hopen : b.workshop.disk.openForWriting (a.server.placeOf u.fileName) =
      a.workshop.disk.openForWriting (a.server.placeOf u.fileName) :=
    Disk.openForWriting_child_eq hagree a.grounded b.grounded a.linkFree b.linkFree
      (a.lists hi).isAbsolute hda hdb (isName_of_isPlainName (fileName_of_uploadOf hu) hplain)
  have hstores : ∀ w : World c, w.server.scriptsDir = a.server.scriptsDir →
      w.workshop.disk.isDirectory a.server.scriptsDir = .ok true →
      (w.Stores u ↔ (a.server.placeOf u.fileName).hasNull = false ∧
        (∃ l, w.workshop.disk.openForWriting (a.server.placeOf u.fileName) = .ok l) ∧
          (properText? u.content).isSome = true) := by
    intro w hw hd
    have hplace : w.server.placeOf u.fileName = a.server.placeOf u.fileName := by
      rw [placeOf, placeOf, hw]
    simp only [Stores, keep_eq_ok_iff, hplace, hw, Disk.makeDirectories_of_isDirectory hd]
    constructor
    · rintro ⟨_, _, l, hmade, hn, ho, ht, -⟩
      cases hmade
      exact ⟨hn, ⟨l, ho⟩, ht⟩
    · rintro ⟨hn, ⟨l, ho⟩, ht⟩
      exact ⟨_, _, l, rfl, hn, ho, ht, rfl⟩
  rw [hstores b hdir hdb, hstores a rfl hda, hopen]

end Inside

end Pair

end World

/-- Two worlds with the same configuration and the same scripts directory. -/
theorem answers_alike_iff {c : Config} (hi : c.allowImports = false) (a b : World c)
    (hdir : b.server.scriptsDir = a.server.scriptsDir) (r : Request) :
    (uploadOf? r = none → b.answer r = a.answer r) ∧
    (∀ u, uploadOf? r = some u →
      (b.answer r = a.answer r ↔
        a.Alike b r u ∨ a.answer r = .internalError ∧ b.answer r = .internalError) ∧
      ((properText? u.content).isSome = true → (b.answer r = a.answer r ↔ a.Alike b r u))) ∧
    (a.workshop.disk.tree.AgreeAt b.workshop.disk.tree a.home →
      a.workshop.disk.isDirectory a.server.scriptsDir = .ok true →
      b.workshop.disk.isDirectory a.server.scriptsDir = .ok true →
      (∀ u, uploadOf? r = some u → World.StaysDown u) → b.answer r = a.answer r) := by
  have hnone (hu : uploadOf? r = none) : b.answer r = a.answer r :=
    (handle_of_no_upload hu a.server b.server hdir a.workshop b.workshop).2
  have hstoring {u : Submission} (hu : uploadOf? r = some u) (heq : b.answer r = a.answer r)
      (ha : a.Accepts r u) (hb : b.Accepts r u) : b.Stores u ↔ a.Stores u := by
    rw [b.stores_iff_of_accepts hi hu hb, a.stores_iff_of_accepts hi hu ha, heq]
  refine ⟨hnone, fun u hu => ⟨⟨fun heq => ?_, ?_⟩, fun hp => ⟨fun heq => ⟨?_, hstoring hu heq⟩,
    World.answer_eq_of_alike hi hdir hu⟩⟩, fun hagree hda hdb hdown => ?_⟩
  · by_cases htold : a.answer r = .internalError
    · exact .inr ⟨htold, heq.trans htold⟩
    · exact .inl ⟨fun line path => World.isFile_eq_of_answer_eq hi hdir hu heq htold,
        hstoring hu heq⟩
  · rintro (halike | ⟨ha, hb⟩)
    · exact World.answer_eq_of_alike hi hdir hu halike
    · exact hb.trans ha.symm
  · exact fun line path => World.isFile_eq_of_proper hi hdir hu hp heq
  · cases hu : uploadOf? r with
    | none => exact hnone hu
    | some u =>
      refine World.answer_eq_of_alike hi hdir hu ⟨fun line path ha hb hl => ?_, fun ha _ =>
        World.stores_iff_of_agree hi hdir hu ha.plain hagree hda hdb⟩
      obtain ⟨before, after, hsplit, -⟩ := ha.earlier
      obtain ⟨habs, hnames, hbelow⟩ := World.below_of_looksUp (hdown u hu) (by simp [hsplit]) hl
      obtain ⟨-, hhome⟩ := Disk.stride_of_isDirectory a.grounded a.linkFree (a.lists hi).isAbsolute hda
      -- Plain names below the directory are all that is looked up, and there the trees agree.
      exact Disk.isFile_eq_of_below hagree a.grounded b.grounded a.linkFree hhome habs hnames hbelow

namespace Sample

def sparse : World config where
  library := library
  root := .absolute []
  workshop := workshop [("f", "")] []
  server := server
  created := rfl
  grounded := Tree.grounded_of_isGrounded (by decide +kernel)
  linkFree := Tree.linkFree_of_isLinkFree (by decide +kernel)

def crowded : World config where
  library := library
  root := .absolute []
  workshop := workshop [("f", "")] ["x"]
  server := server
  created := rfl
  grounded := Tree.grounded_of_isGrounded (by decide +kernel)
  linkFree := Tree.linkFree_of_isLinkFree (by decide +kernel)

end Sample

theorem answers_alike_iff_told :
    Sample.crowded.answer (Sample.request "a.csx" "\"//#ass /uploads/../x/../uploads/f\"") ≠
      Sample.sparse.answer (Sample.request "a.csx" "\"//#ass /uploads/../x/../uploads/f\"") := by
  intro heq
  let u : Submission := ⟨"a.csx", "//#ass /uploads/../x/../uploads/f".toList.map Char.toNat⟩
  have hu : uploadOf? (Sample.request "a.csx" "\"//#ass /uploads/../x/../uploads/f\"") = some u := by
    decide +kernel
  have hlines : physicalLines u.text = ["//#ass /uploads/../x/../uploads/f"] := by decide +kernel
  have hlook : (Sample.sparse.setting u).LooksUp "//#ass /uploads/../x/../uploads/f"
      (.absolute ["uploads", "..", "x", "..", "uploads", "f"]) := by
    refine ⟨by decide +kernel, "/uploads/../x/../uploads/f", by decide +kernel, ?_⟩
    rfl
  have halike := (((answers_alike_iff rfl Sample.sparse Sample.crowded rfl _).2.1 u hu).2
    (by decide +kernel)).1 heq
  have hsame := halike.lookups _ _
    ⟨⟨by decide +kernel, by decide +kernel, by decide +kernel⟩, [], [], hlines, by simp⟩
    ⟨⟨by decide +kernel, by decide +kernel, by decide +kernel⟩, [], [], hlines, by simp⟩ hlook
  have htold := congrArg Except.toOption hsame
  revert htold
  decide +kernel

end BuildScripts.Server
