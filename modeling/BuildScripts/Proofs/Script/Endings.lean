import BuildScripts.Proofs.Disk.Content
import BuildScripts.Proofs.Script.Numbering
import BuildScripts.Proofs.Text.LineEnds
import BuildScripts.Proofs.Text.Utf8

namespace BuildScripts

open Attempt
open BuildScripts.Text

namespace Text

inductive ReturnsAdded : List Char → List Char → Prop
  | nil : ReturnsAdded [] []
  | feed {cs ds : List Char} (h : ReturnsAdded cs ds) : ReturnsAdded ('\n' :: cs) ('\n' :: ds)
  | returnFeed {cs ds : List Char} (h : ReturnsAdded cs ds) :
    ReturnsAdded ('\n' :: cs) ('\r' :: '\n' :: ds)
  | other {cs ds : List Char} {c : Char} (hc : c ≠ '\n') (h : ReturnsAdded cs ds) :
    ReturnsAdded (c :: cs) (c :: ds)

variable {cs ds cs' ds' : List Char} {text text' : String}

theorem ReturnsAdded.refl (cs : List Char) : ReturnsAdded cs cs := by
  induction cs with
  | nil => exact .nil
  | cons c cs ih =>
    by_cases hc : c = '\n'
    · exact hc ▸ .feed ih
    · exact .other hc ih

theorem ReturnsAdded.append (h : ReturnsAdded cs ds) (h' : ReturnsAdded cs' ds') :
    ReturnsAdded (cs ++ cs') (ds ++ ds') := by
  induction h with
  | nil => exact h'
  | feed _ ih => exact .feed ih
  | returnFeed _ ih => exact .returnFeed ih
  | other hc _ ih => exact .other hc ih

theorem unifyEnds_of_returnsAdded (h : ReturnsAdded cs ds) (hno : '\r' ∉ cs) :
    unifyEnds ds = cs := by
  induction h with
  | nil => rfl
  | @feed cs ds _ ih =>
    have hfeed : unifyEnds ('\n' :: ds) = '\n' :: unifyEnds ds := by simp [unifyEnds]
    rw [hfeed, ih fun hm => hno (List.mem_cons_of_mem _ hm)]
  | @returnFeed cs ds _ ih =>
    have hfeed : unifyEnds ('\r' :: '\n' :: ds) = '\n' :: unifyEnds ds := by simp [unifyEnds]
    rw [hfeed, ih fun hm => hno (List.mem_cons_of_mem _ hm)]
  | @other cs ds c _ _ ih =>
    rw [List.mem_cons, not_or] at hno
    have hc : c ≠ '\r' := Ne.symm hno.1
    have hother : unifyEnds (c :: ds) = c :: unifyEnds ds := by simp [unifyEnds, hc]
    rw [hother, ih hno.2]

theorem unifyLineEnds_of_returnsAdded (h : ReturnsAdded text.toList text'.toList)
    (hno : '\r' ∉ text.toList) : unifyLineEnds text' = text := by
  rw [unifyLineEnds, unifyEnds_of_returnsAdded h hno, String.ofList_toList]

theorem splitLines_of_returnsAdded (h : ReturnsAdded cs ds) (hno : '\r' ∉ cs) :
    (splitLines ds).map dropReturn = splitLines cs := by
  induction h with
  | nil => rfl
  | feed _ ih =>
    rw [splitLines_line_feed, splitLines_line_feed, List.map_cons,
      ih fun hm => hno (List.mem_cons_of_mem _ hm)]
    rfl
  | returnFeed _ ih =>
    rw [splitLines_cons_of_ne (by decide), splitLines_line_feed, splitLines_line_feed,
      List.map_cons, ih fun hm => hno (List.mem_cons_of_mem _ hm)]
    rfl
  | @other cs ds c hc _ ih =>
    rw [List.mem_cons, not_or] at hno
    have hlines := ih hno.2
    rw [splitLines_cons_of_ne hc, splitLines_cons_of_ne hc, ← hlines]
    have hdrop (l : List Char) : dropReturn (c :: l) = c :: dropReturn l := by
      rw [dropReturn_cons, if_neg fun h => hno.1 h.1.symm]
    cases splitLines ds with
    | nil => simp [hdrop, dropReturn]
    | cons l ls => simp [hdrop]

theorem physicalLines_of_returnsAdded (h : ReturnsAdded text.toList text'.toList)
    (hno : '\r' ∉ text.toList) : physicalLines text' = physicalLines text := by
  have hplain : (splitLines text.toList).map dropReturn = splitLines text.toList := by
    refine (List.map_congr_left fun l hl => ?_).trans (List.map_id _)
    exact dropReturn_of_not_mem fun hm => hno (subset_of_mem_splitLines hl hm)
  have hlines : (splitLines text'.toList).map dropReturn =
      (splitLines text.toList).map dropReturn := by
    rw [splitLines_of_returnsAdded h hno, hplain]
  calc physicalLines text'
      = ((splitLines text'.toList).map dropReturn).map String.ofList := by
        rw [physicalLines, List.map_map]; rfl
    _ = ((splitLines text.toList).map dropReturn).map String.ofList := by rw [hlines]
    _ = physicalLines text := by rw [physicalLines, List.map_map]; rfl

end Text

variable {σ : Type} {chain : Chain σ} {d : Disk} {p : Path} {text text' : String} {s t : σ}

theorem prepareText_of_physicalLines (h : physicalLines text' = physicalLines text) :
    prepareText chain d text' p s = prepareText chain d text p s := by
  have hreject : rejecting p text' = rejecting p text := by
    funext f
    cases f with
    | unresolvable u => simp only [rejecting, lineNumber?, h]
    | _ => rfl
  simp only [prepareText, analyseText, h, hreject]

theorem prepareScript_of_readText (h : d.readText p = .ok text) :
    prepareScript chain d p s = prepareText chain d text p s :=
  ofExcept_bind_ok h

theorem analyseFile_of_readText (h : d.readText p = .ok text) :
    analyseFile chain d p s = (Attempt.ofExcept (d.resolve p) >>= fun full =>
      analyseText chain d text (some full.toText)) s :=
  ofExcept_bind_ok h

theorem prepareText_of_readText (h : d.readText p = .ok text) :
    prepareText chain d text p s = (analyseFile chain d p).mapFault (rejecting p text) s := by
  rw [prepareText, mapFault, analyseFile_of_readText h]
  cases hp : d.resolve p with
  | error f =>
    rw [ofExcept_bind_error rfl, ofExcept_bind_error rfl]
    rcases Disk.resolve_fault hp with rfl | ⟨path, rfl⟩ <;> rfl
  | ok full =>
    rw [ofExcept_bind_ok rfl, ofExcept_bind_ok rfl, mapFault]

theorem analyseFile_ne_rejected (hrep : ∀ q ∈ chain, q.Reports) (h : d.readText p = .ok text)
    (rej : Rejection) : analyseFile chain d p s ≠ .error (.rejected rej) t := by
  intro hrun
  rw [analyseFile_of_readText h] at hrun
  cases hp : d.resolve p with
  | error f =>
    rw [ofExcept_bind_error hp] at hrun
    rcases Disk.resolve_fault hp with rfl | ⟨path, rfl⟩ <;> cases hrun
  | ok full =>
    rw [ofExcept_bind_ok hp] at hrun
    obtain ⟨before, line, after, body, u, v, -, -, hline, -⟩ := analyseText_eq_error hrun
    exact blames_dispatch hrep d line u _ v hline

theorem reports_of_local_or_server {look : Resolver σ} (hlook : look.NeverRejects)
    (hchain : chain = localChain look ∨ ∃ inside, chain = serverChain look inside) :
    ∀ q ∈ chain, q.Reports := by
  rcases hchain with rfl | ⟨inside, rfl⟩
  · exact List.forall_mem_map.2 fun dir (_ : dir ∈ Directive.all) =>
      Processor.reports_of hlook none dir
  · exact List.forall_mem_map.2 fun dir (_ : dir ∈ Directive.all) =>
      Processor.reports_of hlook (some inside) dir

/-- How the lines of a script end does not matter, nor whether it is given as a text or as a file.
A file analysed by itself comes to the same, except that a reference is reported with its line and
without the script. -/
theorem prepared_whatever_line_ends {look : Resolver σ} (hlook : look.NeverRejects)
    (hchain : chain = localChain look ∨ ∃ inside, chain = serverChain look inside)
    (d : Disk) (p : Path) (s : σ) (hno : '\r' ∉ text.toList)
    (hadded : ReturnsAdded text.toList text'.toList)
    (hfile : d.readBytes p = .ok (Utf8.encode text')) :
    prepareText chain d text' p s = prepareText chain d text p s ∧
    prepareScript chain d p s = prepareText chain d text p s ∧
    (∀ a t, analyseFile chain d p s = .ok a t ↔ prepareText chain d text p s = .ok a t) ∧
    (∀ rej t, prepareText chain d text p s = .error (.rejected rej) t ↔
      ∃ u, analyseFile chain d p s = .error (.unresolvable u) t ∧
        rej = ⟨p.toText, u.token, u.line, lineNumber? text u.line, u.reason⟩) ∧
    ∀ f t, f.Escapes →
      (analyseFile chain d p s = .error f t ↔ prepareText chain d text p s = .error f t) := by
  have hread : d.readText p = .ok text := by
    rw [Disk.readText_of_readBytes hfile (Utf8.decode_encode text'),
      unifyLineEnds_of_returnsAdded hadded hno]
  have hfault : prepareText chain d text p s =
      (analyseFile chain d p).mapFault (rejecting p text) s := prepareText_of_readText hread
  have hrep := reports_of_local_or_server hlook hchain
  refine ⟨prepareText_of_physicalLines (physicalLines_of_returnsAdded hadded hno),
    prepareScript_of_readText hread, fun a t => ?_, fun rej t => ?_, fun f t hf => ?_⟩
  · rw [hfault, mapFault_eq_ok]
  · rw [hfault, mapFault_eq_error]
    constructor
    · rintro ⟨f, hanalyse, hreject⟩
      cases f with
      | unresolvable u =>
        cases hreject
        exact ⟨u, hanalyse, rfl⟩
      | rejected rej' => exact absurd hanalyse (analyseFile_ne_rejected hrep hread rej')
      | _ => cases hreject
    · rintro ⟨u, hanalyse, rfl⟩
      exact ⟨.unresolvable u, hanalyse, rfl⟩
  · rw [hfault, mapFault_eq_error]
    constructor
    · intro hanalyse
      refine ⟨f, hanalyse, ?_⟩
      cases f with
      | unresolvable u => exact hf.elim
      | _ => rfl
    · rintro ⟨e, hanalyse, he⟩
      cases e with
      | unresolvable u =>
        cases he
        exact hf.elim
      | _ =>
        cases he
        exact hanalyse

theorem prepared_whatever_line_ends_mixed :
    let d : Disk :=
      ⟨⟨[(["a.cs"], .file (Utf8.encode "//#ref Known\nRun();\r\n//#ref Lost\n"))]⟩, []⟩
    let chain : Chain Imports := serverChain (.manifest [("Known", "/lib.dll")] none) (.absolute [])
    let text := "//#ref Known\nRun();\n//#ref Lost\n"
    ∃ rej u t,
      prepareText chain d text (.absolute ["a.cs"]) Imports.empty = .error (.rejected rej) t ∧
      prepareScript chain d (.absolute ["a.cs"]) Imports.empty = .error (.rejected rej) t ∧
      analyseFile chain d (.absolute ["a.cs"]) Imports.empty = .error (.unresolvable u) t ∧
      u.line = rej.line := by
  intro d chain text
  have hadded : ReturnsAdded text.toList "//#ref Known\nRun();\r\n//#ref Lost\n".toList := by
    have htext : text.toList = "//#ref Known\nRun();".toList ++ '\n' :: "//#ref Lost\n".toList := by
      decide +kernel
    have htext' : "//#ref Known\nRun();\r\n//#ref Lost\n".toList =
        "//#ref Known\nRun();".toList ++ '\r' :: '\n' :: "//#ref Lost\n".toList := by
      decide +kernel
    rw [htext, htext']
    exact .append (.refl _) (.returnFeed (.refl _))
  obtain ⟨rej, t, hrej⟩ := rejected_of_rejects (x := prepareText chain d text (.absolute ["a.cs"]))
    (s := .empty) (by decide +kernel)
  obtain ⟨-, hscript, -, hfile, -⟩ := prepared_whatever_line_ends
    (Resolver.neverRejects_manifest (σ := Imports) _) (.inr ⟨_, rfl⟩) d (.absolute ["a.cs"])
    Imports.empty (by decide +kernel) hadded rfl
  obtain ⟨u, hu, rfl⟩ := (hfile rej t).1 hrej
  exact ⟨_, u, t, hrej, hscript.trans hrej, hu, rfl⟩

end BuildScripts
