import BuildScripts.Proofs.Disk.Grew

namespace BuildScripts.Disk

open Attempt
open BuildScripts.Text

variable {d d' d'' : Disk} {p : Path} {l : Location} {text : String} {paths later : List Path}

structure KeptBut (paths : List Path) (d d' : Disk) : Prop where
  grew : d.Grew d'
  kept : ∀ l e, d.tree.get? l = some e →
    d'.tree.get? l = some e ∨ ∃ p ∈ paths, ∃ e', d'.find p = .ok (l, e')

namespace KeptBut

theorem refl (h : d.Proper) : KeptBut paths d d :=
  ⟨.refl h, fun _ _ he => .inl he⟩

theorem trans (h : KeptBut paths d d') (h' : KeptBut later d' d'') :
    KeptBut (paths ++ later) d d'' where
  grew := h.grew.trans h'.grew
  kept l e he := by
    rcases h.kept l e he with hsame | ⟨p, hp, e₁, hfind⟩
    · rcases h'.kept l e hsame with hsame' | ⟨p, hp, hfind⟩
      · exact .inl hsame'
      · exact .inr ⟨p, List.mem_append_right _ hp, hfind⟩
    · -- What a path has led to, it leads to from then on.
      have hthere : d''.tree.get? l ≠ none :=
        (h.grew.trans h'.grew).grown.get?_ne_none (by simp [he])
      obtain ⟨e₂, he₂⟩ := Option.ne_none_iff_exists'.1 hthere
      exact .inr ⟨p, List.mem_append_left _ hp, e₂,
        h'.grew.find_of_get? h.grew.proper hfind he₂⟩

theorem mono (h : KeptBut paths d d') (hsub : paths ⊆ later) : KeptBut later d d' :=
  ⟨h.grew, fun l e he => (h.kept l e he).imp_right fun ⟨p, hp, hfind⟩ => ⟨p, hsub hp, hfind⟩⟩

end KeptBut

theorem find_of_written (hd : d.Proper) (h : writeWithParents p text d = .ok () d') :
    p.hasNull = false ∧ d.Grew d' ∧
      ∃ l held, d'.find p = .ok (l, filled held (Utf8.encode text)) := by
  obtain ⟨_, opened, hmake, hwrite⟩ := bind_eq_ok.1 h
  obtain ⟨hn, l, ho, rfl⟩ := writeBytes_eq_ok_iff.1 hwrite
  have hopened := Grew.makeDirectories hd p.parent
  rw [after_of_ok hmake] at hopened
  have hp := hopened.proper
  exact ⟨hn, hopened.trans (.fill hp hn ho _), l, _,
    find_of_fill hp.grounded (hp.starts p) ho (Utf8.encode text)⟩

theorem keptBut_makeDirectories (hd : d.Proper) (p : Path) :
    KeptBut [] d ((makeDirectories p).after d) where
  grew := .makeDirectories hd p
  kept l e he := by
    rcases (made_of_makeDirectories hd.grounded (hd.starts p)).place l with hsame | ⟨hnone, -⟩
    · exact .inl (hsame.trans he)
    · rw [he] at hnone
      cases hnone

theorem keptBut_writeText (hd : d.Proper) (p : Path) (text : String) :
    KeptBut [p] d ((writeText p text).after d) := by
  cases hwrite : writeText p text d with
  | error f d' =>
    rw [after_of_error hwrite, (writeBytes_fault hwrite).1]
    exact .refl hd
  | ok _ d' =>
    rw [after_of_ok hwrite]
    obtain ⟨hn, l, ho, rfl⟩ := writeBytes_eq_ok_iff.1 hwrite
    have hfilled := filled_of_fill hd.grounded (hd.starts p) ho (Utf8.encode text)
    refine ⟨.fill hd hn ho _, fun k e he => ?_⟩
    by_cases hk : k = l
    · rw [hk]
      exact .inr ⟨p, List.mem_singleton_self p, _, find_of_fill hd.grounded (hd.starts p) ho _⟩
    · exact .inl ((hfilled.others k hk).trans he)

theorem keptBut_writeWithParents (hd : d.Proper) (p : Path) (text : String) :
    KeptBut [p] d ((writeWithParents p text).after d) := by
  have hmade := keptBut_makeDirectories hd p.parent
  cases hmake : makeDirectories p.parent d with
  | error f d' =>
    rw [after_of_error hmake] at hmade
    rw [writeWithParents, after_bind_of_error hmake]
    exact hmade.mono (List.nil_subset _)
  | ok _ d' =>
    rw [after_of_ok hmake] at hmade
    rw [writeWithParents, after_bind_of_ok hmake]
    exact hmade.trans (keptBut_writeText hmade.grew.proper p text)

end BuildScripts.Disk
