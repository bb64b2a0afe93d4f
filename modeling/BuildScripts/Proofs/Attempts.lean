import BuildScripts.Attempt

/-!
How attempts made one after the other end: with what the second does where the first succeeds, and
with the first fault otherwise.
-/

namespace BuildScripts.Attempt

variable {ε σ τ α β : Type} {s s' t : σ}

theorem bind_of_ok {x : EStateM ε σ α} {f : α → EStateM ε σ β} {a : α} (h : x s = .ok a s') :
    (x >>= f) s = f a s' := by
  change EStateM.bind x f s = _
  rw [EStateM.bind, h]

theorem bind_of_error {x : EStateM ε σ α} {f : α → EStateM ε σ β} {e : ε}
    (h : x s = .error e s') : (x >>= f) s = .error e s' := by
  change EStateM.bind x f s = _
  rw [EStateM.bind, h]

theorem map_of_ok {x : EStateM ε σ α} {g : α → β} {a : α} (h : x s = .ok a s') :
    (g <$> x) s = .ok (g a) s' := by
  change EStateM.map g x s = _
  rw [EStateM.map, h]

theorem map_of_error {x : EStateM ε σ α} {g : α → β} {e : ε} (h : x s = .error e s') :
    (g <$> x) s = .error e s' := by
  change EStateM.map g x s = _
  rw [EStateM.map, h]

theorem bind_of_eq {x y : EStateM ε σ α} {f : α → EStateM ε σ β} (h : x s = y s) :
    (x >>= f) s = (y >>= f) s := by
  change EStateM.bind x f s = EStateM.bind y f s
  rw [EStateM.bind, EStateM.bind, h]

theorem bind_eq_ok {x : EStateM ε σ α} {f : α → EStateM ε σ β} {b : β} :
    (x >>= f) s = .ok b t ↔ ∃ a s', x s = .ok a s' ∧ f a s' = .ok b t := by
  cases h : x s with
  | ok a s' =>
    rw [bind_of_ok h]
    constructor
    · intro hf
      exact ⟨a, s', rfl, hf⟩
    · rintro ⟨_, _, hx, hf⟩
      cases hx
      exact hf
  | error e s' => simp [bind_of_error h]

theorem bind_eq_error {x : Attempt σ α} {f : α → Attempt σ β} {e : Fault} :
    (x >>= f) s = .error e t ↔
      x s = .error e t ∨ ∃ a s', x s = .ok a s' ∧ f a s' = .error e t := by
  cases h : x s with
  | ok a s' =>
    rw [bind_of_ok h]
    constructor
    · intro hf
      exact .inr ⟨a, s', rfl, hf⟩
    · rintro (hx | ⟨_, _, hx, hf⟩)
      · cases hx
      · cases hx
        exact hf
  | error e' s' => simp [bind_of_error h]

theorem mapM_cons_eq_ok {f : α → Attempt σ β} {x : α} {xs : List α} {ys : List β} :
    (x :: xs).mapM f s = .ok ys s' ↔
      ∃ y rest t, f x s = .ok y t ∧ xs.mapM f t = .ok rest s' ∧ ys = y :: rest := by
  rw [List.mapM_cons, bind_eq_ok]
  constructor
  · rintro ⟨y, t, hy, h⟩
    obtain ⟨rest, _, hrest, hpure⟩ := bind_eq_ok.1 h
    cases hpure
    exact ⟨y, rest, t, hy, hrest, rfl⟩
  · rintro ⟨y, rest, t, hy, hrest, rfl⟩
    exact ⟨y, t, hy, bind_of_ok hrest⟩

theorem mapM_eq_error_iff {f : α → Attempt σ β} {xs : List α} {e : Fault} :
    xs.mapM f s = .error e t ↔ ∃ before x after ys u, xs = before ++ x :: after ∧
      before.mapM f s = .ok ys u ∧ f x u = .error e t := by
  induction xs generalizing s with
  | nil =>
    constructor
    · intro h
      cases h
    · rintro ⟨before, x, after, ys, u, hsplit, -, -⟩
      simp at hsplit
  | cons first xs ih =>
    rw [List.mapM_cons, bind_eq_error]
    constructor
    · rintro (h | ⟨y, u, hy, h⟩)
      · exact ⟨[], first, xs, [], s, rfl, rfl, h⟩
      · rcases bind_eq_error.1 h with h | ⟨rest, v, -, hpure⟩
        · obtain ⟨before, x, after, ys, v, rfl, hbefore, hx⟩ := ih.1 h
          exact ⟨first :: before, x, after, y :: ys, v, rfl,
            mapM_cons_eq_ok.2 ⟨y, ys, u, hy, hbefore, rfl⟩, hx⟩
        · cases hpure
    · rintro ⟨before, x, after, ys, u, hsplit, hbefore, hx⟩
      cases before with
      | nil =>
        cases hsplit
        cases hbefore
        exact .inl hx
      | cons b before =>
        cases hsplit
        obtain ⟨y, rest, v, hy, hrest, -⟩ := mapM_cons_eq_ok.1 hbefore
        exact .inr ⟨y, v, hy, bind_eq_error.2
          (.inl (ih.2 ⟨before, x, after, rest, u, rfl, hrest, hx⟩))⟩

theorem except_bind_eq_ok {x : Except ε α} {f : α → Except ε β} {b : β} :
    x >>= f = .ok b ↔ ∃ a, x = .ok a ∧ f a = .ok b := by
  cases x <;> simp [bind, Except.bind]

theorem except_bind_eq_error {x : Except ε α} {f : α → Except ε β} {e : ε} :
    x >>= f = .error e ↔ x = .error e ∨ ∃ a, x = .ok a ∧ f a = .error e := by
  cases x <;> simp [bind, Except.bind]

theorem map_eq_ok {f : α → β} {x : Except ε α} {b : β} :
    x.map f = .ok b ↔ ∃ a, x = .ok a ∧ f a = b := by
  cases x <;> simp [Except.map]

theorem map_eq_error {f : α → β} {x : Except ε α} {e : ε} :
    x.map f = .error e ↔ x = .error e := by
  cases x <;> simp [Except.map]

@[simp] theorem pure_run (a : α) : (pure a : EStateM ε σ α) s = .ok a s := rfl

@[simp] theorem get_bind (f : σ → EStateM ε σ β) : ((get : EStateM ε σ σ) >>= f) s = f s s := rfl

theorem tryCatch_of_ok {x : EStateM ε σ α} {handle : ε → EStateM ε σ α} {a : α}
    (h : x s = .ok a s') : (tryCatch x handle) s = .ok a s' := by
  change EStateM.tryCatch x handle s = _
  delta EStateM.tryCatch
  simp only [h]

theorem tryCatch_of_error {x : EStateM ε σ α} {handle : ε → EStateM ε σ α} {e : ε}
    (h : x s = .error e s') : (tryCatch x handle) s = handle e s' := by
  change EStateM.tryCatch x handle s = _
  delta EStateM.tryCatch
  simp only [h]
  rfl

@[simp] theorem ofExcept_ok (a : α) : (ofExcept (.ok a) : Attempt σ α) s = .ok a s := rfl

@[simp] theorem ofExcept_error (e : Fault) : (ofExcept (.error e) : Attempt σ α) s = .error e s := rfl

theorem ofExcept_bind_ok {x : Except Fault α} {f : α → Attempt σ β} {a : α} (h : x = .ok a) :
    (ofExcept x >>= f) s = f a s := by
  subst h
  rfl

theorem ofExcept_bind_error {x : Except Fault α} {f : α → Attempt σ β} {e : Fault}
    (h : x = .error e) : (ofExcept x >>= f) s = .error e s := by
  subst h
  rfl

theorem ofForeign_of_ok {x : Foreign σ α} {a : α} (h : x s = .ok a t) :
    ofForeign x s = .ok a t := by
  rw [ofForeign, h]

theorem ofForeign_of_error {x : Foreign σ α} {raised : Raised} (h : x s = .error raised t) :
    ofForeign x s = .error (.raised raised) t := by
  rw [ofForeign, h]

theorem catching_of_ok {x : Attempt σ α} {a : α} (h : x s = .ok a t) :
    catching x s = .ok (.ok a) t := by
  rw [catching, h]

theorem catching_of_error {x : Attempt σ α} {f : Fault} (h : x s = .error f t) :
    catching x s = .ok (.error f) t := by
  rw [catching, h]

theorem mapFault_eq_ok {g : Fault → Fault} {x : Attempt σ α} {a : α} :
    x.mapFault g s = .ok a t ↔ x s = .ok a t := by
  rw [mapFault]
  cases x s <;> simp

theorem mapFault_eq_error {g : Fault → Fault} {x : Attempt σ α} {f : Fault} :
    x.mapFault g s = .error f t ↔ ∃ e, x s = .error e t ∧ g e = f := by
  rw [mapFault]
  cases x s with
  | ok a u => simp
  | error e u =>
    simp only [EStateM.Result.error.injEq]
    constructor
    · rintro ⟨hf, hu⟩
      exact ⟨e, ⟨rfl, hu⟩, hf⟩
    · rintro ⟨e', ⟨rfl, hu⟩, hf⟩
      exact ⟨hf, hu⟩

def FaultsAre (P : Fault → Prop) (x : Attempt σ α) : Prop :=
  ∀ s f t, x s = .error f t → P f

section FaultsAre

variable {P : Fault → Prop}

theorem FaultsAre.bind {x : Attempt σ α} {g : α → Attempt σ β} (hx : FaultsAre P x)
    (hg : ∀ a, FaultsAre P (g a)) : FaultsAre P (x >>= g) := by
  intro s f t h
  rcases bind_eq_error.1 h with h | ⟨a, u, -, h⟩
  · exact hx s f t h
  · exact hg a u f t h

theorem FaultsAre.pure (a : α) : FaultsAre P (Pure.pure a : Attempt σ α) := by
  intro s f t h
  cases h

theorem FaultsAre.get : FaultsAre P (MonadState.get : Attempt σ σ) := by
  intro s f t h
  cases h

theorem FaultsAre.throw {e : Fault} (h : P e) :
    FaultsAre P (MonadExcept.throw e : Attempt σ α) := by
  intro s f t hf
  cases hf
  exact h

theorem FaultsAre.ofExcept {x : Except Fault α} (h : ∀ f, x = .error f → P f) :
    FaultsAre P (Attempt.ofExcept x : Attempt σ α) := by
  intro s f t hf
  cases x with
  | ok a => cases hf
  | error e =>
    cases hf
    exact h f rfl

theorem FaultsAre.ofForeign {x : Foreign σ α} (h : ∀ raised, P (.raised raised)) :
    FaultsAre P (Attempt.ofForeign x) := by
  intro s f t hf
  cases hx : x s with
  | ok a u =>
    rw [ofForeign_of_ok hx] at hf
    cases hf
  | error raised u =>
    rw [ofForeign_of_error hx] at hf
    cases hf
    exact h raised

theorem FaultsAre.mapFault {Q : Fault → Prop} {g : Fault → Fault} {x : Attempt σ α}
    (hx : FaultsAre P x) (hg : ∀ f, P f → Q (g f)) : FaultsAre Q (x.mapFault g) := by
  intro s f t h
  rw [Attempt.mapFault] at h
  cases hs : x s with
  | ok a u => simp [hs] at h
  | error e u =>
    simp only [hs, EStateM.Result.error.injEq] at h
    exact h.1 ▸ hg e (hx s e u hs)

theorem FaultsAre.onPart {part : τ → σ} {replace : τ → σ → τ} {x : Attempt σ α}
    (hx : FaultsAre P x) : FaultsAre P (x.onPart part replace) := by
  intro s f t h
  rw [Attempt.onPart] at h
  cases hs : x (part s) with
  | ok a u => simp [hs] at h
  | error e u =>
    simp only [hs, EStateM.Result.error.injEq] at h
    exact h.1 ▸ hx (part s) e u hs

end FaultsAre

def gives [DecidableEq α] (x : Attempt σ α) (s : σ) (a : α) : Bool :=
  match x s with
  | .ok b _ => decide (b = a)
  | .error _ _ => false

theorem ok_of_gives [DecidableEq α] {x : Attempt σ α} {a : α} (h : x.gives s a = true) :
    ∃ t, x s = .ok a t := by
  rw [gives] at h
  cases hx : x s with
  | ok b t =>
    rw [hx] at h
    exact ⟨t, by rw [of_decide_eq_true h]⟩
  | error f t => simp [hx] at h

def leaves (x : Attempt σ α) (s : σ) (test : σ → Bool) : Bool :=
  match x s with
  | .ok _ t => test t
  | .error _ _ => false

theorem ok_of_leaves {x : Attempt σ α} {test : σ → Bool} (h : x.leaves s test = true) :
    ∃ a t, x s = .ok a t ∧ test t = true := by
  rw [leaves] at h
  cases hx : x s with
  | ok a t =>
    rw [hx] at h
    exact ⟨a, t, rfl, h⟩
  | error f t => simp [hx] at h

def rejects (x : Attempt σ α) (s : σ) : Bool :=
  match x s with
  | .error (.rejected _) _ => true
  | _ => false

theorem rejected_of_rejects {x : Attempt σ α} (h : x.rejects s = true) :
    ∃ r t, x s = .error (.rejected r) t := by
  rw [rejects] at h
  split at h
  · rename_i r t hx
    exact ⟨r, t, hx⟩
  · cases h

def after (x : Attempt σ α) (s : σ) : σ :=
  match x s with
  | .ok _ s' => s'
  | .error _ s' => s'

theorem after_of_ok {x : Attempt σ α} {a : α} (h : x s = .ok a s') : x.after s = s' := by
  rw [after, h]

theorem after_of_error {x : Attempt σ α} {e : Fault} (h : x s = .error e s') : x.after s = s' := by
  rw [after, h]

theorem after_bind_of_ok {x : Attempt σ α} {f : α → Attempt σ β} {a : α} (h : x s = .ok a s') :
    (x >>= f).after s = (f a).after s' := by
  rw [after, bind_of_ok h, after]

theorem after_bind_of_error {x : Attempt σ α} {f : α → Attempt σ β} {e : Fault}
    (h : x s = .error e s') : (x >>= f).after s = s' :=
  after_of_error (bind_of_error h)

theorem after_bind_pure (x : Attempt σ α) (g : α → β) (s : σ) :
    (x >>= fun a => pure (g a)).after s = x.after s := by
  cases h : x s with
  | ok a s' => rw [after_bind_of_ok h, after_of_ok h, after_of_ok (pure_run (g a))]
  | error f s' => rw [after_bind_of_error h, after_of_error h]

theorem after_bind {P : σ → Prop} {x : Attempt σ α} {f : α → Attempt σ β} (hx : P (x.after s))
    (hf : ∀ a s', x s = .ok a s' → P s' → P ((f a).after s')) : P ((x >>= f).after s) := by
  cases h : x s with
  | ok a s' =>
    rw [after_of_ok h] at hx
    rw [after_bind_of_ok h]
    exact hf a s' h hx
  | error e s' =>
    rw [after_of_error h] at hx
    rwa [after_bind_of_error h]

theorem after_mapFault (g : Fault → Fault) (x : Attempt σ α) (s : σ) :
    (x.mapFault g).after s = x.after s := by
  rw [after, mapFault, after]
  cases x s <;> rfl

/-- From each state with the invariant a run ends in one, with such a result or such an error. -/
def Runs (I : σ → Prop) (E : ε → Prop) (x : EStateM ε σ α) (P : α → Prop) : Prop :=
  ∀ s, I s → match x s with
    | .ok a s' => P a ∧ I s'
    | .error e s' => E e ∧ I s'

section Runs

variable {I : σ → Prop} {E : ε → Prop} {P : α → Prop} {Q : β → Prop} {x : EStateM ε σ α}

theorem Runs.pure {a : α} (h : P a) : Runs I E (Pure.pure a : EStateM ε σ α) P := by
  intro s hs
  exact ⟨h, hs⟩

theorem Runs.throw {e : ε} (h : E e) : Runs I E (MonadExcept.throw e : EStateM ε σ α) P := by
  intro s hs
  exact ⟨h, hs⟩

theorem Runs.get : Runs I E (MonadState.get : EStateM ε σ σ) I := by
  intro s hs
  exact ⟨hs, hs⟩

theorem Runs.set (h : I s) : Runs I E (MonadStateOf.set s : EStateM ε σ PUnit) fun _ => True := by
  intro s₀ _
  exact ⟨trivial, h⟩

theorem Runs.modify {f : σ → σ} (h : ∀ s, I s → I (f s)) :
    Runs I E (modify f : EStateM ε σ PUnit) fun _ => True := by
  intro s hs
  exact ⟨trivial, h s hs⟩

theorem Runs.bind {f : α → EStateM ε σ β} (hx : Runs I E x P) (hf : ∀ a, P a → Runs I E (f a) Q) :
    Runs I E (x >>= f) Q := by
  intro s hs
  have hrun := hx s hs
  cases h : x s with
  | ok a s' =>
    rw [h] at hrun
    rw [bind_of_ok h]
    exact hf a hrun.1 s' hrun.2
  | error e s' =>
    rw [h] at hrun
    rw [bind_of_error h]
    exact hrun

theorem Runs.tryCatch {handle : ε → EStateM ε σ α} (hx : Runs I E x P)
    (hf : ∀ e, E e → Runs I E (handle e) P) : Runs I E (MonadExcept.tryCatch x handle) P := by
  intro s hs
  have hrun := hx s hs
  change match EStateM.tryCatch x handle s with
    | .ok a s' => P a ∧ I s'
    | .error e s' => E e ∧ I s'
  delta EStateM.tryCatch
  cases h : x s with
  | ok a s' =>
    rw [h] at hrun
    exact hrun
  | error e s' =>
    rw [h] at hrun
    exact hf e hrun.1 s' hrun.2

theorem Runs.ofExcept {e : Except Fault α} {F : Fault → Prop} (hok : ∀ a, e = .ok a → P a)
    (herror : ∀ f, e = .error f → F f) : Runs I F (Attempt.ofExcept e : Attempt σ α) P := by
  cases e with
  | ok a => exact .pure (hok a rfl)
  | error f => exact .throw (herror f rfl)

theorem Runs.mono {F : ε → Prop} (hx : Runs I E x P) (h : ∀ e, E e → F e) : Runs I F x P := by
  intro s hs
  have hrun := hx s hs
  cases hxs : x s with
  | ok a t =>
    rw [hxs] at hrun
    exact hrun
  | error e t =>
    rw [hxs] at hrun
    exact ⟨h e hrun.1, hrun.2⟩

theorem Runs.ofForeign {y : Foreign σ α} {E : Raised → Prop} {F : Fault → Prop} (hy : Runs I E y P)
    (h : ∀ raised, E raised → F (.raised raised)) : Runs I F (Attempt.ofForeign y) P := by
  intro s hs
  have hrun := hy s hs
  cases hx : y s with
  | ok a t =>
    rw [hx] at hrun
    rw [ofForeign_of_ok hx]
    exact hrun
  | error raised t =>
    rw [hx] at hrun
    rw [ofForeign_of_error hx]
    exact ⟨h raised hrun.1, hrun.2⟩

theorem Runs.catching {y : Attempt σ α} {F G : Fault → Prop} (hy : Runs I F y P) :
    Runs I G (Attempt.catching y) fun result =>
      match result with
      | .ok a => P a
      | .error f => F f := by
  intro s hs
  have hrun := hy s hs
  cases hx : y s with
  | ok a t =>
    rw [hx] at hrun
    rw [catching_of_ok hx]
    exact hrun
  | error f t =>
    rw [hx] at hrun
    rw [catching_of_error hx]
    exact hrun

theorem Runs.mapFault {y : Attempt σ α} {g : Fault → Fault} {F G : Fault → Prop}
    (hy : Runs I F y P) (hg : ∀ f, F f → G (g f)) : Runs I G (y.mapFault g) P := by
  intro s hs
  have hrun := hy s hs
  cases h : y s with
  | ok a s' =>
    rw [h] at hrun
    rw [Attempt.mapFault, h]
    exact hrun
  | error f s' =>
    rw [h] at hrun
    rw [Attempt.mapFault, h]
    exact ⟨hg f hrun.1, hrun.2⟩

theorem Runs.after {y : Attempt σ α} {F : Fault → Prop} (hy : Runs I F y P) {s : σ} (hs : I s) :
    I (y.after s) := by
  have hrun := hy s hs
  cases h : y s with
  | ok a s' =>
    rw [h] at hrun
    rw [after_of_ok h]
    exact hrun.2
  | error f s' =>
    rw [h] at hrun
    rw [after_of_error h]
    exact hrun.2

end Runs

end BuildScripts.Attempt
