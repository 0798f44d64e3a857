import Patchbay.Compile.Basic
import Patchbay.Proofs.Results

/-!
# How runs end

A step of a compilation or conversation takes a state and ends with a result or an error, and with
another state. `Ends` says what is known of these; it is taken apart along the program by the
equivalences below. `Alike` does the same for two programs that are run side by side. `Agree` is for
two programs that end alike unless the first one breaks off, and `Follows` for two that end alike up
to a relation between their results.
-/

namespace Patchbay

variable {ε δ σ τ α β : Type}

/-- A run goes on from the result of its first part, if there is one. -/
lemma run_bind (x : ExceptT ε (StateM σ) α) (f : α → ExceptT ε (StateM σ) β) (s : σ) :
    (x >>= f).run s = match x.run s with
      | (.ok a, s') => (f a).run s'
      | (.error e, s') => (.error e, s') := by
  change ExceptT.bindCont f (x.run s).1 (x.run s).2 = _
  rcases x.run s with ⟨_ | _, s'⟩ <;> rfl

/-- A run from `s` ends with a result as in `ok` or with an error as in `fail`. -/
def Ends (x : ExceptT ε (StateM σ) α) (s : σ) (ok : α → σ → Prop) (fail : ε → σ → Prop) : Prop :=
  match x.run s with
  | (.ok a, s') => ok a s'
  | (.error e, s') => fail e s'

namespace Ends

variable {ok ok' : α → σ → Prop} {fail fail' : ε → σ → Prop} {s : σ}

@[simp] lemma pure_iff (a : α) : Ends (pure a) s ok fail ↔ ok a s := Iff.rfl

@[simp] lemma bind_iff (x : ExceptT ε (StateM σ) β) (f : β → ExceptT ε (StateM σ) α) :
    Ends (x >>= f) s ok fail ↔ Ends x s (fun b s' => Ends (f b) s' ok fail) fail := by
  unfold Ends
  rw [run_bind]
  rcases x.run s with ⟨_ | _, s'⟩ <;> rfl

@[simp] lemma get_iff {ok : σ → σ → Prop} :
    Ends (get : ExceptT ε (StateM σ) σ) s ok fail ↔ ok s s := Iff.rfl

@[simp] lemma set_iff (t : σ) {ok : PUnit → σ → Prop} :
    Ends (set t : ExceptT ε (StateM σ) PUnit) s ok fail ↔ ok ⟨⟩ t := Iff.rfl

@[simp] lemma modify_iff (f : σ → σ) {ok : PUnit → σ → Prop} :
    Ends (modify f : ExceptT ε (StateM σ) PUnit) s ok fail ↔ ok ⟨⟩ (f s) := Iff.rfl

lemma proceed_iff (x : Except ε α) :
    Ends (proceed x) s ok fail ↔ (∀ a, x = .ok a → ok a s) ∧ (∀ e, x = .error e → fail e s) := by
  cases x <;> simp [Ends, proceed, ExceptT.run, ExceptT.mk]

@[simp] lemma proceed_ok (a : α) : Ends (proceed (.ok a)) s ok fail ↔ ok a s := Iff.rfl

@[simp] lemma proceed_error (e : ε) : Ends (proceed (.error e)) s ok fail ↔ fail e s := Iff.rfl

/-- What is known of the end of a run may be weakened. -/
lemma imp {x : ExceptT ε (StateM σ) α} (h : Ends x s ok fail) (hok : ∀ a s', ok a s' → ok' a s')
    (hfail : ∀ e s', fail e s' → fail' e s') : Ends x s ok' fail' := by
  unfold Ends at h ⊢
  rcases hx : x.run s with ⟨e | a, s'⟩ <;> rw [hx] at h
  · exact hfail e s' h
  · exact hok a s' h

lemma and {x : ExceptT ε (StateM σ) α} (h : Ends x s ok fail) (h' : Ends x s ok' fail') :
    Ends x s (fun a s' => ok a s' ∧ ok' a s') (fun e s' => fail e s' ∧ fail' e s') := by
  unfold Ends at h h' ⊢
  rcases hx : x.run s with ⟨e | a, s'⟩ <;> rw [hx] at h h'
  · exact ⟨h, h'⟩
  · exact ⟨h, h'⟩

lemma ok_of_run {x : ExceptT ε (StateM σ) α} (h : Ends x s ok fail) {a : α} {s' : σ}
    (hx : x.run s = (.ok a, s')) : ok a s' := by
  simpa [Ends, hx] using h

/-- A run that is repeated from the same state ends in the same way. -/
lemma twice {x : ExceptT ε (StateM σ) α} {P : α → σ → α → σ → Prop} {Q : ε → σ → ε → σ → Prop}
    (h : Ends x s (fun a s' => P a s' a s') (fun e s' => Q e s' e s')) :
    Ends x s (fun a s' => Ends x s (fun b t => P a s' b t) fun _ _ => False)
      (fun e s' => Ends x s (fun _ _ => False) fun d t => Q e s' d t) := by
  unfold Ends at h ⊢
  rcases hx : x.run s with ⟨e | a, s'⟩ <;> rw [hx] at h
  · exact h
  · exact h

lemma of_all {x : ExceptT ε (StateM σ) α} (h : ∀ a s', ok a s') (h' : ∀ e s', fail e s') :
    Ends x s ok fail := by
  unfold Ends
  split
  · exact h _ _
  · exact h' _ _

lemma of_ok {x : ExceptT ε (StateM σ) α} (h : ∀ a s', ok a s') :
    Ends x s ok (fun _ _ => True) := of_all h fun _ _ => trivial

lemma forget {x : ExceptT ε (StateM σ) α} (h : Ends x s ok fail) :
    Ends x s ok (fun _ _ => True) := h.imp (fun _ _ => id) fun _ _ _ => trivial

end Ends

/-- Two runs are the same if they begin and go on in the same way. -/
lemma run_bind_congr {x x' : ExceptT ε (StateM σ) α} {f f' : α → ExceptT ε (StateM σ) β} {s : σ}
    {p : α → σ → Prop} (hx : x.run s = x'.run s) (hp : Ends x' s p fun _ _ => True)
    (hf : ∀ a s', p a s' → (f a).run s' = (f' a).run s') : (x >>= f).run s = (x' >>= f').run s := by
  rw [run_bind, run_bind, hx]
  rcases hx' : x'.run s with ⟨_ | a, s'⟩
  · rfl
  · exact hf a s' (hp.ok_of_run hx')

/-- Two runs end in the same way, with results as in `ok` or with errors as in `fail`. -/
def Alike (x : ExceptT ε (StateM σ) α) (y : ExceptT δ (StateM τ) β) (s : σ) (t : τ)
    (ok : α → σ → β → τ → Prop) (fail : ε → σ → δ → τ → Prop) : Prop :=
  match x.run s, y.run t with
  | (.ok a, s'), (.ok b, t') => ok a s' b t'
  | (.error e, s'), (.error d, t') => fail e s' d t'
  | _, _ => False

namespace Alike

variable {x : ExceptT ε (StateM σ) α} {y : ExceptT δ (StateM τ) β} {s : σ} {t : τ}
  {ok ok' : α → σ → β → τ → Prop} {fail fail' : ε → σ → δ → τ → Prop}

@[simp] lemma pure_iff (a : α) (b : β) :
    Alike (pure a) (pure b) s t ok fail ↔ ok a s b t := Iff.rfl

/-- To compare two programs, compare their first parts and what follows. -/
lemma bind {α' β' : Type} {x' : ExceptT ε (StateM σ) α'} {y' : ExceptT δ (StateM τ) β'}
    {f : α' → ExceptT ε (StateM σ) α} {k : β' → ExceptT δ (StateM τ) β}
    (h : Alike x' y' s t (fun a s' b t' => Alike (f a) (k b) s' t' ok fail) fail) :
    Alike (x' >>= f) (y' >>= k) s t ok fail := by
  unfold Alike at h ⊢
  rw [run_bind, run_bind]
  revert h
  rcases x'.run s with ⟨_ | _, s'⟩ <;> rcases y'.run t with ⟨_ | _, t'⟩
  · exact id
  · exact False.elim
  · exact False.elim
  · exact id

lemma imp (h : Alike x y s t ok fail) (hok : ∀ a s' b t', ok a s' b t' → ok' a s' b t')
    (hfail : ∀ e s' d t', fail e s' d t' → fail' e s' d t') : Alike x y s t ok' fail' := by
  unfold Alike at h ⊢
  revert h
  rcases x.run s with ⟨_ | _, s'⟩ <;> rcases y.run t with ⟨_ | _, t'⟩
  · exact hfail _ _ _ _
  · exact id
  · exact id
  · exact hok _ _ _ _

/-- A second run is looked at where the first one ended. -/
lemma of_ends (h : Ends x s
      (fun a s' => Ends y t (fun b t' => ok a s' b t') fun _ _ => False)
      (fun e s' => Ends y t (fun _ _ => False) fun d t' => fail e s' d t')) :
    Alike x y s t ok fail := by
  unfold Ends at h
  unfold Alike
  revert h
  rcases x.run s with ⟨_ | _, s'⟩ <;> rcases y.run t with ⟨_ | _, t'⟩ <;> exact id

lemma congr {x' : ExceptT ε (StateM σ) α} {y' : ExceptT δ (StateM τ) β} {s' : σ} {t' : τ}
    (hx : x.run s = x'.run s') (hy : y.run t = y'.run t') (h : Alike x' y' s' t' ok fail) :
    Alike x y s t ok fail := by
  unfold Alike at h ⊢
  rwa [hx, hy]

/-- Two programs that both fail are alike. -/
lemma of_errors {e : ε} {d : δ} {s' : σ} {t' : τ} (hx : x.run s = (.error e, s'))
    (hy : y.run t = (.error d, t')) (h : fail e s' d t') : Alike x y s t ok fail := by
  unfold Alike
  rwa [hx, hy]

/-- The second program may go on where the first one is done. -/
lemma bind_right {γ : Type} {ok : α → σ → γ → τ → Prop} {f : β → ExceptT δ (StateM τ) γ}
    (h : Alike x y s t (fun a s' b t' => Alike (pure a) (f b) s' t' ok fail) fail) :
    Alike x (y >>= f) s t ok fail := by
  rw [← bind_pure x]
  exact h.bind

lemma pure_right {b : β} (h : Ends x s (fun a s' => ok a s' b t) fun _ _ => False) :
    Alike x (pure b) s t ok fail :=
  of_ends (h.imp (fun _ _ => id) fun _ _ => False.elim)

/-- What is known of the first run alone may be used for both. -/
lemma and_ends {p : α → σ → Prop} {q : ε → σ → Prop} (h : Alike x y s t ok fail)
    (hx : Ends x s p q) :
    Alike x y s t (fun a s' b t' => ok a s' b t' ∧ p a s')
      (fun e s' d t' => fail e s' d t' ∧ q e s') := by
  unfold Alike Ends at *
  revert h hx
  rcases x.run s with ⟨_ | _, s'⟩ <;> rcases y.run t with ⟨_ | _, t'⟩
  · exact And.intro
  · exact fun h _ => h
  · exact fun h _ => h
  · exact And.intro

end Alike

/-- From related states two runs end with the same result or error, in related states. Or the first
one breaks off with an error that the second one does not have, and leaves the states as in `cut`;
the second one goes on by itself and keeps them so. -/
structure Agree (R : σ → τ → Prop) (cut : ε → σ → τ → Prop) (x : ExceptT ε (StateM σ) α)
    (y : ExceptT ε (StateM τ) α) : Prop where
  together : ∀ s t, R s t → match x.run s, y.run t with
    | (.ok a, s'), (r, t') => r = .ok a ∧ R s' t'
    | (.error e, s'), (r, t') => r = .error e ∧ R s' t' ∨ cut e s' t'
  alone : ∀ e s t, cut e s t → Ends y t (fun _ => cut e s) fun _ => cut e s

namespace Agree

variable {R : σ → τ → Prop} {cut : ε → σ → τ → Prop}

lemma pure (a : α) : Agree R cut (Pure.pure a : ExceptT ε (StateM σ) α) (Pure.pure a) where
  together _ _ h := ⟨rfl, h⟩
  alone _ _ _ h := h

lemma proceed (x : Except ε α) : Agree R cut (proceed x) (Patchbay.proceed x) where
  together _ _ h := by
    cases x with
    | ok a => exact ⟨rfl, h⟩
    | error e => exact .inl ⟨rfl, h⟩
  alone _ _ _ h := by cases x <;> exact h

/-- Programs agree if their first parts do and what follows does after every result. -/
lemma bind {x : ExceptT ε (StateM σ) α} {y : ExceptT ε (StateM τ) α}
    {f : α → ExceptT ε (StateM σ) β} {k : α → ExceptT ε (StateM τ) β} (h : Agree R cut x y)
    (hf : ∀ a, Agree R cut (f a) (k a)) : Agree R cut (x >>= f) (y >>= k) where
  together s t hs := by
    have hxy := h.together s t hs
    rw [run_bind, run_bind]
    revert hxy
    rcases x.run s with ⟨e | a, s'⟩ <;> rcases y.run t with ⟨d | b, t'⟩
    · rintro (⟨herr, hs'⟩ | hcut)
      · exact .inl ⟨by cases herr; rfl, hs'⟩
      · exact .inr hcut
    · rintro (⟨herr, -⟩ | hcut)
      · cases herr
      -- The first run is over, and the second one goes on from its result.
      · have hon := (hf b).alone e s' t' hcut
        unfold Ends at hon
        revert hon
        dsimp only
        rcases (k b).run t' with ⟨_ | _, _⟩ <;> exact .inr
    · rintro ⟨herr, -⟩
      cases herr
    · rintro ⟨hab, hs'⟩
      cases hab
      exact (hf a).together s' t' hs'
  alone e s t hcut :=
    (Ends.bind_iff y k).mpr
      ((h.alone e s t hcut).imp (fun b t' hcut' => (hf b).alone e s t' hcut') fun _ _ => id)

/-- What goes on with a part of the state has to agree for every such part. -/
lemma get_bind {γ : Type} {part : σ → γ} {part' : τ → γ} (f : γ → ExceptT ε (StateM σ) α)
    (k : γ → ExceptT ε (StateM τ) α) (hpart : ∀ s t, R s t → part s = part' t)
    (h : ∀ c, Agree R cut (f c) (k c)) :
    Agree R cut (get >>= fun s => f (part s)) (get >>= fun t => k (part' t)) where
  together s t hs := by
    change match (f (part s)).run s, (k (part' t)).run t with
      | (.ok a, s'), (r, t') => r = .ok a ∧ R s' t'
      | (.error e, s'), (r, t') => r = .error e ∧ R s' t' ∨ cut e s' t'
    rw [hpart s t hs]
    exact (h _).together s t hs
  alone e s t hcut := (h (part' t)).alone e s t hcut

end Agree

/-- Two results are related, or they are the same error. -/
inductive Echoes (V : α → β → Prop) : Except ε α → Except ε β → Prop
  | ok {a : α} {b : β} (h : V a b) : Echoes V (.ok a) (.ok b)
  | error (e : ε) : Echoes V (.error e) (.error e)

namespace Echoes

variable {α' β' : Type} {V : α → β → Prop} {V' : α' → β' → Prop}

lemma refl (x : Except ε α) : Echoes Eq x x := by
  cases x with
  | ok a => exact .ok rfl
  | error e => exact .error e

lemma bind {x : Except ε α} {y : Except ε β} {f : α → Except ε α'} {k : β → Except ε β'}
    (h : Echoes V x y) (hf : ∀ a b, V a b → Echoes V' (f a) (k b)) :
    Echoes V' (x >>= f) (y >>= k) := by
  cases h with
  | ok h => exact hf _ _ h
  | error e => exact .error e

lemma mapError {x : Except ε α} {y : Except ε β} (h : Echoes V x y) (f : ε → δ) :
    Echoes V (x.mapError f) (y.mapError f) := by
  cases h with
  | ok h => exact .ok h
  | error e => exact .error (f e)

/-- Folds over related items echo each other if their steps do. -/
lemma foldlM {γ γ' : Type} {P : γ → γ' → Prop} {f : α → γ → Except ε α} {k : β → γ' → Except ε β}
    (hf : ∀ a b, V a b → ∀ c c', P c c' → Echoes V (f a c) (k b c')) {cs : List γ}
    {cs' : List γ'} (hcs : List.Forall₂ P cs cs') :
    ∀ {a b}, V a b → Echoes V (cs.foldlM f a) (cs'.foldlM k b) := by
  induction hcs with
  | nil => exact fun h => .ok h
  | cons hc _ ih =>
    intro a b h
    rw [List.foldlM_cons, List.foldlM_cons]
    exact (hf a b h _ _ hc).bind fun _ _ => ih

end Echoes

/-- From related states the second run follows the first one: to a related result, or to the same
error. Nothing is said where the first one ends with an error as in `cut`. -/
def Follows (R : σ → τ → Prop) (cut : ε → Prop) (V : α → β → Prop) (x : ExceptT ε (StateM σ) α)
    (y : ExceptT ε (StateM τ) β) : Prop :=
  ∀ s t, R s t → match x.run s, y.run t with
    | (.ok a, s'), (r, t') => (∃ b, r = .ok b ∧ V a b) ∧ R s' t'
    | (.error e, s'), (r, t') => r = .error e ∧ R s' t' ∨ cut e

namespace Follows

variable {α' β' : Type} {R : σ → τ → Prop} {cut : ε → Prop} {V : α → β → Prop}
  {V' : α' → β' → Prop}

lemma pure {a : α} {b : β} (h : V a b) :
    Follows R cut V (Pure.pure a : ExceptT ε (StateM σ) α) (Pure.pure b) :=
  fun _ _ hs => ⟨⟨b, rfl, h⟩, hs⟩

lemma proceed {x : Except ε α} {y : Except ε β} (h : Echoes V x y) :
    Follows R cut V (proceed x) (Patchbay.proceed y) := by
  intro s t hs
  cases h with
  | ok h => exact ⟨⟨_, rfl, h⟩, hs⟩
  | error e => exact .inl ⟨rfl, hs⟩

/-- Of errors that nothing is said about none needs to be followed. -/
lemma proceed_of_ok {x : Except ε α} {y : Except ε β} (hcut : ∀ e, cut e)
    (h : ∀ a, x = .ok a → ∃ b, y = .ok b ∧ V a b) :
    Follows R cut V (Patchbay.proceed x) (Patchbay.proceed y) := by
  intro s t hs
  cases x with
  | ok a =>
    obtain ⟨b, rfl, hab⟩ := h a rfl
    exact ⟨⟨b, rfl, hab⟩, hs⟩
  | error e => exact .inr (hcut e)

/-- A program follows another if its first part does and what follows does after related results. -/
lemma bind {x : ExceptT ε (StateM σ) α} {y : ExceptT ε (StateM τ) β}
    {f : α → ExceptT ε (StateM σ) α'} {k : β → ExceptT ε (StateM τ) β'} (h : Follows R cut V x y)
    (hf : ∀ a b, V a b → Follows R cut V' (f a) (k b)) :
    Follows R cut V' (x >>= f) (y >>= k) := by
  intro s t hs
  have hxy := h s t hs
  rw [run_bind, run_bind]
  revert hxy
  rcases x.run s with ⟨e | a, s'⟩ <;> rcases y.run t with ⟨d | b, t'⟩
  · rintro (⟨herr, hs'⟩ | hcut)
    · exact .inl ⟨by cases herr; rfl, hs'⟩
    · exact .inr hcut
  · rintro (⟨herr, -⟩ | hcut)
    · cases herr
    · exact .inr hcut
  · rintro ⟨⟨_, herr, -⟩, -⟩
    cases herr
  · rintro ⟨⟨_, hb, hab⟩, hs'⟩
    cases hb
    exact hf a b hab s' t' hs'

/-- What goes on with a part of the state has to follow for related parts. -/
lemma get_bind {γ γ' : Type} {P : γ → γ' → Prop} {part : σ → γ} {part' : τ → γ'}
    (f : γ → ExceptT ε (StateM σ) α) (k : γ' → ExceptT ε (StateM τ) β)
    (hpart : ∀ s t, R s t → P (part s) (part' t))
    (h : ∀ c c', P c c' → Follows R cut V (f c) (k c')) :
    Follows R cut V (get >>= fun s => f (part s)) (get >>= fun t => k (part' t)) :=
  fun s t hs => h (part s) (part' t) (hpart s t hs) s t hs

end Follows

section Unbroken

variable {R : σ → τ → Prop} {cut : ε → σ → τ → Prop} {x : ExceptT ε (StateM σ) α}
  {y : ExceptT ε (StateM τ) α}

/-- Where nothing breaks off, to agree is to follow to the same results. -/
lemma Agree.follows (h : Agree R cut x y) (hcut : ∀ e s t, ¬ cut e s t) :
    Follows R (fun _ => False) Eq x y := by
  intro s t hs
  have hxy := h.together s t hs
  revert hxy
  rcases x.run s with ⟨e | a, s'⟩ <;> rcases y.run t with ⟨r, t'⟩
  · exact fun hxy => hxy.imp_right (hcut e s' t')
  · exact fun ⟨hr, hs'⟩ => ⟨⟨a, hr, rfl⟩, hs'⟩

lemma Follows.agree (h : Follows R (fun _ => False) Eq x y) (hcut : ∀ e s t, ¬ cut e s t) :
    Agree R cut x y where
  together s t hs := by
    have hxy := h s t hs
    revert hxy
    rcases x.run s with ⟨e | a, s'⟩ <;> rcases y.run t with ⟨r, t'⟩
    · exact fun hxy => .inl (hxy.resolve_right id)
    · rintro ⟨⟨b, hr, rfl⟩, hs'⟩
      exact ⟨hr, hs'⟩
  alone e s t h := (hcut e s t h).elim

end Unbroken

end Patchbay
