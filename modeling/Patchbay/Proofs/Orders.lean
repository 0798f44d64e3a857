import Mathlib.Data.List.Perm.Basic
import Patchbay.Proofs.Lists

/-!
# Lists in another order

What does not depend on the order of a list, and lists whose items are related one to one, the items
of the second one in whatever order.
-/

namespace Patchbay

variable {α β γ δ : Type} {R : α → β → Prop} {xs : List α} {ys : List β}

lemma length_filter_le_one_of_nodup_map {κ : Type} [DecidableEq κ] {key : α → κ}
    (h : (xs.map key).Nodup) (k : κ) : (xs.filter fun x => key x = k).length ≤ 1 := by
  have hcount := List.nodup_iff_count_le_one.mp h k
  rw [List.count, List.countP_map, List.countP_eq_length_filter] at hcount
  simpa only [Function.comp_def, beq_eq_decide] using hcount

/-- What only one item can be is found in any order. -/
lemma find?_eq_of_perm {p : α → Bool} {xs' : List α} (h : xs'.Perm xs)
    (hone : (xs.filter p).length ≤ 1) : xs'.find? p = xs.find? p := by
  have hfilter := h.filter p
  rw [← List.head?_filter, ← List.head?_filter]
  generalize xs.filter p = found at hfilter hone
  rcases found with _ | ⟨x, _ | ⟨x', rest⟩⟩
  · rw [hfilter.eq_nil]
  · rw [List.perm_singleton.mp hfilter]
  · simp at hone

lemma forall₂_countP_eq {p : α → Bool} {q : β → Bool} (h : List.Forall₂ R xs ys)
    (hpq : ∀ x y, R x y → (p x ↔ q y)) : xs.countP p = ys.countP q := by
  induction h with
  | nil => rfl
  | cons hr _ ih => rw [List.countP_cons, List.countP_cons, ih, Bool.eq_iff_iff.mpr (hpq _ _ hr)]

/-- Items at the same place of related lists are related. -/
lemma forall₂_rel_of_getElem? (h : List.Forall₂ R xs ys) {n : Nat} {x : α} {y : β}
    (hx : xs[n]? = some x) (hy : ys[n]? = some y) : R x y := by
  obtain ⟨y', hy', hr⟩ := forall₂_getElem? h hx
  exact Option.some.inj (hy'.symm.trans hy) ▸ hr

lemma forall₂_and {S : α → β → Prop} (h : List.Forall₂ R xs ys) (h' : List.Forall₂ S xs ys) :
    List.Forall₂ (fun x y => R x y ∧ S x y) xs ys := by
  rw [List.forall₂_iff_zip] at *
  exact ⟨h.1, fun hxy => ⟨h.2 hxy, h'.2 hxy⟩⟩

/-- Lists that are related one by one are so on both sides of a cut. -/
lemma forall₂_of_append {as bs : List α} {cs ds : List β}
    (h : List.Forall₂ R (as ++ bs) (cs ++ ds)) (hlength : as.length = cs.length) :
    List.Forall₂ R as cs ∧ List.Forall₂ R bs ds := by
  induction as generalizing cs with
  | nil =>
    obtain rfl := List.length_eq_zero_iff.mp hlength.symm
    exact ⟨.nil, h⟩
  | cons a as ih =>
    cases cs with
    | nil => cases hlength
    | cons c cs =>
      obtain ⟨hr, h⟩ := List.forall₂_cons.mp h
      obtain ⟨has, hbs⟩ := ih h (Nat.succ.inj hlength)
      exact ⟨.cons hr has, hbs⟩

lemma length_append_eq {as bs : List α} {cs ds : List β} (h : as.length = cs.length)
    (h' : bs.length = ds.length) : (as ++ bs).length = (cs ++ ds).length := by
  rw [List.length_append, List.length_append, h, h']

lemma length_flatMap_eq {f : α → List γ} {k : β → List δ} (h : List.Forall₂ R xs ys)
    (hlength : ∀ x y, R x y → (f x).length = (k y).length) :
    (xs.flatMap f).length = (ys.flatMap k).length := by
  induction h with
  | nil => rfl
  | cons hr _ ih =>
    rw [List.flatMap_cons, List.flatMap_cons]
    exact length_append_eq (hlength _ _ hr) ih

/-- If concatenated lists are related item by item, and the parts have the same lengths, then so are
the parts. -/
lemma forall₂_of_flatMap {S : γ → δ → Prop} {f : α → List γ} {k : β → List δ}
    (h : List.Forall₂ R xs ys) (hlength : ∀ x y, R x y → (f x).length = (k y).length)
    (hS : List.Forall₂ S (xs.flatMap f) (ys.flatMap k)) :
    List.Forall₂ (fun x y => R x y ∧ List.Forall₂ S (f x) (k y)) xs ys := by
  induction h with
  | nil => exact .nil
  | @cons x y xs ys hr _ ih =>
    rw [List.flatMap_cons, List.flatMap_cons] at hS
    obtain ⟨hx, hxs⟩ := forall₂_of_append hS (hlength x y hr)
    exact .cons ⟨hr, hx⟩ (ih hxs)

/-- The values of a bijection are, up to order, those that are assigned to the keys of a list. -/
lemma perm_map_of_bijOn {κ : Type} {key : α → κ} {f : κ → β} {s : Set κ}
    (hs : ∀ k, k ∈ s ↔ ∃ x ∈ xs, key x = k) (hkey : (xs.map key).Nodup)
    (hf : Set.BijOn f s {y | y ∈ ys}) (hys : ys.Nodup) :
    (xs.map fun x => f (key x)).Perm ys := by
  have hmem : ∀ x ∈ xs, key x ∈ s := fun x hx => (hs _).mpr ⟨x, hx, rfl⟩
  refine (List.perm_ext_iff_of_nodup ?_ hys).mpr fun y => ?_
  · refine (List.Nodup.of_map key hkey).map_on fun x hx x' hx' heq => ?_
    exact List.inj_on_of_nodup_map hkey hx hx' (hf.injOn (hmem x hx) (hmem x' hx') heq)
  · rw [List.mem_map]
    constructor
    · rintro ⟨x, hx, rfl⟩
      exact hf.mapsTo (hmem x hx)
    · intro hy
      obtain ⟨k, hk, rfl⟩ := hf.surjOn hy
      obtain ⟨x, hx, rfl⟩ := (hs k).mp hk
      exact ⟨x, hx, rfl⟩

/-! ### Items related one to one -/

/-- The items of two lists are related one to one. -/
def UpToOrder (R : α → β → Prop) (xs : List α) (ys : List β) : Prop :=
  ∃ zs, List.Forall₂ R xs zs ∧ zs.Perm ys

namespace UpToOrder

lemma of_forall₂ (h : List.Forall₂ R xs ys) : UpToOrder R xs ys := ⟨ys, h, .refl ys⟩

/-- Items with the same values are related one to one if the values are the same up to order. -/
lemma of_map_perm {f : α → γ} {k : β → γ} (h : (xs.map f).Perm (ys.map k)) :
    UpToOrder (fun x y => f x = k y) xs ys := by
  have hright : List.Forall₂ (fun c y => c = k y) (ys.map k) ys :=
    List.forall₂_map_left_iff.mpr (List.forall₂_same.mpr fun _ _ => rfl)
  obtain ⟨zs, hzs, hperm⟩ := List.perm_comp_forall₂ h hright
  exact ⟨zs, List.forall₂_map_left_iff.mp hzs, hperm⟩

lemma perm_right {zs : List β} (h : UpToOrder R xs ys) (hperm : ys.Perm zs) :
    UpToOrder R xs zs := by
  obtain ⟨ws, hws, hperm'⟩ := h
  exact ⟨ws, hws, hperm'.trans hperm⟩

lemma perm_left {ws : List α} (h : UpToOrder R xs ys) (hperm : ws.Perm xs) :
    UpToOrder R ws ys := by
  obtain ⟨zs, hzs, hperm'⟩ := h
  obtain ⟨zs', hzs', hperm''⟩ := List.perm_comp_forall₂ hperm hzs
  exact ⟨zs', hzs', hperm''.trans hperm'⟩

lemma symm (h : UpToOrder R xs ys) : UpToOrder (fun y x => R x y) ys xs := by
  obtain ⟨zs, hzs, hperm⟩ := h
  exact (of_forall₂ hzs.flip).perm_left hperm.symm

lemma exists_right (h : UpToOrder R xs ys) {x : α} (hx : x ∈ xs) : ∃ y ∈ ys, R x y := by
  obtain ⟨zs, hzs, hperm⟩ := h
  obtain ⟨y, hy, hr⟩ := forall₂_exists_right hzs hx
  exact ⟨y, hperm.subset hy, hr⟩

lemma exists_left (h : UpToOrder R xs ys) {y : β} (hy : y ∈ ys) : ∃ x ∈ xs, R x y :=
  h.symm.exists_right hy

/-- Related items may be related in another way, too. -/
lemma imp {S : α → β → Prop} (h : UpToOrder R xs ys) (himp : ∀ x ∈ xs, ∀ y ∈ ys, R x y → S x y) :
    UpToOrder S xs ys := by
  obtain ⟨zs, hzs, hperm⟩ := h
  refine ⟨zs, ?_, hperm⟩
  rw [List.forall₂_iff_zip] at hzs ⊢
  refine ⟨hzs.1, fun hxy => ?_⟩
  obtain ⟨hx, hy⟩ := List.of_mem_zip hxy
  exact himp _ hx _ (hperm.subset hy) (hzs.2 hxy)

/-- Two relations up to order after each other are one. -/
lemma trans {S : β → γ → Prop} {zs : List γ} (h : UpToOrder R xs ys) (h' : UpToOrder S ys zs) :
    UpToOrder (fun x z => ∃ y ∈ ys, R x y ∧ S y z) xs zs := by
  obtain ⟨us, hus, hperm⟩ := h
  obtain ⟨ws, hws, hperm'⟩ := h'.perm_left hperm
  have hmem : us ⊆ ys := hperm.subset
  refine ⟨ws, ?_, hperm'⟩
  clear h' hperm hperm'
  induction hus generalizing ws with
  | nil =>
    cases hws
    exact .nil
  | cons hr _ ih =>
    cases hws with
    | cons hs hws =>
      obtain ⟨hy, hmem⟩ := List.cons_subset.mp hmem
      exact .cons ⟨_, hy, hr, hs⟩ (ih _ hws hmem)

/-- What holds of all items holds of all on the other side. -/
lemma forall_iff {p : α → Prop} {q : β → Prop} (h : UpToOrder R xs ys)
    (hpq : ∀ x ∈ xs, ∀ y ∈ ys, R x y → (p x ↔ q y)) : (∀ x ∈ xs, p x) ↔ ∀ y ∈ ys, q y := by
  constructor
  · intro hp y hy
    obtain ⟨x, hx, hr⟩ := h.exists_left hy
    exact (hpq x hx y hy hr).mp (hp x hx)
  · intro hq x hx
    obtain ⟨y, hy, hr⟩ := h.exists_right hx
    exact (hpq x hx y hy hr).mpr (hq y hy)

lemma exists_iff {p : α → Prop} {q : β → Prop} (h : UpToOrder R xs ys)
    (hpq : ∀ x ∈ xs, ∀ y ∈ ys, R x y → (p x ↔ q y)) : (∃ x ∈ xs, p x) ↔ ∃ y ∈ ys, q y := by
  constructor
  · rintro ⟨x, hx, hp⟩
    obtain ⟨y, hy, hr⟩ := h.exists_right hx
    exact ⟨y, hy, (hpq x hx y hy hr).mp hp⟩
  · rintro ⟨y, hy, hq⟩
    obtain ⟨x, hx, hr⟩ := h.exists_left hy
    exact ⟨x, hx, (hpq x hx y hy hr).mpr hq⟩

/-- Lists that are related up to order are so after one another. -/
lemma append {xs' : List α} {ys' : List β} (h : UpToOrder R xs ys) (h' : UpToOrder R xs' ys') :
    UpToOrder R (xs ++ xs') (ys ++ ys') := by
  obtain ⟨zs, hzs, hperm⟩ := h
  obtain ⟨zs', hzs', hperm'⟩ := h'
  exact ⟨zs ++ zs', List.rel_append hzs hzs', hperm.append hperm'⟩

lemma map {S : γ → δ → Prop} {f : α → γ} {k : β → δ} (h : UpToOrder R xs ys)
    (hf : ∀ x ∈ xs, ∀ y ∈ ys, R x y → S (f x) (k y)) : UpToOrder S (xs.map f) (ys.map k) := by
  obtain ⟨zs, hzs, hperm⟩ := h.imp hf
  refine ⟨zs.map k, ?_, hperm.map k⟩
  rwa [List.forall₂_map_left_iff, List.forall₂_map_right_iff]

/-- Lists that are joined from parts are related up to order if the parts are. -/
lemma flatMap {S : γ → δ → Prop} {f : α → List γ} {k : β → List δ} (h : UpToOrder R xs ys)
    (hf : ∀ x ∈ xs, ∀ y ∈ ys, R x y → UpToOrder S (f x) (k y)) :
    UpToOrder S (xs.flatMap f) (ys.flatMap k) := by
  obtain ⟨zs, hzs, hperm⟩ := h.imp hf
  refine perm_right ?_ (hperm.flatMap_right k)
  clear h hf hperm
  induction hzs with
  | nil => exact of_forall₂ .nil
  | cons hr _ ih => exact hr.append ih

lemma filterMap {S : γ → δ → Prop} {f : α → Option γ} {k : β → Option δ} (h : UpToOrder R xs ys)
    (hf : ∀ x ∈ xs, ∀ y ∈ ys, R x y → Option.Rel S (f x) (k y)) :
    UpToOrder S (xs.filterMap f) (ys.filterMap k) := by
  obtain ⟨zs, hzs, hperm⟩ := h.imp hf
  exact ⟨zs.filterMap k, List.rel_filterMap (fun _ _ hr => hr) hzs, hperm.filterMap k⟩

lemma filter {p : α → Bool} {q : β → Bool} (h : UpToOrder R xs ys)
    (hpq : ∀ x ∈ xs, ∀ y ∈ ys, R x y → p x = q y) :
    UpToOrder R (xs.filter p) (ys.filter q) := by
  rw [← List.filterMap_eq_filter, ← List.filterMap_eq_filter]
  refine h.filterMap fun x hx y hy hr => ?_
  rw [Option.guard, Option.guard, hpq x hx y hy hr]
  split_ifs
  · exact .some hr
  · exact .none

/-! Values that related items share are the same up to order. -/

/-- Related items that give the same give the same list up to order. -/
lemma filterMap_perm {f : α → Option γ} {k : β → Option γ} (h : UpToOrder R xs ys)
    (hf : ∀ x ∈ xs, ∀ y ∈ ys, R x y → f x = k y) : (xs.filterMap f).Perm (ys.filterMap k) := by
  obtain ⟨zs, hzs, hperm⟩ := h.imp hf
  have heq : xs.filterMap f = zs.filterMap k := by
    clear h hf hperm
    induction hzs with
    | nil => rfl
    | cons hr _ ih => rw [List.filterMap_cons, List.filterMap_cons, hr, ih]
  exact heq ▸ hperm.filterMap k

lemma map_perm {f : α → γ} {k : β → γ} (h : UpToOrder R xs ys)
    (hf : ∀ x ∈ xs, ∀ y ∈ ys, R x y → f x = k y) : (xs.map f).Perm (ys.map k) := by
  rw [← List.filterMap_eq_map, ← List.filterMap_eq_map]
  exact h.filterMap_perm fun x hx y hy hr => congrArg some (hf x hx y hy hr)

lemma flatMap_perm {f : α → List γ} {k : β → List γ} (h : UpToOrder R xs ys)
    (hf : ∀ x ∈ xs, ∀ y ∈ ys, R x y → f x = k y) : (xs.flatMap f).Perm (ys.flatMap k) := by
  obtain ⟨zs, hzs, hperm⟩ := h.imp hf
  have heq : xs.flatMap f = zs.flatMap k := by
    clear h hf hperm
    induction hzs with
    | nil => rfl
    | cons hr _ ih => rw [List.flatMap_cons, List.flatMap_cons, hr, ih]
  exact heq ▸ hperm.flatMap_right k

lemma countP_eq {p : α → Bool} {q : β → Bool} (h : UpToOrder R xs ys)
    (hpq : ∀ x ∈ xs, ∀ y ∈ ys, R x y → (p x ↔ q y)) : xs.countP p = ys.countP q := by
  obtain ⟨zs, hzs, hperm⟩ := h.imp hpq
  rw [forall₂_countP_eq hzs fun _ _ hr => hr, hperm.countP_eq]

end UpToOrder

end Patchbay
