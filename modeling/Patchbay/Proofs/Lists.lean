import Mathlib.Data.List.Forall2
import Mathlib.Data.List.Nodup
import Mathlib.Data.Set.Function
import Mathlib.Tactic.Common

/-!
# Lists that grow at their end

What holds of all items of a list, and of the items of two lists one by one, while an item is put
at the end.
-/

namespace Patchbay

variable {α β : Type} {R : α → β → Prop} {xs : List α} {ys : List β}

lemma forall_mem_concat {p : α → Prop} {x : α} (h : ∀ y ∈ xs, p y)
    (hx : p x) : ∀ y ∈ xs ++ [x], p y := by
  intro y hy
  rcases List.mem_append.mp hy with hy | hy
  · exact h y hy
  · rwa [List.mem_singleton.mp hy]

/-- An item of a list that an item was put at the end of is this one, or it was there before. -/
lemma split_concat {before after : List α} {x y : α} (h : xs ++ [y] = before ++ x :: after) :
    (∃ rest, xs = before ++ x :: rest ∧ after = rest ++ [y]) ∨
      xs = before ∧ y = x ∧ after = [] := by
  rcases List.eq_nil_or_concat after with rfl | ⟨rest, z, rfl⟩
  · obtain ⟨hxs, hy⟩ := List.append_inj' h rfl
    exact .inr ⟨hxs, List.singleton_inj.mp hy, rfl⟩
  · rw [List.concat_eq_append, ← List.cons_append, ← List.append_assoc] at h
    obtain ⟨hxs, hy⟩ := List.append_inj' h rfl
    exact .inl ⟨rest, hxs, by rw [List.concat_eq_append, hy]⟩

/-- A list is split in one way at the first item with a property. -/
lemma split_first_unique {p : α → Prop} {before before' after after' : List α} {x y : α}
    (h : before ++ x :: after = before' ++ y :: after') (hbefore : ∀ z ∈ before, ¬ p z) (hx : p x)
    (hbefore' : ∀ z ∈ before', ¬ p z) (hy : p y) : before = before' ∧ x = y := by
  induction before generalizing before' with
  | nil =>
    cases before' with
    | nil => exact ⟨rfl, (List.cons.inj h).1⟩
    | cons z before' =>
      obtain rfl : x = z := (List.cons.inj h).1
      exact (hbefore' x List.mem_cons_self hx).elim
  | cons w before ih =>
    cases before' with
    | nil =>
      obtain rfl : w = y := (List.cons.inj h).1
      exact (hbefore w List.mem_cons_self hy).elim
    | cons z before' =>
      obtain ⟨rfl, hrest⟩ := List.cons.inj h
      obtain ⟨rfl, hxy⟩ := ih hrest (fun z hz => hbefore z (List.mem_cons_of_mem _ hz))
        fun z hz => hbefore' z (List.mem_cons_of_mem _ hz)
      exact ⟨rfl, hxy⟩

/-- An item with a new key leaves the keys different. -/
lemma nodup_concat {f : α → β} {x : α} (h : (xs.map f).Nodup)
    (hx : f x ∉ xs.map f) : ((xs ++ [x]).map f).Nodup := by
  rw [List.map_append, List.nodup_append]
  refine ⟨h, by simp, ?_⟩
  rintro y hy z hz rfl
  obtain rfl : y = f x := by simpa using hz
  exact hx hy

/-- The item at the same place is related. -/
lemma forall₂_getElem? (h : List.Forall₂ R xs ys) {n : Nat} {x : α} (hx : xs[n]? = some x) :
    ∃ y, ys[n]? = some y ∧ R x y := by
  induction h generalizing n with
  | nil => simp at hx
  | cons hr _ ih =>
    cases n with
    | zero =>
      obtain rfl : _ = x := by simpa using hx
      exact ⟨_, rfl, hr⟩
    | succ n => exact ih (by simpa using hx)

/-- What holds of related values, and if there are none, holds of two options that are related. -/
@[elab_as_elim]
lemma optionRel_elim {P : Option α → Option β → Prop} {x : Option α} {y : Option β}
    (h : Option.Rel R x y) (hnone : P none none) (hsome : ∀ a b, R a b → P (some a) (some b)) :
    P x y := by
  cases h with
  | none => exact hnone
  | some hr => exact hsome _ _ hr

lemma optionRel_map {γ δ : Type} {P : γ → δ → Prop} {f : α → γ} {k : β → δ} {x : Option α}
    {y : Option β} (h : Option.Rel R x y) (hf : ∀ a b, R a b → P (f a) (k b)) :
    Option.Rel P (x.map f) (y.map k) := by
  cases h with
  | none => exact .none
  | some hr => exact .some (hf _ _ hr)

lemma optionRel_join {x : Option (Option α)} {y : Option (Option β)}
    (h : Option.Rel (Option.Rel R) x y) : Option.Rel R x.join y.join := by
  cases h with
  | none => exact .none
  | some hr => exact hr

/-- Lists that are related item by item have related items at each place, or end there. -/
lemma forall₂_getElem?_rel (h : List.Forall₂ R xs ys) (n : Nat) :
    Option.Rel R xs[n]? ys[n]? := by
  induction h generalizing n with
  | nil => exact .none
  | cons hr _ ih =>
    cases n with
    | zero => simpa using Option.Rel.some hr
    | succ n => simpa using ih n

/-- Searches for items that are looked for alike find related items. -/
lemma forall₂_find?_rel {p : α → Bool} {q : β → Bool} (h : List.Forall₂ R xs ys)
    (hpq : ∀ x y, R x y → p x = q y) : Option.Rel R (xs.find? p) (ys.find? q) := by
  induction h with
  | nil => exact .none
  | @cons x y _ _ hr _ ih =>
    have hxy := hpq x y hr
    cases hp : p x with
    | true => simpa [hp, hxy ▸ hp] using Option.Rel.some hr
    | false => simpa [hp, hxy ▸ hp] using ih

/-- Under equal keys related things are found. -/
lemma forall₂_lookup_rel {κ : Type} [BEq κ] {xs : List (κ × α)} {ys : List (κ × β)}
    (h : List.Forall₂ (fun p q => p.1 = q.1 ∧ R p.2 q.2) xs ys) (k : κ) :
    Option.Rel R (xs.lookup k) (ys.lookup k) := by
  induction h with
  | nil => exact .none
  | @cons p q _ _ hpq _ ih =>
    obtain ⟨i, x⟩ := p
    obtain ⟨j, y⟩ := q
    obtain ⟨rfl, hr⟩ := hpq
    rw [List.lookup_cons, List.lookup_cons]
    cases k == i with
    | true => exact .some hr
    | false => exact ih

lemma forall₂_exists_right (h : List.Forall₂ R xs ys) {x : α} (hx : x ∈ xs) :
    ∃ y ∈ ys, R x y := by
  obtain ⟨n, hn⟩ := List.mem_iff_getElem?.mp hx
  obtain ⟨y, hy, hr⟩ := forall₂_getElem? h hn
  exact ⟨y, List.mem_of_getElem? hy, hr⟩

lemma forall₂_concat (h : List.Forall₂ R xs ys) {x : α} {y : β} (hr : R x y) :
    List.Forall₂ R (xs ++ [x]) (ys ++ [y]) :=
  List.rel_append h (.cons hr .nil)

/-- Where the keys differ, an item is found under its key. -/
lemma find?_of_nodup_map {κ : Type} [DecidableEq κ] {key : α → κ} (h : (xs.map key).Nodup) {x : α}
    (hx : x ∈ xs) : (xs.find? fun y => key y = key x) = some x := by
  cases hfind : xs.find? fun y => key y = key x with
  | none => simpa using List.find?_eq_none.mp hfind x hx
  | some y =>
    have hkey : key y = key x := by simpa using List.find?_some hfind
    rw [List.inj_on_of_nodup_map h (List.mem_of_find?_eq_some hfind) hx hkey]

/-- Under keys that differ, each pair is the one that is found. -/
lemma lookup_of_mem [BEq α] [LawfulBEq α] {ps : List (α × β)} {q : α × β}
    (hnodup : (ps.map Prod.fst).Nodup) (hq : q ∈ ps) : ps.lookup q.1 = some q.2 := by
  induction ps with
  | nil => cases hq
  | cons r ps ih =>
    rw [List.map_cons, List.nodup_cons] at hnodup
    rw [List.lookup_cons]
    rcases List.mem_cons.mp hq with rfl | hq
    · simp
    · have hne : (q.1 == r.1) = false := by
        rw [beq_eq_false_iff_ne]
        intro heq
        exact hnodup.1 (heq ▸ List.mem_map_of_mem hq)
      rw [hne]
      exact ih hnodup.2 hq

lemma mem_of_lookup [BEq α] [LawfulBEq α] {ps : List (α × β)} {a : α} {b : β}
    (h : ps.lookup a = some b) : (a, b) ∈ ps := by
  obtain ⟨before, after, rfl, -⟩ := List.lookup_eq_some_iff.mp h
  exact List.mem_append_right _ List.mem_cons_self

lemma lookup_zipIdx [BEq α] [LawfulBEq α] (xs : List α) (a : α) (n : Nat) :
    (xs.zipIdx n).lookup a = (xs.findIdx? (· == a)).map (· + n) := by
  induction xs generalizing n with
  | nil => rfl
  | cons x xs ih =>
    rw [List.zipIdx_cons, List.lookup_cons, List.findIdx?_cons, ih, BEq.comm]
    cases x == a with
    | true => simp
    | false => simp [Function.comp_def, Nat.add_comm 1, Nat.add_assoc]

lemma modify_append_cons (xs ys : List α) (x : α) (f : α → α) :
    (xs ++ x :: ys).modify xs.length f = xs ++ f x :: ys := by
  induction xs with
  | nil => rfl
  | cons y xs ih => simp [ih]

/-- What belongs to the items of a list is a function of their keys, where these differ. -/
lemma forall₂_exists_assignment {κ : Type} [Nonempty β] {key : α → κ} (h : List.Forall₂ R xs ys)
    (hkey : (xs.map key).Nodup) :
    ∃ f : κ → β, ys = xs.map (fun x => f (key x)) ∧ ∀ x ∈ xs, R x (f (key x)) := by
  classical
  induction h with
  | nil => exact ⟨fun _ => Classical.arbitrary β, rfl, by simp⟩
  | @cons x y xs ys hr _ ih =>
    rw [List.map_cons, List.nodup_cons] at hkey
    obtain ⟨f, rfl, hf⟩ := ih hkey.2
    have hother : ∀ x' ∈ xs, Function.update f (key x) y (key x') = f (key x') := by
      intro x' hx'
      refine Function.update_of_ne ?_ y f
      intro heq
      exact hkey.1 (heq ▸ List.mem_map_of_mem hx')
    refine ⟨Function.update f (key x) y, ?_, ?_⟩
    · rw [List.map_cons, Function.update_self]
      exact congrArg (y :: ·) (List.map_congr_left fun x' hx' => (hother x' hx').symm)
    · intro x' hx'
      rcases List.mem_cons.mp hx' with rfl | hx'
      · rwa [Function.update_self]
      · rw [hother x' hx']
        exact hf x' hx'

/-- An assignment whose values differ is a bijection between the keys and the values. -/
lemma bijOn_of_eq_map {κ : Type} {key : α → κ} {f : κ → β} {s : Set κ}
    (hs : ∀ k, k ∈ s ↔ ∃ x ∈ xs, key x = k) (hys : ys = xs.map fun x => f (key x))
    (hnodup : ys.Nodup) : Set.BijOn f s {y | y ∈ ys} := by
  subst hys
  refine ⟨?_, ?_, ?_⟩
  · intro k hk
    obtain ⟨x, hx, rfl⟩ := (hs k).mp hk
    exact List.mem_map_of_mem (f := fun x => f (key x)) hx
  · intro k hk k' hk' heq
    obtain ⟨x, hx, rfl⟩ := (hs k).mp hk
    obtain ⟨x', hx', rfl⟩ := (hs k').mp hk'
    rw [List.inj_on_of_nodup_map hnodup hx hx' heq]
  · intro y hy
    obtain ⟨x, hx, rfl⟩ := List.mem_map.mp hy
    exact ⟨key x, (hs _).mpr ⟨x, hx, rfl⟩, rfl⟩

end Patchbay
