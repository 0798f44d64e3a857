import Mathlib.Data.List.Induction
import Mathlib.Data.List.Nodup
import Mathlib.Tactic.Common
import Patchbay.Text.Keyed

/-!
# Values put under keys

A value that is put under a key is found there and nowhere else, takes the place of one that was put
there before, and may be put before or after a value of another key. No order of the keys is needed
for this. Keys that ascend do so still when a value is put under one, and pairs whose keys ascend
already are the list that they make.
-/

namespace Patchbay.Keyed

variable {α : Type} (key : String) (value : α) (m : List (String × α))

section Equations

variable (k : String) (v : α)

lemma get?_nil : get? key ([] : List (String × α)) = none := rfl

lemma get?_cons : get? key ((k, v) :: m) = if k = key then some v else get? key m := rfl

lemma insert_nil : insert key value [] = [(key, value)] := rfl

lemma insert_cons : insert key value ((k, v) :: m) =
    if key = k then (key, value) :: m
    else if key < k then (key, value) :: (k, v) :: m
    else (k, v) :: insert key value m := rfl

lemma put_nil : put key value [] = [(key, value)] := rfl

lemma put_cons : put key value ((k, v) :: m) =
    if k = key then (key, value) :: m else (k, v) :: put key value m := rfl

lemma erase_nil : erase key ([] : List (String × α)) = [] := rfl

end Equations

/-- What was put under a key is found there. -/
lemma get?_insert_self : get? key (insert key value m) = some value := by
  induction m with
  | nil => simp [insert_nil, get?_cons]
  | cons p m ih =>
    obtain ⟨k, v⟩ := p
    rw [insert_cons]
    split_ifs with h h'
    · simp [get?_cons]
    · simp [get?_cons]
    · rw [get?_cons, if_neg (Ne.symm h), ih]

/-- What is under another key stays. -/
lemma get?_insert_of_ne {key' : String} (h : key' ≠ key) :
    get? key' (insert key value m) = get? key' m := by
  induction m with
  | nil => simp [insert_nil, get?_cons, Ne.symm h]
  | cons p m ih =>
    obtain ⟨k, v⟩ := p
    rw [insert_cons]
    split_ifs with hk hlt
    · subst hk
      simp [get?_cons, Ne.symm h]
    · simp [get?_cons, Ne.symm h]
    · simp [get?_cons, ih]

/-- A value takes the place of the one that was put under its key before. -/
lemma insert_insert (value' : α) :
    insert key value (insert key value' m) = insert key value m := by
  induction m with
  | nil => simp [insert_nil, insert_cons]
  | cons p m ih =>
    obtain ⟨k, v⟩ := p
    rw [insert_cons]
    split_ifs with hk hlt
    · simp [insert_cons, hk]
    · simp [insert_cons, hk, hlt]
    · simp [insert_cons, hk, hlt, ih]

private lemma insert_comm_of_lt {key' : String} (h : key < key') (value' : α) :
    insert key value (insert key' value' m) = insert key' value' (insert key value m) := by
  have hne : key ≠ key' := String.ne_of_lt h
  have hle : ¬ key' < key := String.lt_asymm h
  induction m with
  | nil => simp [insert_nil, insert_cons, h, hne, hne.symm, hle]
  | cons p m ih =>
    obtain ⟨k, v⟩ := p
    by_cases hk : key = k
    · subst hk
      simp [insert_cons, hne.symm, hle]
    by_cases hlt : key < k
    · by_cases hk' : key' = k
      · subst hk'
        simp [insert_cons, h, hne, hne.symm, hle]
      · by_cases hlt' : key' < k <;> simp [insert_cons, h, hne, hne.symm, hle, hk, hlt, hk', hlt']
    · have hk' : key' ≠ k := by
        rintro rfl
        exact hlt h
      have hlt' : ¬ key' < k := fun hlt' => hlt (String.lt_trans h hlt')
      simp [insert_cons, hk, hlt, hk', hlt', ih]

/-- Values of different keys may be put in any order. -/
lemma insert_comm {key' : String} (h : key ≠ key') (value' : α) :
    insert key value (insert key' value' m) = insert key' value' (insert key value m) := by
  by_cases hlt : key < key'
  · exact insert_comm_of_lt key value m hlt value'
  · refine (insert_comm_of_lt key' value' m ?_ value).symm
    by_contra hlt'
    exact h (String.le_antisymm (String.not_lt.mp hlt') (String.not_lt.mp hlt))

lemma mem_of_get? (h : get? key m = some value) : (key, value) ∈ m := by
  induction m with
  | nil => cases h
  | cons p m ih =>
    obtain ⟨k, v⟩ := p
    rw [get?_cons] at h
    split_ifs at h with hk
    · cases h
      exact hk ▸ List.mem_cons_self
    · exact List.mem_cons_of_mem _ (ih h)

/-- Only what was under the erased key is gone. -/
lemma get?_erase (key' : String) :
    get? key' (erase key m) = if key' = key then none else get? key' m := by
  induction m with
  | nil => simp [erase_nil, get?_nil]
  | cons p m ih =>
    obtain ⟨k, v⟩ := p
    rw [erase] at ih ⊢
    by_cases hk : k = key
    · subst hk
      by_cases hk' : k = key'
      · simp_all
      · simpa [get?_cons, hk', Ne.symm hk'] using ih
    · by_cases hk' : k = key'
      · subst hk'
        simp [get?_cons, hk]
      · simpa [get?_cons, hk, hk'] using ih

/-! ### Ascending keys -/

/-- The keys ascend, so there is one value under each. -/
def Ascending (m : List (String × α)) : Prop := m.Pairwise fun p q => p.1 < q.1

variable {key value m}

lemma mem_insert {p : String × α} (h : p ∈ insert key value m) : p = (key, value) ∨ p ∈ m := by
  induction m with
  | nil => exact .inl (List.mem_singleton.mp h)
  | cons q m ih =>
    obtain ⟨k, v⟩ := q
    rw [insert_cons] at h
    split_ifs at h
    · exact (List.mem_cons.mp h).imp_right (List.mem_cons_of_mem _)
    · exact List.mem_cons.mp h
    · rcases List.mem_cons.mp h with rfl | h
      · exact .inr List.mem_cons_self
      · exact (ih h).imp_right (List.mem_cons_of_mem _)

/-- The keys still ascend when a value is put under one. -/
lemma Ascending.insert (h : Ascending m) : Ascending (insert key value m) := by
  induction m with
  | nil => exact List.pairwise_singleton _ _
  | cons q m ih =>
    obtain ⟨k, v⟩ := q
    obtain ⟨hk, hm⟩ := List.pairwise_cons.mp h
    rw [insert_cons]
    split_ifs with heq hlt
    · exact List.pairwise_cons.mpr ⟨heq ▸ hk, hm⟩
    · refine List.pairwise_cons.mpr ⟨fun p hp => ?_, h⟩
      rcases List.mem_cons.mp hp with rfl | hp
      · exact hlt
      · exact String.lt_trans hlt (hk p hp)
    · refine List.pairwise_cons.mpr ⟨fun p hp => ?_, ih hm⟩
      rcases mem_insert hp with rfl | hp
      · -- the new key is neither this one nor before it, so it is behind it
        by_contra hle
        exact heq (String.le_antisymm (String.not_lt.mp hle) (String.not_lt.mp hlt))
      · exact hk p hp

/-- A key after all others is put at the end. -/
lemma insert_eq_concat (h : ∀ p ∈ m, p.1 < key) : insert key value m = m ++ [(key, value)] := by
  induction m with
  | nil => rfl
  | cons q m ih =>
    obtain ⟨k, v⟩ := q
    have hk : k < key := h (k, v) List.mem_cons_self
    have hm : ∀ p ∈ m, p.1 < key := fun p hp => h p (List.mem_cons_of_mem _ hp)
    rw [insert_cons, if_neg (String.ne_of_lt hk).symm, if_neg (String.lt_asymm hk), ih hm,
      List.cons_append]

/-- A list made of pairs by one after the other, from its end. -/
lemma ofList_concat (pairs : List (String × α)) (p : String × α) :
    ofList (pairs ++ [p]) = insert p.1 p.2 (ofList pairs) := by
  rw [ofList, List.foldl_append]
  rfl

lemma ascending_ofList (pairs : List (String × α)) : Ascending (ofList pairs) := by
  induction pairs using List.reverseRec with
  | nil => exact .nil
  | append_singleton pairs p ih =>
    rw [ofList_concat]
    exact ih.insert

lemma mem_of_mem_ofList {pairs : List (String × α)} {p : String × α} (h : p ∈ ofList pairs) :
    p ∈ pairs := by
  induction pairs using List.reverseRec with
  | nil => exact h
  | append_singleton pairs q ih =>
    rw [ofList_concat] at h
    rcases mem_insert h with rfl | h
    · exact List.mem_append_right _ (List.mem_singleton_self _)
    · exact List.mem_append_left _ (ih h)

/-- Pairs whose keys ascend are the list that they make. -/
lemma Ascending.ofList_eq (h : Ascending m) : ofList m = m := by
  induction m using List.reverseRec with
  | nil => rfl
  | append_singleton m p ih =>
    obtain ⟨hm, -, hlt⟩ := List.pairwise_append.mp h
    rw [ofList_concat, ih hm,
      insert_eq_concat fun q hq => hlt q hq p (List.mem_singleton_self p)]

lemma Ascending.erase (h : Ascending m) (key : String) : Ascending (erase key m) := h.filter _

lemma erase_of_forall_ne (h : ∀ p ∈ m, p.1 ≠ key) : erase key m = m :=
  List.filter_eq_self.mpr fun p hp => by simpa using h p hp

/-- A key before all others is put at the front. -/
lemma insert_eq_cons (h : ∀ p ∈ m, key < p.1) : insert key value m = (key, value) :: m := by
  cases m with
  | nil => rfl
  | cons q m =>
    have hk : key < q.1 := h q List.mem_cons_self
    rw [insert_cons, if_neg (String.ne_of_lt hk), if_pos hk]

/-- It does not matter whether a value is taken away before another one takes its place. -/
lemma Ascending.insert_erase (h : Ascending m) :
    Keyed.insert key value (Keyed.erase key m) = Keyed.insert key value m := by
  induction m with
  | nil => rfl
  | cons q m ih =>
    obtain ⟨k, v⟩ := q
    obtain ⟨hk, hm⟩ := List.pairwise_cons.mp h
    by_cases heq : key = k
    · subst heq
      have herase : Keyed.erase key ((key, v) :: m) = m := by
        rw [Keyed.erase, List.filter_cons_of_neg (by simp)]
        exact erase_of_forall_ne fun p hp => (String.ne_of_lt (hk p hp)).symm
      rw [herase, insert_eq_cons hk, insert_cons, if_pos rfl]
    · have herase : Keyed.erase key ((k, v) :: m) = (k, v) :: Keyed.erase key m :=
        List.filter_cons_of_pos (by simpa using Ne.symm heq)
      rw [herase, insert_cons, insert_cons, if_neg heq, if_neg heq, ih hm]
      split_ifs with hlt
      · rw [erase_of_forall_ne fun p hp => (String.ne_of_lt (String.lt_trans hlt (hk p hp))).symm]
      · rfl

/-! ### Keys that differ -/

/-- Where all keys differ it does not matter in which order the pairs are put. -/
lemma ofList_eq_of_perm {m m' : List (String × α)} (h : m.Perm m')
    (hkeys : (m.map Prod.fst).Nodup) : ofList m = ofList m' := by
  refine h.foldl_eq' (fun p hp q hq z => ?_) []
  by_cases hpq : p = q
  · rw [hpq]
  · have hne : q.1 ≠ p.1 := fun hkey => hpq (List.inj_on_of_nodup_map hkeys hp hq hkey.symm)
    exact insert_comm q.1 q.2 z hne p.2

lemma insert_ofList {pairs : List (String × α)} (h : key ∉ pairs.map Prod.fst)
    (hkeys : (pairs.map Prod.fst).Nodup) :
    insert key value (ofList pairs) = ofList ((key, value) :: pairs) := by
  rw [← ofList_concat pairs (key, value)]
  refine (ofList_eq_of_perm (List.perm_append_singleton _ _).symm ?_).symm
  rw [List.map_cons]
  exact List.nodup_cons.mpr ⟨h, hkeys⟩

/-- A new key adds one pair, wherever it goes. -/
lemma insert_perm (h : key ∉ m.map Prod.fst) : (insert key value m).Perm (m ++ [(key, value)]) := by
  induction m with
  | nil => exact .refl _
  | cons q m ih =>
    obtain ⟨k, v⟩ := q
    rw [List.map_cons, List.mem_cons, not_or] at h
    rw [insert_cons, if_neg h.1]
    split_ifs
    · exact (List.perm_append_singleton _ _).symm
    · exact (ih h.2).cons _

/-- Pairs whose keys differ are all kept. -/
lemma ofList_perm {m : List (String × α)} (hkeys : (m.map Prod.fst).Nodup) :
    (ofList m).Perm m := by
  induction m using List.reverseRec with
  | nil => exact .refl _
  | append_singleton m p ih =>
    rw [List.map_append, List.nodup_append] at hkeys
    have hm := ih hkeys.1
    have hkey : p.1 ∉ (ofList m).map Prod.fst := fun hmem =>
      hkeys.2.2 _ ((hm.map _).subset hmem) p.1 (by simp) rfl
    rw [ofList_concat]
    exact (insert_perm hkey).trans (hm.append_right _)

/-- Values are changed before or after the pairs are put. -/
lemma map_insert {β : Type} (f : α → β) (key : String) (value : α) (m : List (String × α)) :
    (insert key value m).map (Prod.map id f) = insert key (f value) (m.map (Prod.map id f)) := by
  induction m with
  | nil => rfl
  | cons q m ih =>
    obtain ⟨k, v⟩ := q
    rw [List.map_cons, insert_cons, Prod.map_apply, id_eq, insert_cons]
    split_ifs
    · rfl
    · rfl
    · rw [List.map_cons, ih, Prod.map_apply, id_eq]

lemma map_ofList {β : Type} (f : α → β) (m : List (String × α)) :
    (ofList m).map (Prod.map id f) = ofList (m.map (Prod.map id f)) := by
  induction m using List.reverseRec with
  | nil => rfl
  | append_singleton m p ih =>
    rw [ofList_concat, map_insert, ih, List.map_append, List.map_singleton, ofList_concat]
    rfl

/-! ### Keys in the order of their coming -/

lemma get?_append_of_ne (h : ∀ p ∈ m, p.1 ≠ key) (m' : List (String × α)) :
    get? key (m ++ m') = get? key m' := by
  induction m with
  | nil => rfl
  | cons q m ih =>
    obtain ⟨hq, hm⟩ := List.forall_mem_cons.mp h
    rw [List.cons_append, get?_cons, if_neg hq, ih hm]

lemma put_append_of_ne (value : α) (h : ∀ p ∈ m, p.1 ≠ key) (m' : List (String × α)) :
    put key value (m ++ m') = m ++ put key value m' := by
  induction m with
  | nil => rfl
  | cons q m ih =>
    obtain ⟨hq, hm⟩ := List.forall_mem_cons.mp h
    rw [List.cons_append, put_cons, if_neg hq, ih hm, List.cons_append]

lemma get?_eq_none (h : ∀ p ∈ m, p.1 ≠ key) : get? key m = none := by
  simpa [get?_nil] using get?_append_of_ne h []

/-- A new key comes after all others. -/
lemma put_eq_concat (h : ∀ p ∈ m, p.1 ≠ key) : put key value m = m ++ [(key, value)] := by
  simpa [put_nil] using put_append_of_ne value h []

end Patchbay.Keyed
