import Patchbay.Address
import Patchbay.Proofs.Lists

/-!
# Addresses can be told apart

The ids in an address hold no separator, so its text says where each of them ends, and addresses
with the same text are the same.
-/

namespace Patchbay

/-- An id is opaque if it holds none of the characters between the parts of an address. -/
lemma isOpaque_iff {id : String} :
    isOpaque id = true ↔ ∀ c ∈ id.toList, ¬ c ∈ addressSeparators := by
  simp [isOpaque, List.all_eq_true]

namespace PortAddress

/-- The ids that an address is put together from. -/
def parts : PortAddress → List String
  | main p => [p]
  | bus b p => [b, p]
  | moduleInput b m p => [b, m, p]
  | moduleOutput b m p => [b, m, p]

def Separable (a : PortAddress) : Prop := ∀ id ∈ a.parts, isOpaque id = true

def port : PortAddress → String
  | main p => p
  | bus _ p => p
  | moduleInput _ _ p => p
  | moduleOutput _ _ p => p

/-- An address that is put together from several ids: that of a port of a bus or module. -/
def Composed : PortAddress → Prop
  | main _ => False
  | _ => True

section Forms

variable {b m p : String}

lemma separable_main_iff : (main p).Separable ↔ isOpaque p = true :=
  List.forall_mem_singleton

lemma separable_bus_iff : (bus b p).Separable ↔ isOpaque b = true ∧ isOpaque p = true :=
  List.forall_mem_cons.trans (and_congr_right' List.forall_mem_singleton)

lemma separable_moduleInput_iff :
    (moduleInput b m p).Separable ↔ isOpaque b = true ∧ isOpaque m = true ∧ isOpaque p = true :=
  List.forall_mem_cons.trans (and_congr_right' separable_bus_iff)

lemma separable_moduleOutput_iff :
    (moduleOutput b m p).Separable ↔ isOpaque b = true ∧ isOpaque m = true ∧ isOpaque p = true :=
  List.forall_mem_cons.trans (and_congr_right' separable_bus_iff)

lemma text_bus : (bus b p).text = "/" ++ b ++ ":" ++ p := rfl

lemma text_moduleInput : (moduleInput b m p).text = "/" ++ b ++ "?" ++ m ++ "<" ++ p := rfl

lemma text_moduleOutput : (moduleOutput b m p).text = "/" ++ b ++ "?" ++ m ++ ">" ++ p := rfl

end Forms

/-! ### Texts as characters -/

lemma toList_text_bus (b p : String) :
    (bus b p).text.toList = ('/' :: b.toList) ++ ':' :: p.toList := by
  simp [text_bus]

lemma toList_text_moduleInput (b m p : String) :
    (moduleInput b m p).text.toList
      = ('/' :: b.toList) ++ '?' :: (m.toList ++ '<' :: p.toList) := by
  simp [text_moduleInput]

lemma toList_text_moduleOutput (b m p : String) :
    (moduleOutput b m p).text.toList =
      ('/' :: b.toList) ++ '?' :: (m.toList ++ '>' :: p.toList) := by
  simp [text_moduleOutput]

/-- Two texts are cut in the same way at the first separator. -/
lemma cut_unique {id id' : List Char} {rest rest' : List Char} {c c' : Char}
    (hid : ∀ x ∈ id, ¬ x ∈ addressSeparators) (hid' : ∀ x ∈ id', ¬ x ∈ addressSeparators)
    (hc : c ∈ addressSeparators) (hc' : c' ∈ addressSeparators)
    (h : id ++ c :: rest = id' ++ c' :: rest') : id = id' ∧ c = c' ∧ rest = rest' := by
  obtain ⟨rfl, rfl⟩ := split_first_unique h hid hc hid' hc'
  exact ⟨rfl, rfl, (List.cons.inj (List.append_cancel_left h)).2⟩

lemma forall_slash {id : String} (h : isOpaque id = true) :
    ∀ c ∈ '/' :: id.toList, ¬ c ∈ addressSeparators :=
  List.forall_mem_cons.mpr ⟨by decide, isOpaque_iff.mp h⟩

/-- The text of a separable address is cut after the bus, unless it is the id of a physical port. -/
lemma text_cut {a : PortAddress} (ha : a.Separable) :
    (∃ p, a = main p ∧ isOpaque a.text = true) ∨
      ∃ b c rest, isOpaque b = true ∧ c ∈ addressSeparators ∧
        a.text.toList = ('/' :: b.toList) ++ c :: rest ∧
        ((∃ p, a = bus b p ∧ c = ':' ∧ rest = p.toList) ∨
          ∃ m c' p, isOpaque m = true ∧ c = '?' ∧ rest = m.toList ++ c' :: p.toList ∧
            (a = moduleInput b m p ∧ c' = '<' ∨ a = moduleOutput b m p ∧ c' = '>')) := by
  cases a with
  | main p => exact .inl ⟨p, rfl, separable_main_iff.mp ha⟩
  | bus b p =>
    obtain ⟨hb, -⟩ := separable_bus_iff.mp ha
    exact .inr ⟨b, ':', _, hb, by decide, toList_text_bus b p, .inl ⟨p, rfl, rfl, rfl⟩⟩
  | moduleInput b m p =>
    obtain ⟨hb, hm, -⟩ := separable_moduleInput_iff.mp ha
    exact .inr ⟨b, '?', _, hb, by decide, toList_text_moduleInput b m p,
      .inr ⟨m, '<', p, hm, rfl, rfl, .inl ⟨rfl, rfl⟩⟩⟩
  | moduleOutput b m p =>
    obtain ⟨hb, hm, -⟩ := separable_moduleOutput_iff.mp ha
    exact .inr ⟨b, '?', _, hb, by decide, toList_text_moduleOutput b m p,
      .inr ⟨m, '>', p, hm, rfl, rfl, .inr ⟨rfl, rfl⟩⟩⟩

/-- Separable addresses with the same text are the same. -/
theorem text_injective {a a' : PortAddress} (ha : a.Separable) (ha' : a'.Separable)
    (h : a.text = a'.text) : a = a' := by
  have hcut {text : String} {b : String} {c : Char} {rest : List Char} (hc : c ∈ addressSeparators)
      (htext : text.toList = ('/' :: b.toList) ++ c :: rest) : ¬ isOpaque text = true := by
    intro hopaque
    exact isOpaque_iff.mp hopaque c (by rw [htext]; simp) hc
  -- a text without separators is that of a physical port; the others have a first separator, and
  -- before it stands the bus
  obtain ⟨p, rfl, hp⟩ | ⟨b, c, rest, hb, hc, htext, hshape⟩ := text_cut ha <;>
    obtain ⟨p', rfl, hp'⟩ | ⟨b', c', rest', hb', hc', htext', hshape'⟩ := text_cut ha'
  · exact congrArg main h
  · exact (hcut hc' htext' (h ▸ hp)).elim
  · exact (hcut hc htext (h ▸ hp')).elim
  · obtain ⟨hbus, rfl, rfl⟩ := cut_unique (forall_slash hb) (forall_slash hb') hc hc'
      (htext.symm.trans (h ▸ htext'))
    obtain rfl : b = b' := String.toList_injective (List.cons.inj hbus).2
    obtain ⟨p, rfl, rfl, rfl⟩ | ⟨m, d, p, hm, rfl, rfl, hshape⟩ := hshape <;>
      obtain ⟨p', rfl, hc', hrest⟩ | ⟨m', d', p', hm', hc', hrest, hshape'⟩ := hshape'
    · rw [String.toList_injective hrest]
    · cases hc'
    · cases hc'
    · have hd : d ∈ addressSeparators ∧ d' ∈ addressSeparators := by
        obtain ⟨-, rfl⟩ | ⟨-, rfl⟩ := hshape <;> obtain ⟨-, rfl⟩ | ⟨-, rfl⟩ := hshape' <;>
          exact ⟨by decide, by decide⟩
      obtain ⟨hmodule, rfl, hport⟩ :=
        cut_unique (isOpaque_iff.mp hm) (isOpaque_iff.mp hm') hd.1 hd.2 hrest
      obtain rfl := String.toList_injective hmodule
      obtain rfl := String.toList_injective hport
      obtain ⟨rfl, rfl⟩ | ⟨rfl, rfl⟩ := hshape <;> obtain ⟨rfl, hd'⟩ | ⟨rfl, hd'⟩ := hshape'
      · rfl
      · cases hd'
      · cases hd'
      · rfl

/-- The text of a port of a bus or module is recognized by its slash and a separator. -/
lemma Composed.exists_text {a : PortAddress} (ha : a.Composed) :
    (∃ rest, a.text = "/" ++ rest) ∧ ∃ c ∈ a.text.toList, c ∈ addressSeparators := by
  cases a with
  | main p => exact ha.elim
  | bus b p =>
    refine ⟨⟨b ++ ":" ++ p, by simp [text_bus, String.append_assoc]⟩, ':', ?_, by decide⟩
    rw [toList_text_bus]
    simp
  | moduleInput b m p =>
    refine ⟨⟨b ++ "?" ++ m ++ "<" ++ p, ?_⟩, '?', ?_, by decide⟩
    · simp [text_moduleInput, String.append_assoc]
    · rw [toList_text_moduleInput]
      simp
  | moduleOutput b m p =>
    refine ⟨⟨b ++ "?" ++ m ++ ">" ++ p, ?_⟩, '?', ?_, by decide⟩
    · simp [text_moduleOutput, String.append_assoc]
    · rw [toList_text_moduleOutput]
      simp

/-- A composed address is known by its text: no other one has it, and no physical port whose id does
not look like such a text. -/
structure ToldApart (a : PortAddress) : Prop where
  eq_of_text_eq : ∀ a', a'.Composed → a'.Separable → a'.text = a.text → a' = a
  main_text_eq : ∀ id, (main id).text = a.text →
    (∃ rest, id = "/" ++ rest) ∧ ∃ c ∈ id.toList, c ∈ addressSeparators

/-- An address that is composed of ids is no physical port, and is told from all others by its text.
-/
lemma Composed.toldApart {a : PortAddress} (ha : a.Composed) (hids : a.Separable) :
    a.ToldApart where
  eq_of_text_eq _ _ hids' htext := text_injective hids' hids htext
  main_text_eq id htext := by
    obtain rfl : id = a.text := htext
    exact ha.exists_text

example : (main "/b:p").text = (bus "b" "p").text := rfl

end PortAddress

end Patchbay
