import Callflow.IdTable
import Mathlib.Data.List.Nodup

/-!
Tables of identifiers. What a table gives out is clean and was never given out before, so a table
stays sound: its entries have different keys and different identifiers, all of them taken.
-/

namespace Callflow

/-- A text that can stand as an identifier: not empty, of ASCII letters, digits and underscores. -/
def Identifier.Proper (s : String) : Prop := s ≠ "" ∧ isClean s = true

namespace Identifier

theorem clean_ne_empty {s : String} (h : s ≠ "") : clean s ≠ "" := by
  intro he
  have hl : (clean s).toList = [] := by rw [he]; rfl
  have hs : s.toList = [] := by simpa [clean] using hl
  exact h (String.toList_inj.mp hs)

theorem proper_clean {s : String} (h : s ≠ "") : Proper (clean s) :=
  ⟨clean_ne_empty h, isClean_clean s⟩

theorem isClean_append {s t : String} (hs : isClean s = true) (ht : isClean t = true) :
    isClean (s ++ t) = true := by
  simp only [isClean, String.toList_append, List.all_append, Bool.and_eq_true] at *
  exact ⟨hs, ht⟩

theorem isClean_toString (n : Nat) : isClean (toString n) = true := by
  rw [isClean, Nat.toString_eq_ofList_toDigits, String.toList_ofList, List.all_eq_true]
  intro c hc
  have hd : c.isDigit = true := Nat.isDigit_of_mem_toDigits (by decide) (by decide) hc
  simp [isIdChar, Char.isAlphanum, hd]

end Identifier

namespace IdTable

open Identifier

theorem toString_inj {m n : Nat} (h : toString m = toString n) : m = n := by
  rw [Nat.toString_eq_ofList_toDigits, Nat.toString_eq_ofList_toDigits] at h
  have hd : Nat.toDigits 10 m = Nat.toDigits 10 n := by
    simpa using congrArg String.toList h
  rw [← @Nat.ofDigitChars_ten_toDigits m, hd, Nat.ofDigitChars_ten_toDigits]

theorem joined_ne_empty (s t : String) : s ++ "_" ++ t ≠ "" := by
  intro he
  have hlen := congrArg String.length he
  simp only [String.length_append] at hlen
  have h1 : "_".length = 1 := rfl
  have h0 : "".length = 0 := rfl
  omega

theorem candidate_of_two_le {base : String} {k : Nat} (h : 2 ≤ k) :
    candidate base k = base ++ "_" ++ toString k := by
  have hk : ¬ k < 2 := by omega
  simp [candidate, hk]

theorem candidate_ne_base {base : String} {k : Nat} (h : 2 ≤ k) : candidate base k ≠ base := by
  intro he
  have hl := congrArg String.length he
  rw [candidate_of_two_le h] at hl
  simp only [String.length_append] at hl
  have h1 : "_".length = 1 := rfl
  omega

theorem candidate_inj {base : String} {j k : Nat} (hj : 1 ≤ j) (hk : 1 ≤ k)
    (h : candidate base j = candidate base k) : j = k := by
  by_cases hj2 : 2 ≤ j
  · by_cases hk2 : 2 ≤ k
    · rw [candidate_of_two_le hj2, candidate_of_two_le hk2, String.append_right_inj] at h
      exact toString_inj h
    · obtain rfl : k = 1 := by omega
      exact absurd h (candidate_ne_base hj2)
  · obtain rfl : j = 1 := by omega
    by_cases hk2 : 2 ≤ k
    · exact absurd h.symm (candidate_ne_base hk2)
    · omega

theorem isClean_candidate {base : String} (h : isClean base = true) (k : Nat) :
    isClean (candidate base k) = true := by
  unfold candidate
  split
  · exact h
  · exact isClean_append (isClean_append h (by decide)) (isClean_toString k)

theorem candidate_ne_empty {base : String} (h : base ≠ "") (k : Nat) : candidate base k ≠ "" := by
  unfold candidate
  split
  · exact h
  · exact joined_ne_empty _ _

/-- Before the candidate that the search ends with stand only taken ones; it is taken itself only
if the probes ran out. -/
theorem firstFree_spec (taken : List String) (base : String) (probes k : Nat) :
    ∃ j, k ≤ j ∧ j ≤ k + probes ∧ firstFree taken base probes k = candidate base j ∧
      (∀ i, k ≤ i → i < j → candidate base i ∈ taken) ∧
      (candidate base j ∈ taken → j = k + probes) := by
  induction probes generalizing k with
  | zero => exact ⟨k, Nat.le_refl k, by omega, rfl, by omega, fun _ => rfl⟩
  | succ probes ih =>
    by_cases hk : candidate base k ∈ taken
    · obtain ⟨j, hkj, hj, he, hbelow, hlast⟩ := ih (k + 1)
      refine ⟨j, by omega, by omega, by simp [firstFree, hk, he], ?_, ?_⟩
      · intro i hi hij
        rcases Nat.eq_or_lt_of_le hi with rfl | hlt
        · exact hk
        · exact hbelow i hlt hij
      · intro hmem
        have := hlast hmem
        omega
    · exact ⟨k, Nat.le_refl k, by omega, by simp [firstFree, hk], by omega, fun h => absurd h hk⟩

theorem exists_free_candidate (taken : List String) (base : String) :
    ∃ k, 1 ≤ k ∧ k ≤ taken.length + 1 ∧ candidate base k ∉ taken := by
  by_contra hnone
  push Not at hnone
  -- If all were taken, they would be one more than there are taken identifiers.
  let tried := (List.range (taken.length + 1)).map fun i => candidate base (i + 1)
  have hnodup : tried.Nodup := by
    refine List.Nodup.map_on ?_ List.nodup_range
    intro i _ j _ h
    have := candidate_inj (by omega) (by omega) h
    omega
  have hsub : tried ⊆ taken := by
    intro s hs
    obtain ⟨i, hi, rfl⟩ := List.mem_map.mp hs
    exact hnone (i + 1) (by omega) (by have := List.mem_range.mp hi; omega)
  have hlen := hnodup.length_le_of_subset hsub
  simp only [tried, List.length_map, List.length_range] at hlen
  omega

theorem firstFree_not_mem (taken : List String) (base : String) :
    firstFree taken base taken.length 1 ∉ taken := by
  obtain ⟨j, _, _, he, hbelow, hlast⟩ := firstFree_spec taken base taken.length 1
  obtain ⟨k, hk, hkl, hfree⟩ := exists_free_candidate taken base
  rw [he]
  intro hmem
  have hj := hlast hmem
  rcases Nat.lt_or_ge k j with hlt | hge
  · exact hfree (hbelow k hk hlt)
  · obtain rfl : k = j := by omega
    exact hfree hmem

variable {t : IdTable} {key other text id : String}

@[simp] theorem reserve_taken (t : IdTable) (text : String) :
    (t.reserve text).2.taken = (t.reserve text).1 :: t.taken := rfl

@[simp] theorem reserve_entries (t : IdTable) (text : String) :
    (t.reserve text).2.entries = t.entries := rfl

theorem reserve_not_mem_taken (t : IdTable) (text : String) : (t.reserve text).1 ∉ t.taken :=
  firstFree_not_mem t.taken (clean text)

theorem reserve_eq_candidate (t : IdTable) (text : String) :
    ∃ k, (t.reserve text).1 = candidate (clean text) k := by
  obtain ⟨k, _, _, he, _⟩ := firstFree_spec t.taken (clean text) t.taken.length 1
  exact ⟨k, he⟩

theorem isClean_reserve (t : IdTable) (text : String) : isClean (t.reserve text).1 = true := by
  obtain ⟨k, hk⟩ := reserve_eq_candidate t text
  rw [hk]
  exact isClean_candidate (isClean_clean text) k

theorem proper_reserve (t : IdTable) (h : text ≠ "") : Proper (t.reserve text).1 := by
  refine ⟨?_, isClean_reserve t text⟩
  obtain ⟨k, hk⟩ := reserve_eq_candidate t text
  rw [hk]
  exact candidate_ne_empty (clean_ne_empty h) k

theorem insert_of_some (h : t.get? key = some id) : t.insert key = (id, t) := by
  simp [insert, h]

theorem insert_of_none (h : t.get? key = none) : t.insert key =
    ((t.reserve key).1,
      { entries := (key, (t.reserve key).1) :: t.entries
        taken := (t.reserve key).1 :: t.taken }) := by
  simp [insert, h]

theorem get?_insert_self (t : IdTable) (key : String) :
    (t.insert key).2.get? key = some (t.insert key).1 := by
  cases h : t.get? key with
  | some id => rw [insert_of_some h, h]
  | none => simp [insert_of_none h, get?]

theorem get?_insert_of_ne (h : other ≠ key) : (t.insert key).2.get? other = t.get? other := by
  cases hk : t.get? key with
  | some id => rw [insert_of_some hk]
  | none =>
    have hne : (other == key) = false := by simpa using h
    simp [insert_of_none hk, get?, List.lookup_cons, hne]

theorem get?_insert_of_some (h : t.get? other = some id) : (t.insert key).2.get? other = some id := by
  by_cases hk : other = key
  · subst hk
    rw [insert_of_some h, h]
  · rw [get?_insert_of_ne hk, h]

theorem mem_entries_of_get? (h : t.get? key = some id) : (key, id) ∈ t.entries := by
  obtain ⟨before, after, he, _⟩ := List.lookup_eq_some_iff.mp h
  rw [he]
  exact List.mem_append_right before List.mem_cons_self

/-- What holds of a table after any calls. -/
structure Sound (t : IdTable) : Prop where
  taken_nodup : t.taken.Nodup
  ids_nodup : (t.entries.map (·.2)).Nodup
  ids_taken : ∀ e ∈ t.entries, e.2 ∈ t.taken
  taken_clean : ∀ id ∈ t.taken, isClean id = true

theorem sound_empty : Sound {} := by
  constructor <;> simp

theorem Sound.reserve (h : t.Sound) (text : String) : (t.reserve text).2.Sound where
  taken_nodup := List.nodup_cons.mpr ⟨reserve_not_mem_taken t text, h.taken_nodup⟩
  ids_nodup := h.ids_nodup
  ids_taken e he := List.mem_cons_of_mem _ (h.ids_taken e he)
  taken_clean id hid := by
    rcases List.mem_cons.mp hid with rfl | hid
    · exact isClean_reserve t text
    · exact h.taken_clean id hid

theorem Sound.insert (h : t.Sound) (key : String) : (t.insert key).2.Sound := by
  cases hk : t.get? key with
  | some id => rwa [insert_of_some hk]
  | none =>
    rw [insert_of_none hk]
    have hr := h.reserve key
    refine ⟨hr.taken_nodup, ?_, ?_, hr.taken_clean⟩
    · rw [List.map_cons, List.nodup_cons]
      refine ⟨?_, h.ids_nodup⟩
      intro hmem
      obtain ⟨e, he, hid⟩ := List.mem_map.mp hmem
      have htaken : e.2 ∈ t.taken := h.ids_taken e he
      rw [hid] at htaken
      exact reserve_not_mem_taken t key htaken
    · intro e he
      rcases List.mem_cons.mp he with rfl | he
      · exact List.mem_cons_self
      · exact List.mem_cons_of_mem _ (h.ids_taken e he)

theorem Sound.get?_mem_taken (h : t.Sound) (hk : t.get? key = some id) : id ∈ t.taken :=
  h.ids_taken _ (mem_entries_of_get? hk)

theorem Sound.get?_inj (h : t.Sound) (hk : t.get? key = some id) (ho : t.get? other = some id) :
    key = other := by
  have hinj := List.inj_on_of_nodup_map h.ids_nodup (mem_entries_of_get? hk)
    (mem_entries_of_get? ho) rfl
  exact congrArg Prod.fst hinj

end IdTable

end Callflow
