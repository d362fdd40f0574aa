import Callflow.Json.Ordered
import Mathlib.Data.List.Induction

/-!
The order of fields: putting the fields of an object in order changes no look-up, and what is in
order already stays as it is.
-/

namespace Callflow.Json.Value

variable {fields : List (String × Value)} {key : String} {v : Value}

def KeysAscend (fields : List (String × Value)) : Prop :=
  fields.Pairwise fun f g => f.1 < g.1

theorem KeysAscend.nodup (h : KeysAscend fields) : (fields.map (·.1)).Nodup := by
  refine List.pairwise_map.mpr (h.imp ?_)
  intro f g hlt heq
  rw [heq] at hlt
  exact String.lt_irrefl _ hlt

theorem lt_of_not_lt_of_ne {a b : String} (hlt : ¬ a < b) (hne : a ≠ b) : b < a := by
  rcases Decidable.em (b < a) with h | h
  · exact h
  · exact absurd (String.le_antisymm (String.not_lt.mp h) (String.not_lt.mp hlt)) hne

theorem lookup_cons_ite {α : Type} (k key : String) (a : α) (rest : List (String × α)) :
    ((key, a) :: rest).lookup k = if k = key then some a else rest.lookup k := by
  by_cases h : k = key
  · simp [h]
  · have hbeq : (k == key) = false := by simpa using h
    simp [List.lookup_cons, hbeq, h]

theorem mem_of_lookup {α : Type} {fields : List (String × α)} {a : α}
    (h : fields.lookup key = some a) : (key, a) ∈ fields := by
  obtain ⟨before, after, rfl, _⟩ := List.lookup_eq_some_iff.mp h
  exact List.mem_append_right _ List.mem_cons_self

theorem lookup_of_mem {α : Type} {fields : List (String × α)} {a : α}
    (h : (fields.map (·.1)).Nodup) (hmem : (key, a) ∈ fields) : fields.lookup key = some a := by
  induction fields with
  | nil => exact nomatch hmem
  | cons g rest ih =>
    obtain ⟨hfresh, hrest⟩ := List.nodup_cons.mp h
    rcases List.mem_cons.mp hmem with rfl | hmem
    · simp
    · have hne : key ≠ g.1 := by
        rintro rfl
        exact hfresh (List.mem_map_of_mem (f := (·.1)) hmem)
      rw [lookup_cons_ite, if_neg hne, ih hrest hmem]

theorem map_eq_self_iff {α : Type} {f : α → α} {as : List α} :
    as.map f = as ↔ ∀ a ∈ as, f a = a := by
  simpa using List.map_inj_left (f := f) (g := id) (l := as)

theorem mem_insertField {f : String × Value} (h : f ∈ insertField fields key v) :
    f = (key, v) ∨ f ∈ fields := by
  induction fields with
  | nil => exact .inl (List.mem_singleton.mp h)
  | cons g rest ih =>
    obtain ⟨k, w⟩ := g
    rw [insertField] at h
    split at h
    · exact List.mem_cons.mp h
    · split at h
      · exact (List.mem_cons.mp h).imp_right (List.mem_cons_of_mem _)
      · rcases List.mem_cons.mp h with rfl | h
        · exact .inr List.mem_cons_self
        · exact (ih h).imp_right (List.mem_cons_of_mem _)

theorem keysAscend_insertField (h : KeysAscend fields) : KeysAscend (insertField fields key v) := by
  induction fields with
  | nil => exact List.pairwise_singleton _ _
  | cons g rest ih =>
    obtain ⟨k, w⟩ := g
    obtain ⟨hhead, htail⟩ := List.pairwise_cons.mp h
    rw [insertField]
    split
    · rename_i hlt
      refine List.pairwise_cons.mpr ⟨?_, h⟩
      intro f hf
      rcases List.mem_cons.mp hf with rfl | hf
      · exact hlt
      · exact String.lt_trans hlt (hhead f hf)
    · rename_i hnot
      split
      · rename_i heq
        subst heq
        exact List.pairwise_cons.mpr ⟨hhead, htail⟩
      · rename_i hne
        refine List.pairwise_cons.mpr ⟨?_, ih htail⟩
        intro f hf
        rcases mem_insertField hf with rfl | hf
        · exact lt_of_not_lt_of_ne hnot hne
        · exact hhead f hf

theorem lookup_insertField (k : String) :
    (insertField fields key v).lookup k = if k = key then some v else fields.lookup k := by
  induction fields with
  | nil => exact lookup_cons_ite k key v []
  | cons g rest ih =>
    obtain ⟨l, w⟩ := g
    rw [insertField]
    split
    · exact lookup_cons_ite k key v _
    · split
      · rename_i heq
        subst heq
        by_cases h : k = key <;> simp [lookup_cons_ite, h]
      · rename_i hne
        rw [lookup_cons_ite, lookup_cons_ite, ih]
        by_cases h : k = key
        · subst h
          simp [hne]
        · simp [h]

theorem insertField_of_lt (h : ∀ f ∈ fields, f.1 < key) :
    insertField fields key v = fields ++ [(key, v)] := by
  induction fields with
  | nil => rfl
  | cons g rest ih =>
    obtain ⟨k, w⟩ := g
    have hk : k < key := h (k, w) List.mem_cons_self
    have hnot : ¬ key < k := String.lt_asymm hk
    have hne : key ≠ k := by
      rintro rfl
      exact String.lt_irrefl _ hk
    have hrest := ih fun f hf => h f (List.mem_cons_of_mem _ hf)
    simp [insertField, hnot, hne, hrest]

theorem keysAscend_sortedFields (fields : List (String × Value)) :
    KeysAscend (sortedFields fields) := by
  rw [sortedFields]
  induction fields using List.reverseRecOn with
  | nil => exact List.Pairwise.nil
  | append_singleton fields f ih =>
    rw [List.foldl_append]
    exact keysAscend_insertField ih

theorem mem_of_mem_sortedFields {f : String × Value} (h : f ∈ sortedFields fields) :
    f ∈ fields := by
  rw [sortedFields] at h
  induction fields using List.reverseRecOn with
  | nil => exact h
  | append_singleton fields g ih =>
    rw [List.foldl_append] at h
    rcases mem_insertField h with rfl | h
    · exact List.mem_append_right _ List.mem_cons_self
    · exact List.mem_append_left _ (ih h)

theorem sortedFields_of_keysAscend (h : KeysAscend fields) : sortedFields fields = fields := by
  rw [sortedFields]
  induction fields using List.reverseRecOn with
  | nil => rfl
  | append_singleton fields f ih =>
    obtain ⟨hinit, _, hlast⟩ := List.pairwise_append.mp h
    rw [List.foldl_append, ih hinit]
    exact insertField_of_lt fun g hg => hlast g hg f List.mem_cons_self

/-- With each key once the order of the fields does not matter to a look-up. -/
theorem lookup_sortedFields (h : (fields.map (·.1)).Nodup) (k : String) :
    (sortedFields fields).lookup k = fields.lookup k := by
  rw [sortedFields]
  induction fields using List.reverseRecOn with
  | nil => rfl
  | append_singleton fields f ih =>
    obtain ⟨key, w⟩ := f
    rw [List.map_append] at h
    obtain ⟨hinit, _, hdisj⟩ := List.nodup_append.mp h
    rw [List.foldl_append, List.foldl_cons, List.foldl_nil, lookup_insertField, ih hinit,
      List.lookup_append, lookup_cons_ite]
    by_cases hk : k = key
    · subst hk
      have hnone : fields.lookup k = none := by
        refine List.lookup_eq_none_iff.mpr ?_
        intro g hg
        have hne : g.1 ≠ k := hdisj g.1 (List.mem_map_of_mem hg) k (by simp)
        simpa using hne.symm
      simp [hnone]
    · simp [hk]

theorem orderedItems_eq_map (vs : List Value) : orderedItems vs = vs.map ordered := by
  induction vs with
  | nil => rfl
  | cons v rest ih => rw [orderedItems, ih, List.map_cons]

theorem orderedFields_eq_map (fields : List (String × Value)) :
    orderedFields fields = fields.map fun f => (f.1, f.2.ordered) := by
  induction fields with
  | nil => rfl
  | cons f rest ih => rw [orderedFields, ih, List.map_cons]

theorem ordered_array (vs : List Value) : (array vs).ordered = .array (vs.map ordered) := by
  rw [ordered, orderedItems_eq_map]

theorem keys_orderedFields (fields : List (String × Value)) :
    (orderedFields fields).map (·.1) = fields.map (·.1) := by
  rw [orderedFields_eq_map, List.map_map]
  rfl

theorem lookup_orderedFields (fields : List (String × Value)) (k : String) :
    (orderedFields fields).lookup k = (fields.lookup k).map ordered := by
  induction fields with
  | nil => rfl
  | cons f rest ih =>
    rw [orderedFields, List.lookup_cons, List.lookup_cons]
    cases k == f.1 with
    | true => rfl
    | false => exact ih

theorem isOrdered_array_iff {vs : List Value} : (array vs).IsOrdered ↔ ∀ v ∈ vs, v.IsOrdered := by
  rw [IsOrdered, ordered_array, array.injEq]
  constructor
  · intro h v hv
    exact map_eq_self_iff.mp h v hv
  · intro h
    exact map_eq_self_iff.mpr h

theorem isOrdered_object_iff :
    (object fields).IsOrdered ↔ KeysAscend fields ∧ ∀ f ∈ fields, f.2.IsOrdered := by
  rw [IsOrdered, ordered, object.injEq]
  constructor
  · intro h
    have hkeys : KeysAscend fields := h ▸ keysAscend_sortedFields _
    have hsame : KeysAscend (orderedFields fields) := by
      rw [orderedFields_eq_map]
      exact List.pairwise_map.mpr hkeys
    rw [sortedFields_of_keysAscend hsame, orderedFields_eq_map] at h
    refine ⟨hkeys, ?_⟩
    intro f hf
    exact congrArg Prod.snd (map_eq_self_iff.mp h f hf)
  · rintro ⟨hkeys, hvalues⟩
    have hsame : orderedFields fields = fields := by
      rw [orderedFields_eq_map]
      refine map_eq_self_iff.mpr ?_
      intro f hf
      exact Prod.ext rfl (hvalues f hf)
    rw [hsame, sortedFields_of_keysAscend hkeys]

theorem isOrdered_ofFields (h : ∀ f ∈ fields, f.2.IsOrdered) : (ofFields fields).IsOrdered := by
  refine isOrdered_object_iff.mpr ⟨keysAscend_sortedFields fields, ?_⟩
  exact fun f hf => h f (mem_of_mem_sortedFields hf)

theorem IsOrdered.of_lookup (h : (object fields).IsOrdered) (hv : fields.lookup key = some v) :
    v.IsOrdered :=
  (isOrdered_object_iff.mp h).2 (key, v) (mem_of_lookup hv)

mutual

theorem isOrdered_ordered : (v : Value) → v.ordered.IsOrdered
  | .null | .bool _ | .number _ | .string _ => rfl
  | .array vs => isOrdered_array_iff.mpr (isOrdered_of_mem_orderedItems vs)
  | .object fields => isOrdered_object_iff.mpr ⟨keysAscend_sortedFields _, fun f hf =>
      isOrdered_of_mem_orderedFields fields f (mem_of_mem_sortedFields hf)⟩

theorem isOrdered_of_mem_orderedItems :
    (vs : List Value) → ∀ v ∈ orderedItems vs, v.IsOrdered
  | [], _, h => nomatch h
  | w :: rest, v, h => by
    rcases List.mem_cons.mp h with rfl | h
    · exact isOrdered_ordered w
    · exact isOrdered_of_mem_orderedItems rest v h

theorem isOrdered_of_mem_orderedFields :
    (fields : List (String × Value)) → ∀ f ∈ orderedFields fields, f.2.IsOrdered
  | [], _, h => nomatch h
  | (_, w) :: rest, f, h => by
    rcases List.mem_cons.mp h with rfl | h
    · exact isOrdered_ordered w
    · exact isOrdered_of_mem_orderedFields rest f h

end

end Callflow.Json.Value
