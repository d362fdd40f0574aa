import Callflow.Proofs.CleanedChart

/-!
What becomes of a handle when its chart is cleaned. The identifier of a node is its own, cleaned,
unless another node has that already; then a suffix is added. So a handle that cleaning leaves as it
is stays, and none is turned into it.
-/

namespace Callflow

namespace Identifier

theorem eq_of_clean_eq {s t : String} (h : clean s = t) (ht : '_' ∉ t.toList) : s = t := by
  have hchars : t.toList = s.toList.map cleanChar := by
    rw [← h, clean, String.toList_ofList]
  have hclean : isClean s = true := by
    rw [isClean, List.all_eq_true]
    intro c hc
    by_contra hbad
    -- Cleaning would have put an underscore in the place of this character.
    apply ht
    rw [hchars]
    exact List.mem_map.mpr ⟨c, hc, by simp [cleanChar, hbad]⟩
  rw [← clean_of_isClean hclean, h]

end Identifier

namespace IdTable

open Identifier

variable {t : IdTable} {key other id : String}

/-- How a table of keys came to its identifiers: each is made of its key, and one that is not just
the cleaned key stands there because another key has that one. -/
structure Made (t : IdTable) : Prop where
  given : ∀ id ∈ t.taken, ∃ key, t.get? key = some id
  candidate : ∀ key id, t.get? key = some id → ∃ k, id = candidate (clean key) k
  displaced : ∀ key id, t.get? key = some id → id ≠ clean key →
    ∃ other, other ≠ key ∧ t.get? other = some (clean key)

theorem made_empty : Made {} where
  given := by simp
  candidate := by simp [get?]
  displaced := by simp [get?]

theorem clean_mem_taken_of_reserve_ne {text : String} (h : (t.reserve text).1 ≠ clean text) :
    clean text ∈ t.taken := by
  obtain ⟨j, hj, _, he, hbelow, _⟩ := firstFree_spec t.taken (clean text) t.taken.length 1
  have hid : (t.reserve text).1 = IdTable.candidate (clean text) j := he
  have hone : IdTable.candidate (clean text) 1 = clean text := rfl
  cases Nat.eq_or_lt_of_le hj with
  | inl heq =>
    subst heq
    exact absurd (hid.trans hone) h
  | inr hlt => exact hone ▸ hbelow 1 (Nat.le_refl 1) hlt

theorem Made.insert (h : t.Made) (key : String) : (t.insert key).2.Made := by
  cases hk : t.get? key with
  | some id => rwa [insert_of_some hk]
  | none =>
    have hself : (t.insert key).2.get? key = some (t.reserve key).1 := by
      rw [get?_insert_self, insert_of_none hk]
    refine ⟨?_, ?_, ?_⟩
    · intro id hid
      rw [insert_of_none hk] at hid
      cases List.mem_cons.mp hid with
      | inl heq => exact ⟨key, heq ▸ hself⟩
      | inr hid =>
        obtain ⟨other, ho⟩ := h.given id hid
        exact ⟨other, get?_insert_of_some ho⟩
    · intro other id ho
      by_cases heq : other = key
      · subst heq
        obtain rfl := Option.some.inj (hself.symm.trans ho)
        exact reserve_eq_candidate t other
      · rw [get?_insert_of_ne heq] at ho
        exact h.candidate other id ho
    · intro other id ho hne
      by_cases heq : other = key
      · subst heq
        obtain rfl := Option.some.inj (hself.symm.trans ho)
        obtain ⟨holder, hholder⟩ := h.given _ (clean_mem_taken_of_reserve_ne hne)
        refine ⟨holder, ?_, get?_insert_of_some hholder⟩
        rintro rfl
        rw [hk] at hholder
        cases hholder
      · rw [get?_insert_of_ne heq] at ho
        obtain ⟨holder, hholder, hget⟩ := h.displaced other id ho hne
        exact ⟨holder, hholder, get?_insert_of_some hget⟩

end IdTable

namespace Chart

theorem made_addNode {g : Cleaned} (h : g.nodeIds.Made) (n : Node) :
    (g.addNode n).nodeIds.Made := by
  by_cases hn : n.id = "" ∨ g.nodeIds.contains n.id
  · rw [Cleaned.addNode_of_unusable hn]
    exact h
  · rw [Cleaned.addNode_of_usable hn]
    exact h.insert n.id

theorem made_foldl_addNode (ns : List Node) {g : Cleaned} (h : g.nodeIds.Made) :
    (ns.foldl Cleaned.addNode g).nodeIds.Made := by
  induction ns generalizing g with
  | nil => exact h
  | cons n ns ih => exact ih (made_addNode h n)

variable (c : Chart)

theorem nodeIds_made : c.clean.nodeIds.Made := by
  rw [clean_nodeIds]
  exact made_foldl_addNode c.nodes IdTable.made_empty

variable {c} {key handle : String}

theorem isNode_of_get? {id : String} (h : c.clean.nodeIds.get? key = some id) :
    c.isNode key = true ∧ c.idOf key = id := by
  have hcontains : c.clean.nodeIds.contains key = true := by simp [IdTable.contains, h]
  rw [contains_nodeIds] at hcontains
  exact ⟨hcontains, by rw [idOf, h]; rfl⟩

theorem exists_idOf_eq (h : c.isNode key = true) :
    ∃ k, c.idOf key = IdTable.candidate (Identifier.clean key) k :=
  (nodeIds_made c).candidate key _ (get?_nodeIds h)

theorem exists_idOf_eq_clean (h : c.isNode key = true) (hne : c.idOf key ≠ Identifier.clean key) :
    ∃ other, other ≠ key ∧ c.isNode other = true ∧ c.idOf other = Identifier.clean key := by
  obtain ⟨other, hother, hget⟩ := (nodeIds_made c).displaced key _ (get?_nodeIds h) hne
  exact ⟨other, hother, isNode_of_get? hget⟩

theorem eq_of_idOf_eq (h : c.isNode key = true) (hid : c.idOf key = handle)
    (hplain : '_' ∉ handle.toList) : key = handle := by
  obtain ⟨k, hk⟩ := exists_idOf_eq h
  rw [hid, IdTable.candidate] at hk
  split at hk
  · exact Identifier.eq_of_clean_eq hk.symm hplain
  · exfalso
    apply hplain
    simp [hk]

theorem cleanHandle_some (hne : handle ≠ "") :
    cleanHandle c.clean.nodeIds (some handle) =
      some (if c.isNode handle then c.idOf handle else Identifier.clean handle) := by
  have hfilter : (some handle).filter (· ≠ "") = some handle := by simp [hne]
  rw [cleanHandle, hfilter, Option.map_some]
  cases hget : c.clean.nodeIds.get? handle with
  | some id =>
    obtain ⟨hnode, hid⟩ := isNode_of_get? hget
    simp [hnode, hid]
  | none =>
    have hnode : c.isNode handle = false := by
      rw [← contains_nodeIds, IdTable.contains, hget]
      rfl
    simp [hnode]

/-- A clean handle without an underscore comes of itself alone, whatever the nodes are called. -/
theorem cleanHandle_eq_some_iff {raw : Option String} (hne : handle ≠ "")
    (hclean : Identifier.clean handle = handle) (hplain : '_' ∉ handle.toList) :
    cleanHandle c.clean.nodeIds raw = some handle ↔ raw = some handle := by
  constructor
  · intro h
    obtain ⟨text, htext, hsame⟩ := Option.map_eq_some_iff.mp h
    obtain ⟨hraw, hnotEmpty⟩ := Option.mem_filter_iff.mp htext
    rw [Option.mem_def.mp hraw] at h ⊢
    rw [cleanHandle_some (by simpa using hnotEmpty), Option.some.injEq] at h
    rw [Option.some.injEq]
    cases hnode : c.isNode text with
    | true =>
      rw [hnode, if_pos rfl] at h
      exact eq_of_idOf_eq hnode h hplain
    | false =>
      rw [hnode, if_neg (by simp)] at h
      exact Identifier.eq_of_clean_eq h hplain
  · rintro rfl
    rw [cleanHandle_some hne, Option.some.injEq]
    cases hnode : c.isNode handle with
    | false => rw [if_neg (by simp), hclean]
    | true =>
      rw [if_pos rfl]
      by_contra hbad
      -- Another node would go by this identifier, but only this one can.
      obtain ⟨other, hother, hotherNode, hid⟩ :=
        exists_idOf_eq_clean hnode (hclean.symm ▸ hbad)
      exact hother (eq_of_idOf_eq hotherNode (hid.trans hclean) hplain)

end Chart

end Callflow
