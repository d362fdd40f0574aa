import Callflow.Proofs.TableRuns
import Mathlib.Order.Bounds.Defs

/-!
How an identifier is reserved. The candidates are tried one after the other, with no bound set. The
search ends all the same, since only so many identifiers are taken and no two candidates are equal,
and what it ends with is the base or, if that is taken, the base with the least suffix that is free.
-/

namespace Callflow.IdTable

open Identifier

/-- The search from the `k`-th candidate on: after `n` probes it ends with `id`. -/
inductive Searches (taken : List String) (base : String) : (k n : Nat) → (id : String) → Prop where
  | free {k : Nat} (hfree : candidate base k ∉ taken) :
      Searches taken base k 1 (candidate base k)
  | next {k n : Nat} {id : String} (htaken : candidate base k ∈ taken)
      (hrest : Searches taken base (k + 1) n id) : Searches taken base k (n + 1) id

namespace Searches

variable {taken : List String} {base : String} {j k m n : Nat} {id other : String}

theorem of_free (hfree : candidate base j ∉ taken) (hkj : k ≤ j)
    (hbelow : ∀ i, k ≤ i → i < j → candidate base i ∈ taken) :
    Searches taken base k (j + 1 - k) (candidate base j) := by
  -- On the number of taken candidates before the free one.
  induction hd : j - k generalizing k with
  | zero =>
    obtain rfl : k = j := by omega
    have hone : k + 1 - k = 1 := by omega
    rw [hone]
    exact .free hfree
  | succ d ih =>
    have hrest : Searches taken base (k + 1) (j + 1 - (k + 1)) (candidate base j) :=
      ih (by omega) (fun i hi hij => hbelow i (by omega) hij) (by omega)
    have hprobes : j + 1 - k = j + 1 - (k + 1) + 1 := by omega
    rw [hprobes]
    exact .next (hbelow k (Nat.le_refl k) (by omega)) hrest

theorem unique (h : Searches taken base k n id) (ho : Searches taken base k m other) :
    m = n ∧ other = id := by
  induction h generalizing m other with
  | free hfree =>
    cases ho with
    | free _ => exact ⟨rfl, rfl⟩
    | next htaken _ => exact absurd htaken hfree
  | next htaken _ ih =>
    cases ho with
    | free hfree => exact absurd htaken hfree
    | next _ hrest =>
      obtain ⟨rfl, rfl⟩ := ih hrest
      exact ⟨rfl, rfl⟩

end Searches

theorem exists_reserve_eq (t : IdTable) (text : String) :
    ∃ j, 1 ≤ j ∧ j ≤ t.taken.length + 1 ∧ (t.reserve text).1 = candidate (clean text) j ∧
      ∀ i, 1 ≤ i → i < j → candidate (clean text) i ∈ t.taken := by
  obtain ⟨j, hj, hle, he, hbelow, _⟩ := firstFree_spec t.taken (clean text) t.taken.length 1
  exact ⟨j, hj, by omega, he, hbelow⟩

theorem isLeast_of_free {taken : List String} {base : String} {j : Nat} (hj : 2 ≤ j)
    (hfree : candidate base j ∉ taken) (hbelow : ∀ i, 1 ≤ i → i < j → candidate base i ∈ taken) :
    IsLeast {k | 2 ≤ k ∧ base ++ "_" ++ toString k ∉ taken} j := by
  constructor
  · rw [candidate_of_two_le hj] at hfree
    exact ⟨hj, hfree⟩
  · rintro i ⟨hi, hifree⟩
    by_contra hlt
    rw [← candidate_of_two_le hi] at hifree
    exact hifree (hbelow i (by omega) (by omega))

/-- How a table reserves an identifier for a text. -/
structure ReservesLeast (t : IdTable) (text : String) : Prop where
  taken_nodup : t.taken.Nodup
  ends : ∃ n, n ≤ t.taken.length + 1 ∧
    ∀ m id, Searches t.taken (clean text) 1 m id ↔ m = n ∧ id = (t.reserve text).1
  base : clean text ∉ t.taken → (t.reserve text).1 = clean text
  least : clean text ∈ t.taken → ∃ k,
    IsLeast {k | 2 ≤ k ∧ clean text ++ "_" ++ toString k ∉ t.taken} k ∧
      (t.reserve text).1 = clean text ++ "_" ++ toString k
  fresh : (t.reserve text).1 ∉ t.taken
  table : (t.reserve text).2 = { t with taken := (t.reserve text).1 :: t.taken }

/-- Whatever was asked of a table, it reserves the least identifier that is free. -/
theorem reservesLeast_after (calls : List Call) (text : String) :
    ReservesLeast (after calls) text := by
  obtain ⟨j, hj, hle, he, hbelow⟩ := exists_reserve_eq (after calls) text
  have hfresh := reserve_not_mem_taken (after calls) text
  have hfree : candidate (clean text) j ∉ (after calls).taken := he ▸ hfresh
  refine ⟨(agrees_session calls).sound.taken_nodup, ⟨j, hle, ?_⟩, ?_, ?_, hfresh, rfl⟩
  · have hends := Searches.of_free hfree hj hbelow
    rw [← he, Nat.add_sub_cancel] at hends
    intro m id
    constructor
    · intro h
      exact hends.unique h
    · rintro ⟨rfl, rfl⟩
      exact hends
  · intro hbase
    -- The base is the first candidate, so behind it nothing is tried.
    obtain rfl : j = 1 := by
      by_contra hne
      exact hbase (hbelow 1 (Nat.le_refl 1) (by omega))
    exact he
  · intro hbase
    have htwo : 2 ≤ j := by
      by_contra hlt
      obtain rfl : j = 1 := by omega
      exact hfree hbase
    exact ⟨j, isLeast_of_free htwo hfree hbelow, he.trans (candidate_of_two_le htwo)⟩

/-- The suffix 2 is taken by a text of its own, so the second `a` gets the suffix 3. -/
example : (answers [.reserve "a", .reserve "a_2", .reserve "a", .reserve "a"]).map (·.2) =
    ["a", "a_2", "a_3", "a_4"] := by decide

end Callflow.IdTable
