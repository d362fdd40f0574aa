import Callflow.Proofs.IdTable
import Mathlib.Data.List.Dedup
import Mathlib.Data.List.Induction

/-!
A new table through any calls. What it answers is clean, a call that asks for something new is given
what was never given out, and a key that was inserted keeps its identifier, which no other key has.
-/

namespace Callflow.IdTable

inductive Call where
  | insert (key : String)
  | reserve (text : String)
  deriving DecidableEq, Repr

def Call.key? : Call → Option String
  | .insert key => some key
  | .reserve _ => none

def Call.run (t : IdTable) : Call → String × IdTable
  | .insert key => t.insert key
  | .reserve text => t.reserve text

def insertedKeys (calls : List Call) : List String := calls.filterMap Call.key?

structure Session where
  table : IdTable := {}
  answers : List (Call × String) := []
  deriving DecidableEq, Repr

def Session.ask (r : Session) (call : Call) : Session where
  table := (call.run r.table).2
  answers := r.answers ++ [(call, (call.run r.table).1)]

def session (calls : List Call) : Session := calls.foldl Session.ask {}

def after (calls : List Call) : IdTable := (session calls).table

def answers (calls : List Call) : List (Call × String) := (session calls).answers

/-- A call asks for a new identifier: it reserves one, or it inserts a key for the first time. -/
def Call.IsNew (calls : List Call) (call : Call) : Prop :=
  ∀ key ∈ call.key?, key ∉ insertedKeys calls

/-- What holds of a new table after calls. -/
structure OneToOne (calls : List Call) : Prop where
  answers_clean : ∀ a ∈ answers calls, Identifier.isClean a.2 = true
  fresh : ∀ call : Call, call.IsNew calls →
    (call.run (after calls)).1 ∉ (answers calls).map (·.2)
  again : ∀ key ∈ insertedKeys calls, ∃ id, (answers calls).lookup (.insert key) = some id ∧
    (after calls).insert key = (id, after calls)
  get? : ∀ key, (after calls).get? key = (answers calls).lookup (.insert key)
  contains : ∀ key, (after calls).contains key = true ↔ key ∈ insertedKeys calls
  kept : ∀ later key id, (after calls).get? key = some id →
    (after (calls ++ later)).get? key = some id
  apart : ∀ key ∈ insertedKeys calls, ∀ other ∈ insertedKeys calls,
    (after calls).get? key = (after calls).get? other → key = other
  size : (after calls).size = (insertedKeys calls).dedup.length

variable {t : IdTable} {call : Call} {key id : String}

theorem Sound.run (h : t.Sound) (call : Call) : (call.run t).2.Sound := by
  cases call with
  | insert key => exact h.insert key
  | reserve text => exact h.reserve text

theorem get?_run (t : IdTable) (call : Call) (key : String) :
    (call.run t).2.get? key = if call.key? = some key then some (call.run t).1 else t.get? key := by
  cases call with
  | insert other =>
    by_cases h : other = key
    · subst h
      simp [Call.run, Call.key?, get?_insert_self]
    · simp [Call.run, Call.key?, h, get?_insert_of_ne (Ne.symm h)]
  | reserve text => rfl

theorem run_of_get? (hkey : call.key? = some key) (h : t.get? key = some id) :
    call.run t = (id, t) := by
  cases call with
  | insert other =>
    obtain rfl := Option.some.inj hkey
    exact insert_of_some h
  | reserve text => cases hkey

theorem run_of_new (h : ∀ key ∈ call.key?, t.get? key = none) :
    (call.run t).1 ∉ t.taken ∧ (call.run t).2.taken = (call.run t).1 :: t.taken ∧
      (call.run t).2.entries.map (·.1) = call.key?.toList ++ t.entries.map (·.1) := by
  cases call with
  | insert key =>
    rw [Call.run, insert_of_none (h key rfl)]
    exact ⟨reserve_not_mem_taken t key, rfl, rfl⟩
  | reserve text => exact ⟨reserve_not_mem_taken t text, rfl, rfl⟩

theorem run_cases (t : IdTable) (call : Call) :
    (∃ key id, call.key? = some key ∧ t.get? key = some id) ∨
      ∀ key ∈ call.key?, t.get? key = none := by
  cases hkey : call.key? with
  | none => exact .inr (by simp)
  | some key =>
    cases hget : t.get? key with
    | some id => exact .inl ⟨key, id, rfl, hget⟩
    | none =>
      refine .inr ?_
      intro other hother
      rwa [← Option.some.inj hother]

theorem session_append_singleton (calls : List Call) (call : Call) :
    session (calls ++ [call]) = (session calls).ask call := by
  rw [session, List.foldl_append]
  rfl

theorem insertedKeys_append_singleton (calls : List Call) (call : Call) :
    insertedKeys (calls ++ [call]) = insertedKeys calls ++ call.key?.toList := by
  rw [insertedKeys, List.filterMap_append]
  cases h : call.key? <;> simp [insertedKeys, h]

/-- The table and the answers of a session tell the same. -/
structure Session.Agrees (calls : List Call) (r : Session) : Prop where
  sound : r.table.Sound
  taken : ∀ a ∈ r.answers, a.2 ∈ r.table.taken
  get? : ∀ key, r.table.get? key = r.answers.lookup (.insert key)
  keys_nodup : (r.table.entries.map (·.1)).Nodup
  mem_keys : ∀ key, key ∈ r.table.entries.map (·.1) ↔ key ∈ insertedKeys calls

theorem mem_keys_iff_isSome_get? : key ∈ t.entries.map (·.1) ↔ (t.get? key).isSome = true := by
  rw [get?, List.lookup_isSome_iff, List.mem_map]
  constructor
  · rintro ⟨e, he, rfl⟩
    exact ⟨e, he, beq_self_eq_true _⟩
  · rintro ⟨e, he, hkey⟩
    exact ⟨e, he, (eq_of_beq hkey).symm⟩

theorem lookup_answers_append (answers : List (Call × String)) (call : Call) (id key : String) :
    (answers ++ [(call, id)]).lookup (.insert key) =
      (answers.lookup (.insert key)).or (if call.key? = some key then some id else none) := by
  rw [List.lookup_append]
  cases call with
  | insert other =>
    by_cases h : other = key
    · simp [Call.key?, h]
    · have hne : (Call.insert key == Call.insert other) = false := by simpa using Ne.symm h
      simp [Call.key?, h, List.lookup_cons, hne]
  | reserve text => rfl

namespace Session.Agrees

variable {calls : List Call} {r : Session}

theorem nil : Agrees [] {} where
  sound := sound_empty
  taken := by simp
  get? _ := rfl
  keys_nodup := List.nodup_nil
  mem_keys key := by simp [insertedKeys]

theorem isNew_iff (h : r.Agrees calls) (call : Call) :
    call.IsNew calls ↔ ∀ key ∈ call.key?, r.table.get? key = none := by
  refine forall₂_congr fun key _ => ?_
  rw [← h.mem_keys, mem_keys_iff_isSome_get?, Option.not_isSome_iff_eq_none]

theorem get?_ask (h : r.Agrees calls) (call : Call) (key : String) :
    (r.ask call).table.get? key = (r.ask call).answers.lookup (.insert key) := by
  rw [Session.ask, get?_run, lookup_answers_append, ← h.get?]
  -- Of two answers for a key the look-up takes the first; the second is the same.
  by_cases hkey : call.key? = some key
  · cases hget : r.table.get? key with
    | some id => simp [hkey, run_of_get? hkey hget]
    | none => simp [hkey]
  · simp [hkey]

theorem ask_of_get? (h : r.Agrees calls) (hkey : call.key? = some key)
    (hget : r.table.get? key = some id) : (r.ask call).Agrees (calls ++ [call]) := by
  have htable : (r.ask call).table = r.table := by rw [ask, run_of_get? hkey hget]
  refine ⟨htable ▸ h.sound, ?_, h.get?_ask call, htable ▸ h.keys_nodup, ?_⟩
  · intro a ha
    rw [htable]
    rcases List.mem_append.mp ha with ha | ha
    · exact h.taken a ha
    · rw [List.mem_singleton.mp ha, run_of_get? hkey hget]
      exact h.sound.get?_mem_taken hget
  · intro other
    have hmem : key ∈ insertedKeys calls := by
      rw [← h.mem_keys, mem_keys_iff_isSome_get?, hget]
      rfl
    rw [htable, h.mem_keys, insertedKeys_append_singleton, hkey, List.mem_append]
    refine ⟨.inl, ?_⟩
    rintro (hother | hother)
    · exact hother
    · exact List.mem_singleton.mp hother ▸ hmem

theorem ask_of_new (h : r.Agrees calls) (hnew : ∀ key ∈ call.key?, r.table.get? key = none) :
    (r.ask call).Agrees (calls ++ [call]) := by
  obtain ⟨_, htaken, hentries⟩ := run_of_new hnew
  refine ⟨h.sound.run call, ?_, h.get?_ask call, ?_, ?_⟩
  · intro a ha
    rw [ask, htaken]
    rcases List.mem_append.mp ha with ha | ha
    · exact List.mem_cons_of_mem _ (h.taken a ha)
    · rw [List.mem_singleton.mp ha]
      exact List.mem_cons_self
  · rw [ask, hentries]
    cases hkey : call.key? with
    | none => exact h.keys_nodup
    | some key =>
      refine List.nodup_cons.mpr ⟨?_, h.keys_nodup⟩
      have hfree : ¬ (r.table.get? key).isSome = true := by simp [hnew key hkey]
      exact mt mem_keys_iff_isSome_get?.mp hfree
  · intro key
    rw [ask, hentries, insertedKeys_append_singleton, List.mem_append, List.mem_append, h.mem_keys]
    exact or_comm

theorem ask (h : r.Agrees calls) (call : Call) : (r.ask call).Agrees (calls ++ [call]) := by
  rcases run_cases r.table call with ⟨key, id, hkey, hget⟩ | hnew
  · exact h.ask_of_get? hkey hget
  · exact h.ask_of_new hnew

end Session.Agrees

theorem agrees_session (calls : List Call) : (session calls).Agrees calls := by
  induction calls using List.reverseRecOn with
  | nil => exact .nil
  | append_singleton calls call ih =>
    rw [session_append_singleton]
    exact ih.ask call

theorem get?_after_append (calls later : List Call) (h : (after calls).get? key = some id) :
    (after (calls ++ later)).get? key = some id := by
  induction later using List.reverseRecOn with
  | nil => rwa [List.append_nil]
  | append_singleton later call ih =>
    have hrun : after (calls ++ (later ++ [call])) = (call.run (after (calls ++ later))).2 := by
      rw [after, ← List.append_assoc, session_append_singleton]
      rfl
    rw [hrun, get?_run]
    split
    · rename_i hkey
      rw [run_of_get? hkey ih]
    · exact ih

theorem contains_after (calls : List Call) (key : String) :
    (after calls).contains key = true ↔ key ∈ insertedKeys calls := by
  rw [← (agrees_session calls).mem_keys, mem_keys_iff_isSome_get?]
  rfl

theorem exists_get?_after {calls : List Call} (h : key ∈ insertedKeys calls) :
    ∃ id, (after calls).get? key = some id :=
  Option.isSome_iff_exists.mp ((contains_after calls key).mpr h)

/-- Whatever is asked of a new table, it is one to one. -/
theorem oneToOne_after (calls : List Call) : OneToOne calls where
  answers_clean a ha := by
    have h := agrees_session calls
    exact h.sound.taken_clean a.2 (h.taken a ha)
  fresh call hnew hmem := by
    have h := agrees_session calls
    obtain ⟨a, ha, hid⟩ := List.mem_map.mp hmem
    have htaken := h.taken a ha
    rw [hid] at htaken
    exact (run_of_new ((h.isNew_iff call).mp hnew)).1 htaken
  again key hkey := by
    obtain ⟨id, hid⟩ := exists_get?_after hkey
    exact ⟨id, ((agrees_session calls).get? key).symm.trans hid, insert_of_some hid⟩
  get? := (agrees_session calls).get?
  contains := contains_after calls
  kept later _ _ := get?_after_append calls later
  apart key hkey other _ hsame := by
    obtain ⟨id, hid⟩ := exists_get?_after hkey
    exact (agrees_session calls).sound.get?_inj hid (hsame.symm.trans hid)
  size := by
    have h := agrees_session calls
    -- Each key that was inserted has one entry, however often it was.
    have hperm : ((after calls).entries.map (·.1)).Perm (insertedKeys calls).dedup :=
      (List.perm_ext_iff_of_nodup h.keys_nodup (List.nodup_dedup _)).mpr fun key => by
        rw [List.mem_dedup]
        exact h.mem_keys key
    rw [size, ← hperm.length_eq, List.length_map]

/-- The text `a_2` is taken by then as the second of the two that are cleaned to `a`. -/
example : (answers [.insert "a", .reserve "a", .insert "a_2", .insert "a", .insert "ä"]).map (·.2) =
    ["a", "a_2", "a_2_2", "a", "_"] := by decide

end Callflow.IdTable
