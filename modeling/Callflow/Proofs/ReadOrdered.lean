import Callflow.Json.Reader
import Callflow.Proofs.FieldOrder
import Callflow.Proofs.Record

/-!
The value that a text holds is in order: the reader puts the fields of an object in the order of
their keys, and what it puts there it has read before.
-/

namespace Callflow.Json

namespace Scan

variable {α β : Type} {p : α → Prop} {q : β → Prop}

/-- Whatever is unread, a step that does not fail gives a value with a property. -/
def Gives (p : α → Prop) (s : Scan α) : Prop :=
  ∀ unread a rest, s unread = .ok (a, rest) → p a

theorem gives_pure {a : α} (h : p a) : Gives p (pure a) := by
  intro unread b rest hrun
  cases hrun
  exact h

theorem gives_fail (fault : Fault) : Gives p (fail fault) := fun _ _ _ hrun => nomatch hrun

theorem gives_failAt (fault : Fault) : Gives p (failAt fault) := fun _ _ _ hrun => nomatch hrun

theorem Gives.bind {s : Scan α} {f : α → Scan β} (hs : Gives p s) (hf : ∀ a, p a → Gives q (f a)) :
    Gives q (s >>= f) := by
  intro unread b rest hrun
  obtain ⟨⟨a, unread'⟩, ha, hb⟩ := bind_eq_ok.mp hrun
  exact hf a (hs unread a unread' ha) unread' b rest hb

theorem gives_bind {s : Scan α} {f : α → Scan β} (hf : ∀ a, Gives q (f a)) :
    Gives q (s >>= f) :=
  Gives.bind (p := fun _ => True) (fun _ _ _ _ => trivial) fun a _ => hf a

theorem gives_itemsOf {item : Scan α} (h : Gives p item) (steps : Nat) (first : Bool) :
    Gives (fun as => ∀ a ∈ as, p a) (itemsOf item steps first) := by
  induction steps generalizing first with
  | zero => exact gives_fail _
  | succ steps ih =>
    refine gives_bind fun more => ?_
    cases more with
    | true =>
      refine h.bind fun a ha => (ih false).bind fun as has => gives_pure ?_
      exact List.forall_mem_cons.mpr ⟨ha, has⟩
    | false => exact gives_bind fun _ => gives_pure (List.forall_mem_nil _)

theorem gives_fieldsOf {value : Scan α} (h : Gives p value) (steps : Nat) (first : Bool) :
    Gives (fun fields => ∀ f ∈ fields, p f.2) (fieldsOf value steps first) := by
  induction steps generalizing first with
  | zero => exact gives_fail _
  | succ steps ih =>
    refine gives_bind fun more => ?_
    cases more with
    | true =>
      refine gives_bind fun _ => gives_bind fun key => gives_bind fun _ => ?_
      refine h.bind fun v hv => (ih false).bind fun rest hrest => gives_pure ?_
      exact List.forall_mem_cons.mpr ⟨hv, hrest⟩
    | false => exact gives_bind fun _ => gives_pure (List.forall_mem_nil _)

theorem gives_valueWith {nested : Option (Scan Value)}
    (h : ∀ s ∈ nested, Gives Value.IsOrdered s) : Gives Value.IsOrdered (valueWith nested) := by
  refine gives_bind fun b => ?_
  cases b with
  | none => exact gives_failAt _
  | some b =>
    dsimp only
    split
    · exact gives_bind fun _ => gives_bind fun _ => gives_pure rfl
    split
    · exact gives_bind fun _ => gives_bind fun _ => gives_pure rfl
    split
    · exact gives_bind fun _ => gives_bind fun _ => gives_pure rfl
    split
    · exact gives_bind fun _ => gives_bind fun _ => gives_pure rfl
    split
    · exact gives_bind fun _ => gives_pure rfl
    split
    · exact gives_bind fun _ => gives_bind fun _ => gives_pure rfl
    split
    · cases nested with
      | none => exact gives_failAt _
      | some nested =>
        refine gives_bind fun _ => gives_bind fun unread => ?_
        refine (gives_itemsOf (h nested rfl) _ _).bind fun vs hvs => gives_pure ?_
        exact Value.isOrdered_array_iff.mpr hvs
    split
    · cases nested with
      | none => exact gives_failAt _
      | some nested =>
        refine gives_bind fun _ => gives_bind fun unread => ?_
        refine (gives_fieldsOf (h nested rfl) _ _).bind fun fields hfields => gives_pure ?_
        exact Value.isOrdered_ofFields hfields
    · exact gives_failAt _

theorem gives_value (levels : Nat) : Gives Value.IsOrdered (value levels) := by
  induction levels with
  | zero => exact gives_valueWith nofun
  | succ levels ih =>
    refine gives_valueWith ?_
    rintro s ⟨⟩
    exact ih

end Scan

theorem Value.isOrdered_of_read {text : String} {v : Value} (h : Value.read text = .ok v) :
    v.IsOrdered := by
  have hgives : Scan.Gives Value.IsOrdered (do
      let v ← Scan.value Scan.levels
      Scan.finish
      pure v) :=
    (Scan.gives_value Scan.levels).bind fun v hv => Scan.gives_bind fun _ => Scan.gives_pure hv
  rw [Value.read, Scan.run] at h
  split at h
  · rename_i hrun
    cases h
    exact hgives _ _ _ hrun
  · exact nomatch h

end Callflow.Json
