import Callflow.Proofs.Record
import Mathlib.Data.List.Forall2

/-!
Values read back. What is written as an object, each value under the name of its field, is read back
by the record of these fields, whatever order they end up in; and what is read of an ordered value
is made of ordered values.
-/

namespace Callflow.Json

open Value

variable {α β : Type}

def present (entries : List (String × Option Value)) : List (String × Value) :=
  entries.filterMap fun (key, v) => v.map (key, ·)

theorem present_append (before after : List (String × Option Value)) :
    present (before ++ after) = present before ++ present after := List.filterMap_append

theorem fieldFor_eq_present (key : String) (encode : α → Value) (a : Option α) :
    fieldFor key encode a = present [(key, a.map encode)] := by
  cases a <;> rfl

theorem keys_present (entries : List (String × Option Value)) :
    ((present entries).map (·.1)).Sublist (entries.map (·.1)) := by
  induction entries with
  | nil => exact .slnil
  | cons entry rest ih =>
    obtain ⟨key, v⟩ := entry
    cases v with
    | none => exact ih.cons key
    | some v => exact ih.cons_cons key

theorem lookup_present {entries : List (String × Option Value)}
    (h : (entries.map (·.1)).Nodup) (key : String) :
    (present entries).lookup key = (entries.lookup key).join := by
  induction entries with
  | nil => rfl
  | cons entry rest ih =>
    obtain ⟨k, v⟩ := entry
    obtain ⟨hfresh, hrest⟩ := List.nodup_cons.mp h
    rw [lookup_cons_ite]
    cases v with
    | some v =>
      have hhead : present ((k, some v) :: rest) = (k, v) :: present rest := rfl
      rw [hhead, lookup_cons_ite, ih hrest]
      split <;> rfl
    | none =>
      have hhead : present ((k, none) :: rest) = present rest := rfl
      rw [hhead]
      split
      · rename_i heq
        subst heq
        refine List.lookup_eq_none_iff.mpr ?_
        intro f hf
        have hmem : f.1 ∈ rest.map (·.1) :=
          (keys_present rest).mem (List.mem_map_of_mem (f := (·.1)) hf)
        have hne : key ≠ f.1 := by
          intro heq
          exact hfresh (heq ▸ hmem)
        simpa using hne
      · exact ih hrest

/-- The fields of an object as they stand once it was put in order. -/
def written (entries : List (String × Option Value)) : List (String × Value) :=
  sortedFields (orderedFields (present entries))

theorem ordered_present (entries : List (String × Option Value)) :
    (object (present entries)).ordered = .object (written entries) := rfl

theorem mem_keys_of_written {entries : List (String × Option Value)} {key : String}
    (h : key ∈ (written entries).map (·.1)) : key ∈ entries.map (·.1) := by
  obtain ⟨f, hf, rfl⟩ := List.mem_map.mp h
  refine (keys_present entries).mem ?_
  rw [← keys_orderedFields]
  exact List.mem_map_of_mem (mem_of_mem_sortedFields hf)

theorem lookup_written {entries : List (String × Option Value)}
    (h : (entries.map (·.1)).Nodup) (key : String) :
    (written entries).lookup key = ((entries.lookup key).join).map ordered := by
  have hpresent : ((orderedFields (present entries)).map (·.1)).Nodup := by
    rw [keys_orderedFields]
    exact h.sublist (keys_present entries)
  rw [written, lookup_sortedFields hpresent, lookup_orderedFields, lookup_present h]

namespace Record

/-- The keys of an object are right for a record: each is there once, and none that the record has
a use for is a second spelling. -/
def Suits (slots : List Slot) (keys : List String) : Prop :=
  NamesDistinct slots ∧ keys.Nodup ∧ SpelledByName slots keys

instance (slots : List Slot) (keys : List String) : Decidable (Suits slots keys) :=
  inferInstanceAs (Decidable (_ ∧ _))

theorem ofFields_written (r : Record α) [IsLawful r] {entries : List (String × Option Value)}
    (hsuits : Suits r.slots (entries.map (·.1))) {a : α} (h : r.build (written entries) = .ok a) :
    r.ofFields (written entries) = .ok a := by
  obtain ⟨_, _, hname⟩ := hsuits
  have hascend : KeysAscend (written entries) := keysAscend_sortedFields _
  refine (ofFields_eq_ok_iff r hascend.nodup ?_).mpr h
  exact fun key hkey => hname key (mem_keys_of_written hkey)

section

variable {entries : List (String × Option Value)} {name : String} {decode : Decoder α}

theorem build_required_written (hkeys : (entries.map (·.1)).Nodup) {v : Value} {a : α}
    (hfield : entries.lookup name = some (some v)) (hread : decode v.ordered = .ok a) :
    (required name decode).build (written entries) = .ok a := by
  refine build_required_eq_ok.mpr ⟨v.ordered, ?_, hread⟩
  rw [lookup_written hkeys, hfield]
  rfl

theorem build_withDefault_written (hkeys : (entries.map (·.1)).Nodup) {absent : α} {v : Value}
    {a : α} (hfield : entries.lookup name = some (some v)) (hread : decode v.ordered = .ok a) :
    (withDefault absent name decode).build (written entries) = .ok a := by
  rw [build_withDefault, lookup_written hkeys, hfield]
  exact hread

theorem build_optional_written (hkeys : (entries.map (·.1)).Nodup) {f : α → Value}
    {a : Option α} (hfield : entries.lookup name = some (a.map f))
    (hread : ∀ x ∈ a, (f x).ordered ≠ .null ∧ decode (f x).ordered = .ok x) :
    (optional name decode).build (written entries) = .ok a := by
  rw [build_optional, lookup_written hkeys, hfield]
  cases a with
  | none => rfl
  | some x =>
    obtain ⟨hne, hx⟩ := hread x rfl
    exact optional_eq_ok.mpr (.inr ⟨hne, x, hx, rfl⟩)

theorem build_text_written (hkeys : (entries.map (·.1)).Nodup) {a : Option String}
    (hfield : entries.lookup name = some (a.map Value.string)) :
    (optional name Decoder.text).build (written entries) = .ok a :=
  build_optional_written hkeys hfield fun _ _ => ⟨nofun, rfl⟩

theorem build_flag_written (hkeys : (entries.map (·.1)).Nodup) {a : Option Bool}
    (hfield : entries.lookup name = some (a.map Value.bool)) :
    (optional name Decoder.flag).build (written entries) = .ok a :=
  build_optional_written hkeys hfield fun _ _ => ⟨nofun, rfl⟩

theorem build_any_written (hkeys : (entries.map (·.1)).Nodup) {a : Option Value}
    (hfield : entries.lookup name = some (a.map id)) (h : ∀ v ∈ a, v ≠ .null ∧ v.IsOrdered) :
    (optional name Decoder.any).build (written entries) = .ok a := by
  refine build_optional_written (f := id) hkeys hfield ?_
  intro v hv
  obtain ⟨hne, hordered⟩ := h v hv
  exact ⟨hordered.symm ▸ hne, congrArg Except.ok hordered⟩

end

theorem exists_mem_of_screen {slots : List Slot} {seen : List String}
    {fields given : List (String × Value)} (h : screen slots seen fields = .ok given) :
    ∀ f ∈ given, ∃ g ∈ fields, g.2 = f.2 := by
  induction fields generalizing seen given with
  | nil =>
    cases h
    exact List.forall_mem_nil _
  | cons g rest ih =>
    obtain ⟨key, v⟩ := g
    have hlater {given' : List (String × Value)} {seen' : List String}
        (h' : screen slots seen' rest = .ok given') :
        ∀ f ∈ given', ∃ g ∈ (key, v) :: rest, g.2 = f.2 := by
      intro f hf
      obtain ⟨g, hg, heq⟩ := ih h' f hf
      exact ⟨g, List.mem_cons_of_mem _ hg, heq⟩
    rw [screen] at h
    split at h
    · exact hlater h
    · split at h
      · cases h
      · obtain ⟨_, _, h⟩ := bind_eq_ok.mp h
        obtain ⟨more, hmore, h⟩ := bind_eq_ok.mp h
        cases h
        intro f hf
        rcases List.mem_cons.mp hf with rfl | hf
        · exact ⟨(key, v), List.mem_cons_self, rfl⟩
        · exact hlater hmore f hf

theorem mem_of_place {shape : Shape} {size i : Nat} {slots : List Slot} {vs : List Value}
    {given : List (String × Value)} (h : place shape size i slots vs = .ok given) :
    ∀ f ∈ given, f.2 ∈ vs := by
  induction slots generalizing i vs given with
  | nil =>
    cases vs with
    | nil =>
      cases h
      exact List.forall_mem_nil _
    | cons v rest => cases h
  | cons s slots ih =>
    cases vs with
    | nil =>
      rw [place] at h
      split at h
      · cases h
      · exact ih h
    | cons v rest =>
      rw [place] at h
      obtain ⟨_, _, h⟩ := bind_eq_ok.mp h
      obtain ⟨more, hmore, h⟩ := bind_eq_ok.mp h
      cases h
      intro f hf
      rcases List.mem_cons.mp hf with rfl | hf
      · exact List.mem_cons_self
      · exact List.mem_cons_of_mem _ (ih hmore f hf)

theorem exists_mem_of_build_required {given : List (String × Value)} {name : String}
    {decode : Decoder α} {a : α} (h : (required name decode).build given = .ok a) :
    ∃ f ∈ given, decode f.2 = .ok a := by
  obtain ⟨v, hv, hread⟩ := build_required_eq_ok.mp h
  exact ⟨(name, v), mem_of_lookup hv, hread⟩

theorem exists_mem_of_build_optional {given : List (String × Value)} {name : String}
    {decode : Decoder α} {a : Option α} (h : (optional name decode).build given = .ok a) :
    ∀ x ∈ a, ∃ f ∈ given, f.2 ≠ .null ∧ decode f.2 = .ok x := by
  intro x hx
  rw [build_optional] at h
  rcases optional_eq_ok.mp h with ⟨_, rfl⟩ | ⟨hne, y, hread, rfl⟩
  · cases hx
  · cases hx
    cases hv : given.lookup name with
    | none => exact absurd (by rw [hv]; rfl) hne
    | some v =>
      rw [hv] at hne hread
      exact ⟨(name, v), mem_of_lookup hv, hne, hread⟩

theorem exists_build_of_ofFields {r : Record α} {fields : List (String × Value)} {a : α}
    (h : r.ofFields fields = .ok a) (hfields : (object fields).IsOrdered) :
    ∃ given, (∀ f ∈ given, f.2.IsOrdered) ∧ r.build given = .ok a := by
  obtain ⟨given, hgiven, h⟩ := bind_eq_ok.mp h
  refine ⟨given, ?_, h⟩
  intro f hf
  obtain ⟨g, hg, heq⟩ := exists_mem_of_screen hgiven f hf
  exact heq ▸ (isOrdered_object_iff.mp hfields).2 g hg

theorem exists_build_of_decode {name : String} {r : Record α} {v : Value} {a : α}
    (h : r.decode name v = .ok a) (hv : v.IsOrdered) :
    ∃ given, (∀ f ∈ given, f.2.IsOrdered) ∧ r.build given = .ok a := by
  cases v with
  | object fields => exact exists_build_of_ofFields h hv
  | array vs =>
    obtain ⟨given, hgiven, h⟩ := bind_eq_ok.mp h
    exact ⟨given, fun f hf => isOrdered_array_iff.mp hv f.2 (mem_of_place hgiven f hf), h⟩
  | null | bool _ | number _ | string _ => cases h

end Record

theorem exists_left_of_forall₂ {R : α → β → Prop} {as : List α} {bs : List β} {b : β}
    (h : List.Forall₂ R as bs) (hb : b ∈ bs) : ∃ a ∈ as, R a b := by
  induction h with
  | nil => cases hb
  | @cons a b' as bs hab _ ih =>
    cases hb with
    | head => exact ⟨a, List.mem_cons_self, hab⟩
    | tail _ hb =>
      obtain ⟨a', ha', hab'⟩ := ih hb
      exact ⟨a', List.mem_cons_of_mem a ha', hab'⟩

theorem exists_of_choose_eq_ok {choice : String} {alternatives : List (Value → Option α)}
    {v : Value} {a : α} (h : Decoder.choose choice alternatives v = .ok a) :
    ∃ alternative ∈ alternatives, alternative v = some a := by
  rw [Decoder.choose] at h
  split at h
  · rename_i b hfound
    obtain rfl := Except.ok.inj h
    exact List.exists_of_findSome?_eq_some hfound
  · cases h

theorem items_eq_ok_iff {item : Decoder α} {vs : List Value} {as : List α} :
    Decoder.items item vs = .ok as ↔ List.Forall₂ (fun v a => item v = .ok a) vs as := by
  induction vs generalizing as with
  | nil =>
    rw [List.forall₂_nil_left_iff, Decoder.items, Except.ok.injEq, eq_comm]
  | cons v rest ih =>
    rw [List.forall₂_cons_left_iff, Decoder.items]
    constructor
    · intro h
      obtain ⟨a, ha, h⟩ := bind_eq_ok.mp h
      obtain ⟨more, hmore, h⟩ := bind_eq_ok.mp h
      exact ⟨a, more, ha, ih.mp hmore, (Except.ok.inj h).symm⟩
    · rintro ⟨a, more, ha, hmore, rfl⟩
      exact bind_eq_ok.mpr ⟨a, ha, bind_eq_ok.mpr ⟨more, ih.mpr hmore, rfl⟩⟩

theorem list_written {encode : α → Value} {item : Decoder α} {as : List α}
    (h : ∀ a ∈ as, item (encode a).ordered = .ok a) :
    Decoder.list item (array (as.map encode)).ordered = .ok as := by
  rw [ordered_array, List.map_map]
  refine items_eq_ok_iff.mpr (List.forall₂_map_left_iff.mpr ?_)
  exact List.forall₂_same.mpr h

theorem Record.build_list_written {entries : List (String × Option Value)} {name : String}
    (hkeys : (entries.map (·.1)).Nodup) {encode : α → Value} {item : Decoder α}
    {as : Option (List α)}
    (hfield : entries.lookup name = some (as.map fun xs => array (xs.map encode)))
    (hread : ∀ xs ∈ as, ∀ x ∈ xs, item (encode x).ordered = .ok x) :
    (optional name (Decoder.list item)).build (written entries) = .ok as :=
  build_optional_written hkeys hfield fun xs hxs => ⟨nofun, list_written (hread xs hxs)⟩

theorem exists_of_list_eq_ok {item : Decoder α} {v : Value} {as : List α}
    (h : Decoder.list item v = .ok as) (hv : v.IsOrdered) :
    ∀ a ∈ as, ∃ w : Value, w.IsOrdered ∧ item w = .ok a := by
  cases v with
  | array vs =>
    intro a ha
    obtain ⟨w, hw, hread⟩ := exists_left_of_forall₂ (items_eq_ok_iff.mp h) ha
    exact ⟨w, isOrdered_array_iff.mp hv w hw, hread⟩
  | null | bool _ | number _ | string _ | object _ => cases h

end Callflow.Json
