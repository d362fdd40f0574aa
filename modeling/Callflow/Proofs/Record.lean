import Callflow.Json.Record
import Callflow.Proofs.FieldOrder
import Mathlib.Data.List.Basic
import Mathlib.Data.List.Pairwise

/-!
Reading records. A record made of fields reads an object by the look-ups of their names, so neither
the order of the fields nor fields of no use matter, and what is written with each value under the
name of its field, or not at all, is read back.
-/

namespace Callflow.Json

theorem bind_eq_ok {ε α β : Type} {x : Except ε α} {f : α → Except ε β} {b : β} :
    x >>= f = .ok b ↔ ∃ a, x = .ok a ∧ f a = .ok b := by
  cases x with
  | error e => exact ⟨nofun, fun ⟨_, h, _⟩ => nomatch h⟩
  | ok a => exact ⟨fun h => ⟨a, rfl, h⟩, fun ⟨_, h, hb⟩ => by cases h; exact hb⟩

def Slot.keys (s : Slot) : List String := s.name :: s.spelling.toList

theorem Slot.isSpelled_iff {s : Slot} {key : String} : s.isSpelled key = true ↔ key ∈ s.keys := by
  simp [Slot.isSpelled, Slot.keys]

namespace Record

variable {α β : Type}

theorem build_seq_eq_ok {f : Record (α → β)} {x : Record α} {given : List (String × Value)}
    {b : β} :
    (f <*> x).build given = .ok b ↔
      ∃ g, f.build given = .ok g ∧ ∃ a, x.build given = .ok a ∧ g a = b := by
  constructor
  · intro h
    obtain ⟨g, hg, h⟩ := bind_eq_ok.mp h
    obtain ⟨a, ha, h⟩ := bind_eq_ok.mp h
    exact ⟨g, hg, a, ha, Except.ok.inj h⟩
  · rintro ⟨g, hg, a, ha, rfl⟩
    exact bind_eq_ok.mpr ⟨g, hg, bind_eq_ok.mpr ⟨a, ha, rfl⟩⟩

theorem build_map_eq_ok {g : α → β} {x : Record α} {given : List (String × Value)} {b : β} :
    (g <$> x).build given = .ok b ↔ ∃ a, x.build given = .ok a ∧ g a = b := by
  have hseq : (pure g <*> x).build given = .ok b ↔ _ := build_seq_eq_ok
  constructor
  · intro h
    obtain ⟨_, hg, h⟩ := hseq.mp h
    cases hg
    exact h
  · intro h
    exact hseq.mpr ⟨g, rfl, h⟩

theorem build_seq {f : Record (α → β)} {x : Record α} {given : List (String × Value)} {g : α → β}
    {a : α} (hf : f.build given = .ok g) (hx : x.build given = .ok a) :
    (f <*> x).build given = .ok (g a) :=
  build_seq_eq_ok.mpr ⟨g, hf, a, hx, rfl⟩

theorem build_map {g : α → β} {x : Record α} {given : List (String × Value)} {a : α}
    (hx : x.build given = .ok a) : (g <$> x).build given = .ok (g a) :=
  build_map_eq_ok.mpr ⟨a, hx, rfl⟩

theorem build_eq_ok_iff {r : Record α} {given : List (String × Value)} {a : α} :
    r.build given = .ok a ↔ ∃ b, r.build given = .ok b ∧ b = a := by simp

theorem exists_build_seq {f : Record (α → β)} {x : Record α} {given : List (String × Value)}
    {p : β → Prop} :
    (∃ b, (f <*> x).build given = .ok b ∧ p b) ↔
      ∃ g, f.build given = .ok g ∧ ∃ a, x.build given = .ok a ∧ p (g a) := by
  constructor
  · rintro ⟨b, h, hp⟩
    obtain ⟨g, hg, a, ha, rfl⟩ := build_seq_eq_ok.mp h
    exact ⟨g, hg, a, ha, hp⟩
  · rintro ⟨g, hg, a, ha, hp⟩
    exact ⟨g a, build_seq hg ha, hp⟩

theorem exists_build_map {g : α → β} {x : Record α} {given : List (String × Value)}
    {p : β → Prop} :
    (∃ b, (g <$> x).build given = .ok b ∧ p b) ↔ ∃ a, x.build given = .ok a ∧ p (g a) := by
  constructor
  · rintro ⟨b, h, hp⟩
    obtain ⟨a, ha, rfl⟩ := build_map_eq_ok.mp h
    exact ⟨a, ha, hp⟩
  · rintro ⟨a, ha, hp⟩
    exact ⟨g a, build_map ha, hp⟩

theorem build_required_eq_ok {name : String} {decode : Decoder α}
    {given : List (String × Value)} {a : α} :
    (required name decode).build given = .ok a ↔
      ∃ v, given.lookup name = some v ∧ decode v = .ok a := by
  cases h : given.lookup name <;> simp [required, fieldOr, h]

theorem build_withDefault {absent : α} {name : String} {decode : Decoder α}
    {given : List (String × Value)} :
    (withDefault absent name decode).build given =
      (given.lookup name).elim (.ok absent) decode := by
  cases h : given.lookup name <;> simp [withDefault, fieldOr, h]

theorem build_optional {name : String} {decode : Decoder α} {given : List (String × Value)} :
    (optional name decode).build given =
      Decoder.optional decode ((given.lookup name).getD .null) := by
  cases h : given.lookup name <;> simp [optional, withDefault, fieldOr, h, Decoder.optional]

theorem build_spelledTwice {name spelling : String} {decode : Decoder α}
    {given : List (String × Value)} :
    (spelledTwice name spelling decode).build given = (optional name decode).build given := rfl

theorem optional_eq_ok {decode : Decoder α} {v : Value} {a : Option α} :
    Decoder.optional decode v = .ok a ↔
      (v = .null ∧ a = none) ∨ (v ≠ .null ∧ ∃ x, decode v = .ok x ∧ a = some x) := by
  by_cases hv : v = .null
  · subst hv
    simp [Decoder.optional, eq_comm]
  · have hopt : Decoder.optional decode v = (decode v).map some := by
      cases v <;> first | exact absurd rfl hv | rfl
    rw [hopt]
    cases decode v <;> simp [hv, Except.map, eq_comm]

/-- A record reads what stands under the names of its fields, and all it reads passes the checks. -/
class IsLawful (r : Record α) : Prop where
  build_congr : ∀ {given other : List (String × Value)},
    (∀ s ∈ r.slots, given.lookup s.name = other.lookup s.name) → r.build given = r.build other
  check_of_build : ∀ {given : List (String × Value)} {a : α}, r.build given = .ok a →
    ∀ s ∈ r.slots, ∀ v, given.lookup s.name = some v → s.check v = .ok ()

instance (a : α) : IsLawful (pure a) where
  build_congr _ := rfl
  check_of_build _ _ hs := nomatch hs

instance (f : Record (α → β)) (x : Record α) [IsLawful f] [IsLawful x] : IsLawful (f <*> x) where
  build_congr h := by
    have hf := IsLawful.build_congr (r := f) fun s hs => h s (List.mem_append_left _ hs)
    have hx := IsLawful.build_congr (r := x) fun s hs => h s (List.mem_append_right _ hs)
    simp only [Seq.seq, hf, hx]
  check_of_build h s hs v hv := by
    obtain ⟨g, hg, a, ha, _⟩ := build_seq_eq_ok.mp h
    rcases List.mem_append.mp hs with hs | hs
    · exact IsLawful.check_of_build hg s hs v hv
    · exact IsLawful.check_of_build ha s hs v hv

instance (g : α → β) (x : Record α) [IsLawful x] : IsLawful (g <$> x) :=
  inferInstanceAs (IsLawful (pure g <*> x))

instance (absent : Option α) (name : String) (spelling : Option String) (decode : Decoder α) :
    IsLawful (fieldOr absent name spelling decode) where
  build_congr {given other} h := by
    have hname : given.lookup name = other.lookup name := h _ List.mem_cons_self
    simp only [fieldOr, hname]
  check_of_build {given a} h s hs v hv := by
    obtain rfl := List.mem_singleton.mp hs
    have hv' : given.lookup name = some v := hv
    have hread : decode v = .ok a := by
      simpa only [fieldOr, hv'] using h
    simp [hread, Except.map]

instance (name : String) (decode : Decoder α) : IsLawful (required name decode) :=
  inferInstanceAs (IsLawful (fieldOr ..))

instance (absent : α) (name : String) (decode : Decoder α) :
    IsLawful (withDefault absent name decode) :=
  inferInstanceAs (IsLawful (fieldOr ..))

instance (name : String) (decode : Decoder α) : IsLawful (optional name decode) :=
  inferInstanceAs (IsLawful (fieldOr ..))

instance (name spelling : String) (decode : Decoder α) :
    IsLawful (spelledTwice name spelling decode) :=
  inferInstanceAs (IsLawful (fieldOr ..))

/-- A record that asks for no field: it is read of all that passes the checks. -/
class AsksNothing (r : Record α) : Prop where
  exists_build : ∀ {given : List (String × Value)},
    (∀ s ∈ r.slots, ∀ v, given.lookup s.name = some v → s.check v = .ok ()) →
      ∃ a, r.build given = .ok a

instance (a : α) : AsksNothing (pure a) where
  exists_build _ := ⟨a, rfl⟩

instance (f : Record (α → β)) (x : Record α) [AsksNothing f] [AsksNothing x] :
    AsksNothing (f <*> x) where
  exists_build h := by
    obtain ⟨g, hg⟩ := AsksNothing.exists_build (r := f) fun s hs => h s (List.mem_append_left _ hs)
    obtain ⟨a, ha⟩ := AsksNothing.exists_build (r := x) fun s hs => h s (List.mem_append_right _ hs)
    exact ⟨g a, build_seq hg ha⟩

instance (g : α → β) (x : Record α) [AsksNothing x] : AsksNothing (g <$> x) :=
  inferInstanceAs (AsksNothing (pure g <*> x))

instance (absent : α) (name : String) (decode : Decoder α) :
    AsksNothing (withDefault absent name decode) where
  exists_build {given} h := by
    rw [build_withDefault]
    cases hlookup : given.lookup name with
    | none => exact ⟨absent, rfl⟩
    | some v =>
      have hcheck : (decode v).map (fun _ => ()) = .ok () := h _ List.mem_cons_self v hlookup
      cases hread : decode v with
      | ok a => exact ⟨a, hread⟩
      | error m => simp [hread, Except.map] at hcheck

instance (name : String) (decode : Decoder α) : AsksNothing (optional name decode) :=
  inferInstanceAs (AsksNothing (withDefault ..))

instance (name spelling : String) (decode : Decoder α) :
    AsksNothing (spelledTwice name spelling decode) where
  exists_build h := by
    rw [build_spelledTwice]
    refine AsksNothing.exists_build fun s hs v hv => ?_
    obtain rfl := List.mem_singleton.mp hs
    exact h _ List.mem_cons_self v hv

variable {slots : List Slot} {fields : List (String × Value)}

theorem of_find? {key : String} {s : Slot} (h : slots.find? (·.isSpelled key) = some s) :
    s ∈ slots ∧ s.isSpelled key = true :=
  ⟨List.mem_of_find?_eq_some h, by simpa using List.find?_some h⟩

def named (slots : List Slot) (fields : List (String × Value)) : List (String × Value) :=
  fields.filterMap fun f => (slots.find? (·.isSpelled f.1)).map fun s => (s.name, f.2)

theorem named_cons_of_none {f : String × Value} (h : slots.find? (·.isSpelled f.1) = none)
    (rest : List (String × Value)) : named slots (f :: rest) = named slots rest := by
  simp [named, h]

theorem named_cons_of_some {f : String × Value} {s : Slot}
    (h : slots.find? (·.isSpelled f.1) = some s) (rest : List (String × Value)) :
    named slots (f :: rest) = (s.name, f.2) :: named slots rest := by
  simp [named, h]

def Passes (slots : List Slot) (f : String × Value) : Prop :=
  ∀ s, slots.find? (·.isSpelled f.1) = some s → s.check f.2 = .ok ()

/-- Screening gives the known fields under their names, if there is one value for each and all of
them pass. -/
theorem screen_eq_ok_iff {seen : List String} {given : List (String × Value)} :
    screen slots seen fields = .ok given ↔
      given = named slots fields ∧ ((named slots fields).map (·.1)).Nodup ∧
        (∀ key ∈ (named slots fields).map (·.1), key ∉ seen) ∧ ∀ f ∈ fields, Passes slots f := by
  induction fields generalizing seen given with
  | nil => simp [screen, named, eq_comm]
  | cons f rest ih =>
    obtain ⟨key, v⟩ := f
    cases hfind : slots.find? (·.isSpelled key) with
    | none =>
      have hscreen : screen slots seen ((key, v) :: rest) = screen slots seen rest := by
        simp only [screen, hfind]
      have hpass : Passes slots (key, v) := by simp [Passes, hfind]
      rw [hscreen, named_cons_of_none hfind, ih, List.forall_mem_cons]
      simp only [hpass, true_and]
    | some s =>
      have hpass : Passes slots (key, v) ↔ s.check v = .ok () := by simp [Passes, hfind]
      rw [named_cons_of_some hfind, List.map_cons, List.nodup_cons, List.forall_mem_cons,
        List.forall_mem_cons, hpass]
      by_cases hseen : s.name ∈ seen
      · simp [screen, hfind, hseen]
      · have hscreen : screen slots seen ((key, v) :: rest) = (do
            s.check v
            let given ← screen slots (s.name :: seen) rest
            .ok ((s.name, v) :: given)) := by
          simp only [screen, hfind, hseen, if_false]
        rw [hscreen]
        constructor
        · intro h
          obtain ⟨_, hcheck, h⟩ := bind_eq_ok.mp h
          obtain ⟨more, hmore, h⟩ := bind_eq_ok.mp h
          obtain ⟨rfl, hnodup, hfresh, hpasses⟩ := ih.mp hmore
          have hnew : s.name ∉ (named slots rest).map (·.1) :=
            fun hmem => hfresh _ hmem List.mem_cons_self
          exact ⟨(Except.ok.inj h).symm, ⟨hnew, hnodup⟩,
            ⟨hseen, fun key hkey hmem => hfresh key hkey (List.mem_cons_of_mem _ hmem)⟩, hcheck,
            hpasses⟩
        · intro h
          obtain ⟨rfl, ⟨hnew, hnodup⟩, ⟨_, hfresh⟩, hcheck, hpasses⟩ := h
          refine bind_eq_ok.mpr ⟨(), hcheck, bind_eq_ok.mpr ⟨named slots rest, ?_, rfl⟩⟩
          refine ih.mpr ⟨rfl, hnodup, fun key hkey hmem => ?_, hpasses⟩
          cases hmem with
          | head => exact hnew hkey
          | tail _ hmem => exact hfresh key hkey hmem

theorem ofFields_eq_ok_iff_named {r : Record α} {a : α} :
    r.ofFields fields = .ok a ↔
      ((named r.slots fields).map (·.1)).Nodup ∧ (∀ f ∈ fields, Passes r.slots f) ∧
        r.build (named r.slots fields) = .ok a := by
  rw [ofFields, bind_eq_ok]
  constructor
  · intro h
    obtain ⟨given, hgiven, hbuild⟩ := h
    obtain ⟨rfl, hnodup, _, hpasses⟩ := screen_eq_ok_iff.mp hgiven
    exact ⟨hnodup, hpasses, hbuild⟩
  · intro h
    obtain ⟨hnodup, hpasses, hbuild⟩ := h
    exact ⟨_, screen_eq_ok_iff.mpr ⟨rfl, hnodup, fun _ _ => List.not_mem_nil, hpasses⟩, hbuild⟩

def NamesDistinct (slots : List Slot) : Prop :=
  slots.Pairwise fun s t => s.isSpelled t.name = false ∧ t.isSpelled s.name = false

instance (slots : List Slot) : Decidable (NamesDistinct slots) :=
  inferInstanceAs (Decidable (List.Pairwise _ _))

/-- Whoever spells a field spells it by its name. -/
def SpelledByName (slots : List Slot) (keys : List String) : Prop :=
  ∀ key ∈ keys, ∀ s ∈ slots, s.isSpelled key = true → key = s.name

instance (slots : List Slot) (keys : List String) : Decidable (SpelledByName slots keys) :=
  inferInstanceAs (Decidable (∀ _ ∈ _, _))

theorem isSpelled_name (s : Slot) : s.isSpelled s.name = true := by
  simp [Slot.isSpelled]

def known (slots : List Slot) (fields : List (String × Value)) : List (String × Value) :=
  fields.filter fun f => slots.any (·.isSpelled f.1)

theorem lookup_known {s : Slot} (hs : s ∈ slots) :
    (known slots fields).lookup s.name = fields.lookup s.name := by
  induction fields with
  | nil => rfl
  | cons f rest ih =>
    obtain ⟨key, v⟩ := f
    by_cases hk : s.name = key
    · subst hk
      have hany : slots.any (·.isSpelled s.name) = true :=
        List.any_eq_true.mpr ⟨s, hs, isSpelled_name s⟩
      simp [known, hany]
    · rw [Value.lookup_cons_ite, if_neg hk, ← ih, known, List.filter_cons]
      split
      · rw [Value.lookup_cons_ite, if_neg hk]
        rfl
      · rfl

theorem eq_name_of_find? (hname : SpelledByName slots (fields.map (·.1))) {f : String × Value}
    (hf : f ∈ fields) {s : Slot} (hs : slots.find? (·.isSpelled f.1) = some s) : f.1 = s.name := by
  obtain ⟨hmem, hspelled⟩ := of_find? hs
  exact hname f.1 (List.mem_map_of_mem hf) s hmem hspelled

theorem named_eq_known (hname : SpelledByName slots (fields.map (·.1))) :
    named slots fields = known slots fields := by
  rw [named, known, ← List.filterMap_eq_filter]
  refine List.filterMap_congr fun f hf => ?_
  cases hfind : slots.find? (·.isSpelled f.1) with
  | none => simpa [Option.guard] using hfind
  | some s =>
    have hany : slots.any (·.isSpelled f.1) = true := List.any_eq_true.mpr ⟨s, of_find? hfind⟩
    simp [Option.guard, hany, ← eq_name_of_find? hname hf hfind]

theorem ofFields_eq_ok_iff (r : Record α) [IsLawful r] (hkeys : (fields.map (·.1)).Nodup)
    (hname : SpelledByName r.slots (fields.map (·.1))) {a : α} :
    r.ofFields fields = .ok a ↔ r.build fields = .ok a := by
  have hknown : r.build (known r.slots fields) = r.build fields :=
    IsLawful.build_congr fun s hs => lookup_known hs
  have hnodup : ((known r.slots fields).map (·.1)).Nodup :=
    hkeys.sublist (List.filter_sublist.map _)
  rw [ofFields_eq_ok_iff_named, named_eq_known hname, hknown]
  constructor
  · intro h
    exact h.2.2
  · intro h
    refine ⟨hnodup, fun f hf s hs => ?_, h⟩
    refine IsLawful.check_of_build h s (of_find? hs).1 f.2 ?_
    obtain ⟨key, v⟩ := f
    obtain rfl : key = s.name := eq_name_of_find? hname hf hs
    exact Value.lookup_of_mem hkeys hf

/-- No key spells two fields, or one field in two ways. -/
def KeysDistinct (slots : List Slot) : Prop := (slots.flatMap Slot.keys).Nodup

instance (slots : List Slot) : Decidable (KeysDistinct slots) :=
  inferInstanceAs (Decidable (List.Nodup _))

def GivenTwice (slots : List Slot) (keys : List String) : Prop :=
  ∃ s ∈ slots, ∃ spelling ∈ s.spelling, s.name ∈ keys ∧ spelling ∈ keys

instance (slots : List Slot) (keys : List String) : Decidable (GivenTwice slots keys) :=
  inferInstanceAs (Decidable (∃ _ ∈ _, _))

namespace KeysDistinct

variable {s t : Slot} {key : String}

theorem find?_eq (h : KeysDistinct slots) (hs : s ∈ slots) (hkey : key ∈ s.keys) :
    slots.find? (·.isSpelled key) = some s := by
  induction slots with
  | nil => cases hs
  | cons u rest ih =>
    rw [KeysDistinct, List.flatMap_cons, List.nodup_append] at h
    obtain ⟨_, hrest, hdisjoint⟩ := h
    cases hs with
    | head => simp [Slot.isSpelled_iff.mpr hkey]
    | tail _ hs =>
      have hother : u.isSpelled key = false := by
        rw [← Bool.not_eq_true, Slot.isSpelled_iff]
        intro hmem
        exact hdisjoint key hmem key (List.mem_flatMap.mpr ⟨s, hs, hkey⟩) rfl
      simp [hother, ih hrest hs]

theorem eq_of_name_eq (h : KeysDistinct slots) (hs : s ∈ slots) (ht : t ∈ slots)
    (heq : s.name = t.name) : s = t := by
  have hfound := h.find?_eq hs List.mem_cons_self
  rw [heq, h.find?_eq ht List.mem_cons_self] at hfound
  exact (Option.some.inj hfound).symm

theorem spelling_ne_name (h : KeysDistinct slots) (hs : s ∈ slots) (hkey : key ∈ s.spelling) :
    s.name ≠ key := by
  have hnodup : s.keys.Nodup := (List.pairwise_flatMap.mp h).1 s hs
  intro heq
  exact (List.nodup_cons.mp hnodup).1 (heq ▸ Option.mem_toList.mpr hkey)

end KeysDistinct

def nameOf? (slots : List Slot) (key : String) : Option String :=
  (slots.find? (·.isSpelled key)).map (·.name)

theorem keys_named (slots : List Slot) (fields : List (String × Value)) :
    (named slots fields).map (·.1) = (fields.map (·.1)).filterMap (nameOf? slots) := by
  rw [named, List.map_filterMap, List.filterMap_map]
  refine List.filterMap_congr fun f _ => ?_
  rw [Option.map_map]
  rfl

theorem nodup_named_iff (hslots : KeysDistinct slots) (hkeys : (fields.map (·.1)).Nodup) :
    ((named slots fields).map (·.1)).Nodup ↔ ¬ GivenTwice slots (fields.map (·.1)) := by
  rw [keys_named, List.Nodup, List.pairwise_filterMap]
  constructor
  · intro h htwice
    obtain ⟨s, hs, spelling, hspelling, hname, hother⟩ := htwice
    have hne := hslots.spelling_ne_name hs hspelling
    have hfirst : nameOf? slots s.name = some s.name := by
      rw [nameOf?, hslots.find?_eq hs List.mem_cons_self, Option.map_some]
    have hsecond : nameOf? slots spelling = some s.name := by
      rw [nameOf?, hslots.find?_eq hs (List.mem_cons_of_mem _ (Option.mem_toList.mpr hspelling)),
        Option.map_some]
    have hsymm : Std.Symm fun k l => ∀ n, nameOf? slots k = some n → ∀ m, nameOf? slots l = some m →
        n ≠ m := ⟨fun k l hkl m hm n hn heq => hkl n hn m hm heq.symm⟩
    exact h.forall hname hother hne s.name hfirst s.name hsecond rfl
  · intro htwice
    refine hkeys.imp_of_mem ?_
    intro k l hk hl hne n hn m hm heq
    obtain ⟨s, hfind, rfl⟩ := Option.map_eq_some_iff.mp hn
    obtain ⟨t, hfind', rfl⟩ := Option.map_eq_some_iff.mp hm
    obtain ⟨hs, hks⟩ := of_find? hfind
    obtain ⟨ht, hlt⟩ := of_find? hfind'
    obtain rfl := hslots.eq_of_name_eq hs ht heq
    simp only [Slot.isSpelled_iff, Slot.keys, List.mem_cons, Option.mem_toList] at hks hlt
    -- Of two different keys of one field the one is its name and the other its second spelling.
    rcases hks with rfl | hks
    · rcases hlt with rfl | hlt
      · exact hne rfl
      · exact htwice ⟨s, hs, l, hlt, hk, hl⟩
    · rcases hlt with rfl | hlt
      · exact htwice ⟨s, hs, k, hks, hl, hk⟩
      · exact hne (Option.some.inj (hks.symm.trans hlt))

section

variable {r : Record α} [AsksNothing r]

/-- A record that asks for nothing is read of an object exactly if all fields of it pass and none
is given twice. -/
theorem exists_ofFields_iff (hslots : KeysDistinct r.slots) :
    (∃ a, r.ofFields fields = .ok a) ↔
      ((named r.slots fields).map (·.1)).Nodup ∧ ∀ f ∈ fields, Passes r.slots f := by
  simp only [ofFields_eq_ok_iff_named, exists_and_left]
  refine and_congr_right fun _ => ⟨fun h => h.1, fun h => ⟨h, AsksNothing.exists_build ?_⟩⟩
  intro s hs v hv
  obtain ⟨f, hf, hnamed⟩ := List.mem_filterMap.mp (Value.mem_of_lookup hv)
  obtain ⟨t, hfind, heq⟩ := Option.map_eq_some_iff.mp hnamed
  obtain ⟨hname, rfl⟩ := Prod.mk.inj heq
  obtain rfl := hslots.eq_of_name_eq (of_find? hfind).1 hs hname
  exact h f hf t hfind

theorem exists_ofFields_singleton_iff (hslots : KeysDistinct r.slots) {f : String × Value} :
    (∃ a, r.ofFields [f] = .ok a) ↔ Passes r.slots f := by
  have hnodup : ((named r.slots [f]).map (·.1)).Nodup := by
    cases hfind : r.slots.find? (·.isSpelled f.1) with
    | none =>
      rw [named_cons_of_none hfind]
      exact List.nodup_nil
    | some s =>
      rw [named_cons_of_some hfind]
      exact List.pairwise_singleton _ _
  simp [exists_ofFields_iff hslots, hnodup]

end

end Record

end Callflow.Json
