import Callflow.Proofs.Survivors

/-!
What a check keeps of a payload. Every field is tried by itself: those that can be read are kept
with what each gives alone, and each other one is an issue. This fails where a field can be read
under both of its spellings: then the fields that are left are refused together and all are lost.
-/

namespace Callflow.Editor

open Json Value Record

variable {id : String} {fields : List (String × Value)} {f : String × Value}

def Payload.or (p q : Payload) : Payload where
  text := p.text.or q.text
  prompt := p.prompt.or q.prompt
  label := p.label.or q.label
  name := p.name.or q.name
  isStart := p.isStart.or q.isStart
  extractVars := p.extractVars.or q.extractVars
  options := p.options.or q.options
  variableName := p.variableName.or q.variableName
  extractVariables := p.extractVariables.or q.extractVariables
  transferNumber := p.transferNumber.or q.transferNumber
  webhookUrl := p.webhookUrl.or q.webhookUrl
  webhookMethod := p.webhookMethod.or q.webhookMethod
  body := p.body.or q.body
  condition := p.condition.or q.condition

theorem Payload.empty_or (p : Payload) : Payload.or {} p = p := rfl

def together (ps : List Payload) : Payload := ps.foldr Payload.or {}

def readAlone? (f : String × Value) : Option Payload := (Payload.decode (.object [f])).toOption

abbrev GivenTwice (fields : List (String × Value)) : Prop :=
  Record.GivenTwice Payload.record.slots (fields.map (·.1))

def readable (fields : List (String × Value)) : List (String × Value) :=
  fields.filter fun f => (readAlone? f).isSome

instance : AsksNothing Payload.record := by
  unfold Payload.record
  infer_instance

theorem Payload.keysDistinct : KeysDistinct Payload.record.slots := by decide

theorem readAlone?_eq_some {p : Payload} :
    readAlone? f = some p ↔ Payload.decode (.object [f]) = .ok p := by
  rw [readAlone?]
  cases Payload.decode (.object [f]) <;> simp [Except.toOption]

theorem isSome_readAlone?_iff : (readAlone? f).isSome = true ↔ Passes Payload.record.slots f := by
  rw [← exists_ofFields_singleton_iff Payload.keysDistinct, Option.isSome_iff_exists]
  exact exists_congr fun _ => readAlone?_eq_some

theorem isNone_fieldIssue? : (fieldIssue? id f).isNone = (readAlone? f).isSome := by
  rw [fieldIssue?, readAlone?]
  cases Payload.decode (.object [f]) <;> rfl

theorem build_optional_cons {α : Type} {name key : String} {decode : Decoder α} {v : Value}
    {given : List (String × Value)} {a b : Option α}
    (hsame : ∀ w, given.lookup key = some w → w = v)
    (ha : (optional name decode).build [(key, v)] = .ok a)
    (hb : (optional name decode).build given = .ok b) :
    (optional name decode).build ((key, v) :: given) = .ok (a.or b) := by
  rw [build_optional, lookup_cons_ite] at *
  by_cases hname : name = key
  · subst hname
    rw [if_pos rfl] at *
    cases hlookup : given.lookup name with
    | none =>
      rw [hlookup] at hb
      cases hb
      rw [Option.or_none]
      exact ha
    | some w =>
      obtain rfl := hsame w hlookup
      rw [hlookup] at hb
      obtain rfl := Except.ok.inj (ha.symm.trans hb)
      rw [Option.or_self]
      exact ha
  · rw [if_neg hname] at *
    cases ha
    exact hb

theorem Payload.build_cons {key : String} {v : Value} {given : List (String × Value)}
    {p q : Payload} (hsame : ∀ w, given.lookup key = some w → w = v)
    (hp : Payload.record.build [(key, v)] = .ok p) (hq : Payload.record.build given = .ok q) :
    Payload.record.build ((key, v) :: given) = .ok (p.or q) := by
  rw [Payload.record, build_eq_ok_iff] at hp hq
  simp only [exists_build_seq, exists_build_map] at hp hq
  obtain ⟨text, htext, prompt, hprompt, label, hlabel, name, hname, isStart, hisStart, extractVars,
    hextractVars, options, hoptions, variableName, hvariableName, extractVariables,
    hextractVariables, transferNumber, htransferNumber, webhookUrl, hwebhookUrl, webhookMethod,
    hwebhookMethod, body, hbody, condition, hcondition, rfl⟩ := hp
  obtain ⟨text', htext', prompt', hprompt', label', hlabel', name', hname', isStart', hisStart',
    extractVars', hextractVars', options', hoptions', variableName', hvariableName',
    extractVariables', hextractVariables', transferNumber', htransferNumber', webhookUrl',
    hwebhookUrl', webhookMethod', hwebhookMethod', body', hbody', condition', hcondition',
    rfl⟩ := hq
  have hor : Payload.or ⟨text, prompt, label, name, isStart, extractVars, options, variableName,
        extractVariables, transferNumber, webhookUrl, webhookMethod, body, condition⟩
      ⟨text', prompt', label', name', isStart', extractVars', options', variableName',
        extractVariables', transferNumber', webhookUrl', webhookMethod', body', condition'⟩ =
      ⟨text.or text', prompt.or prompt', label.or label', name.or name', isStart.or isStart',
        extractVars.or extractVars', options.or options', variableName.or variableName',
        extractVariables.or extractVariables', transferNumber.or transferNumber',
        webhookUrl.or webhookUrl', webhookMethod.or webhookMethod', body.or body',
        condition.or condition'⟩ := rfl
  rw [hor]
  unfold Payload.record
  refine build_seq (build_seq (build_seq (build_seq (build_seq (build_seq (build_seq (build_seq
    (build_seq (build_seq (build_seq (build_seq (build_seq (build_map ?text) ?prompt) ?label)
    ?name) ?isStart) ?extractVars) ?options) ?variableName) ?extractVariables) ?transferNumber)
    ?webhookUrl) ?webhookMethod) ?body) ?condition
  case text => exact build_optional_cons hsame htext htext'
  case prompt => exact build_optional_cons hsame hprompt hprompt'
  case label => exact build_optional_cons hsame hlabel hlabel'
  case name => exact build_optional_cons hsame hname hname'
  case isStart => exact build_optional_cons hsame hisStart hisStart'
  case extractVars => exact build_optional_cons hsame hextractVars hextractVars'
  case options => exact build_optional_cons hsame hoptions hoptions'
  case variableName => exact build_optional_cons hsame hvariableName hvariableName'
  case extractVariables => exact build_optional_cons hsame hextractVariables hextractVariables'
  case transferNumber => exact build_optional_cons hsame htransferNumber htransferNumber'
  case webhookUrl => exact build_optional_cons hsame hwebhookUrl hwebhookUrl'
  case webhookMethod => exact build_optional_cons hsame hwebhookMethod hwebhookMethod'
  case body => exact build_optional_cons hsame hbody hbody'
  case condition => exact build_optional_cons hsame hcondition hcondition'

theorem decode_eq_together (hread : ∀ f ∈ fields, (readAlone? f).isSome = true)
    (hnodup : ((named Payload.record.slots fields).map (·.1)).Nodup) :
    Payload.decode (.object fields) = .ok (together (fields.filterMap readAlone?)) := by
  refine ofFields_eq_ok_iff_named.mpr
    ⟨hnodup, fun f hf => isSome_readAlone?_iff.mp (hread f hf), ?_⟩
  induction fields with
  | nil => rfl
  | cons f rest ih =>
    obtain ⟨hfirst, hrest⟩ := List.forall_mem_cons.mp hread
    obtain ⟨p, hp⟩ := Option.isSome_iff_exists.mp hfirst
    obtain ⟨_, _, hbuild⟩ := ofFields_eq_ok_iff_named.mp (readAlone?_eq_some.mp hp)
    rw [List.filterMap_cons_some hp, together, List.foldr_cons]
    cases hfind : Payload.record.slots.find? (·.isSpelled f.1) with
    | none =>
      rw [named_cons_of_none hfind] at hbuild hnodup ⊢
      cases hbuild
      exact ih hrest hnodup
    | some s =>
      rw [named_cons_of_some hfind] at hbuild hnodup ⊢
      obtain ⟨hfresh, hnodup⟩ := List.nodup_cons.mp hnodup
      -- Every name is there once, so no field is read in the place of another.
      refine Payload.build_cons ?_ hbuild (ih hrest hnodup)
      intro w hw
      exact absurd (List.mem_map_of_mem (mem_of_lookup hw)) hfresh

theorem readable_of_forall (h : ∀ f ∈ fields, (readAlone? f).isSome = true) :
    readable fields = fields :=
  List.filter_eq_self.mpr h

theorem filterMap_readAlone?_readable (fields : List (String × Value)) :
    (readable fields).filterMap readAlone? = fields.filterMap readAlone? := by
  rw [readable, List.filterMap_filter]
  refine List.filterMap_congr fun f _ => ?_
  cases readAlone? f <;> rfl

theorem filterMap_fieldIssue?_of_forall (h : ∀ f ∈ fields, (readAlone? f).isSome = true) :
    fields.filterMap (fieldIssue? id) = [] := by
  rw [List.filterMap_eq_nil_iff]
  intro f hf
  rw [← Option.isNone_iff_eq_none, isNone_fieldIssue?]
  exact h f hf

theorem exists_decode_iff (hkeys : (fields.map (·.1)).Nodup) :
    (∃ p, Payload.decode (.object fields) = .ok p) ↔
      ¬ GivenTwice fields ∧ ∀ f ∈ fields, (readAlone? f).isSome = true := by
  refine (exists_ofFields_iff Payload.keysDistinct).trans ?_
  rw [nodup_named_iff Payload.keysDistinct hkeys]
  simp only [isSome_readAlone?_iff]

/-- What is there of a payload is there in another, with the same value. -/
def Payload.IsPartOf (own p : Payload) : Prop := own.or p = p

theorem isSome_of_mem_readable (h : f ∈ readable fields) : (readAlone? f).isSome = true :=
  (List.mem_filter.mp h).2

theorem keys_readable (fields : List (String × Value)) :
    ((readable fields).map (·.1)).Sublist (fields.map (·.1)) := List.filter_sublist.map _

theorem givenTwice_of_readable (h : GivenTwice (readable fields)) : GivenTwice fields := by
  obtain ⟨s, hs, spelling, hspelling, hname, hother⟩ := h
  have hkeys := (keys_readable fields).subset
  exact ⟨s, hs, spelling, hspelling, hkeys hname, hkeys hother⟩

theorem decode_readable (hkeys : (fields.map (·.1)).Nodup) (h : ¬ GivenTwice (readable fields)) :
    Payload.decode (.object (readable fields)) = .ok (together (fields.filterMap readAlone?)) := by
  have hnodup := hkeys.sublist (keys_readable fields)
  rw [← filterMap_readAlone?_readable]
  exact decode_eq_together (fun f hf => isSome_of_mem_readable hf)
    ((nodup_named_iff Payload.keysDistinct hnodup).mpr h)

theorem isPartOf_together (hkeys : (fields.map (·.1)).Nodup) (h : ¬ GivenTwice (readable fields))
    (hf : f ∈ fields) {own : Payload} (hown : Payload.decode (.object [f]) = .ok own) :
    own.IsPartOf (together (fields.filterMap readAlone?)) := by
  obtain ⟨_, _, hone⟩ := ofFields_eq_ok_iff_named.mp hown
  obtain ⟨hnodup, _, hall⟩ := ofFields_eq_ok_iff_named.mp (decode_readable hkeys h)
  have hreadable : f ∈ readable fields := by
    refine List.mem_filter.mpr ⟨hf, ?_⟩
    rw [readAlone?_eq_some.mpr hown]
    rfl
  cases hfind : Payload.record.slots.find? (·.isSpelled f.1) with
  | none =>
    rw [named_cons_of_none hfind] at hone
    cases hone
    exact Payload.empty_or _
  | some s =>
    rw [named_cons_of_some hfind] at hone
    have hmem : (s.name, f.2) ∈ named Payload.record.slots (readable fields) :=
      List.mem_filterMap.mpr ⟨f, hreadable, by rw [hfind, Option.map_some]⟩
    have hlookup := lookup_of_mem hnodup hmem
    -- One more value under a name that has it already changes nothing.
    have hboth := Payload.build_cons (fun w hw => Option.some.inj (hw.symm.trans hlookup)) hone hall
    have hsame :
        Payload.record.build ((s.name, f.2) :: named Payload.record.slots (readable fields)) =
          Payload.record.build (named Payload.record.slots (readable fields)) := by
      refine IsLawful.build_congr fun t _ => ?_
      rw [lookup_cons_ite]
      split
      · rename_i heq
        rw [heq, hlookup]
      · rfl
    exact Except.ok.inj (hboth.symm.trans (hsame.trans hall))

theorem checkFields_of_not_givenTwice (id : String) (hkeys : (fields.map (·.1)).Nodup)
    (h : ¬ GivenTwice (readable fields)) :
    checkFields id fields =
      (together (fields.filterMap readAlone?), fields.filterMap (fieldIssue? id)) := by
  have hread := decode_readable hkeys h
  cases hwhole : Payload.decode (.object fields) with
  | ok p =>
    have hall := ((exists_decode_iff hkeys).mp ⟨p, hwhole⟩).2
    rw [readable_of_forall hall, hwhole] at hread
    simp only [checkFields, hwhole, filterMap_fieldIssue?_of_forall hall, Except.ok.inj hread]
  | error m =>
    simp only [checkFields, hwhole, isNone_fieldIssue?]
    rw [← readable, hread]

theorem checkFields_of_givenTwice (id : String) (hkeys : (fields.map (·.1)).Nodup)
    (h : GivenTwice (readable fields)) :
    ∃ m, checkFields id fields =
      ({}, fields.filterMap (fieldIssue? id) ++ [.dataMalformed id m]) := by
  have hnodup := hkeys.sublist (keys_readable fields)
  cases hwhole : Payload.decode (.object fields) with
  | ok p =>
    exact absurd (givenTwice_of_readable h) ((exists_decode_iff hkeys).mp ⟨p, hwhole⟩).1
  | error m =>
    cases hread : Payload.decode (.object (readable fields)) with
    | ok p => exact absurd h ((exists_decode_iff hnodup).mp ⟨p, hread⟩).1
    | error m' =>
      refine ⟨m', ?_⟩
      simp only [checkFields, hwhole, isNone_fieldIssue?]
      rw [← readable, hread]

theorem forall₂_fieldIssue? (id : String) (fields : List (String × Value)) :
    List.Forall₂ (fun f issue => ∃ m, Payload.decode (.object [f]) = .error m ∧
        issue = .fieldMalformed id f.1 m)
      (fields.filter fun f => (readAlone? f).isNone) (fields.filterMap (fieldIssue? id)) := by
  induction fields with
  | nil => exact .nil
  | cons f rest ih =>
    cases hread : Payload.decode (.object [f]) with
    | ok p => simpa [readAlone?, fieldIssue?, hread, Except.toOption] using ih
    | error m => simpa [readAlone?, fieldIssue?, hread, Except.toOption] using ih

/-- Each field of an object was read by itself: what they give is kept together, each that cannot be
read is one issue, in the order of the fields, and if there is none, the object is read as it
stands. -/
structure ReadsEach (id : String) (fields : List (String × Value)) (checked : Checked Payload) :
    Prop where
  together : checked.1 = together (fields.filterMap readAlone?)
  own : ∀ f ∈ fields, ∀ own, Payload.decode (.object [f]) = .ok own → own.IsPartOf checked.1
  issues : List.Forall₂ (fun f issue => ∃ m, Payload.decode (.object [f]) = .error m ∧
      issue = .fieldMalformed id f.1 m)
    (fields.filter fun f => (readAlone? f).isNone) checked.2
  whole : (∀ f ∈ fields, (readAlone? f).isSome = true) →
    Payload.decode (.object fields) = .ok checked.1

theorem checkFields_reads_each (id : String) (hkeys : KeysAscend fields) (h : ¬ GivenTwice fields) :
    ReadsEach id fields (checkFields id fields) := by
  have hreadable : ¬ GivenTwice (readable fields) := fun htwice => h (givenTwice_of_readable htwice)
  rw [checkFields_of_not_givenTwice id hkeys.nodup hreadable]
  refine ⟨rfl, ?_, forall₂_fieldIssue? id fields, ?_⟩
  · intro f hf own hown
    exact isPartOf_together hkeys.nodup hreadable hf hown
  · intro hall
    exact decode_eq_together hall ((nodup_named_iff Payload.keysDistinct hkeys.nodup).mpr h)

theorem checkFields_reads_each_mixed :
    ∃ fields, KeysAscend fields ∧ ¬ GivenTwice fields ∧
      (checkFields "w" fields).1 = { text := some "Hi", webhookUrl := some "u" } ∧
      (checkFields "w" fields).2.length = 3 ∧ ReadsEach "w" fields (checkFields "w" fields) := by
  let fields : List (String × Value) := [
    ("color", .null), ("isStart", .string "yes"), ("method", .bool true), ("name", .null),
    ("options", .array [.string "a", .bool false]), ("text", .string "Hi"), ("url", .string "u")]
  have hkeys : KeysAscend fields := by unfold KeysAscend; decide
  have htwice : ¬ GivenTwice fields := by decide
  exact ⟨fields, hkeys, htwice, by decide, by decide, checkFields_reads_each "w" hkeys htwice⟩

/-- The object that a node was made of: in the list of nodes the first with its identifier. -/
def IsEntryOf (d : Value) (n : Node) (entry : List (String × Value)) : Prop :=
  ∃ fields vs, d = .object fields ∧ fields.lookup "nodes" = some (.array vs) ∧
    vs.find? (fun v => ownId? v == some n.id) = some (.object entry)

/-- What is kept of the fields of a payload: of each that can be read by itself what it gives, as
long as no field can be read under both of its spellings, and nothing otherwise. -/
structure KeepsReadable (fields : List (String × Value)) (p : Payload) : Prop where
  each : ¬ GivenTwice (readable fields) →
    ∀ f ∈ fields, ∀ own, Payload.decode (.object [f]) = .ok own → own.IsPartOf p
  none : GivenTwice (readable fields) → p = {}

theorem keepsReadable_checkFields (id : String) (hkeys : (fields.map (·.1)).Nodup) :
    KeepsReadable fields (checkFields id fields).1 := by
  constructor
  · intro htwice f hf own hown
    rw [checkFields_of_not_givenTwice id hkeys htwice]
    exact isPartOf_together hkeys htwice hf hown
  · intro htwice
    obtain ⟨m, hm⟩ := checkFields_of_givenTwice id hkeys htwice
    rw [hm]

theorem exists_isEntryOf {d : Value} {n : Node} (hn : n ∈ (validate d).nodes) :
    ∃ entry, IsEntryOf d n entry ∧ n.data = (checkData n.id (entry.lookup "data")).1 := by
  cases d with
  | object fields =>
    cases hlookup : fields.lookup "nodes" with
    | none => simp [validate, hlookup] at hn
    | some v =>
      cases v with
      | array vs =>
        rw [validate_object hlookup] at hn
        obtain ⟨entry, hfind, hdata⟩ := exists_entry_of_mem hn
        exact ⟨entry, ⟨fields, vs, rfl, hlookup, hfind⟩, hdata⟩
      | null | bool _ | number _ | string _ | object _ => simp [validate, hlookup] at hn
  | null | bool _ | number _ | string _ | array _ => cases hn

theorem IsEntryOf.isOrdered {d : Value} {n : Node} {entry : List (String × Value)}
    (h : IsEntryOf d n entry) (hd : d.IsOrdered) : (object entry).IsOrdered := by
  obtain ⟨fields, vs, rfl, hlookup, hfind⟩ := h
  exact isOrdered_array_iff.mp (hd.of_lookup hlookup) _ (List.mem_of_find?_eq_some hfind)

/-- Of the payload of a node that is kept, every field that can be read by itself is kept, unless
some field can be read under both of its spellings. -/
theorem validate_keeps_readable {d : Value} (hd : d.IsOrdered) {n : Node}
    (hn : n ∈ (validate d).nodes) :
    ∃ entry, IsEntryOf d n entry ∧
      ∀ fields, entry.lookup "data" = some (.object fields) → KeepsReadable fields n.data := by
  obtain ⟨entry, hentry, hdata⟩ := exists_isEntryOf hn
  refine ⟨entry, hentry, ?_⟩
  intro fields hlookup
  have hkeys := (isOrdered_object_iff.mp ((hentry.isOrdered hd).of_lookup hlookup)).1.nodup
  rw [hdata, hlookup, checkData]
  exact keepsReadable_checkFields n.id hkeys

theorem validate_keeps_readable_mended :
    ∃ d n, d.IsOrdered ∧ (validate d).nodes = [n] ∧
      n.data = { text := some "Hi", webhookUrl := some "u" } ∧
      ∃ entry, IsEntryOf d n entry ∧
        ∀ fields, entry.lookup "data" = some (.object fields) → KeepsReadable fields n.data := by
  let d : Value := .object [
    ("nodes", .array [.object [
      ("data", .object [("name", .bool true), ("text", .string "Hi"), ("url", .string "u"),
        ("webhookUrl", .array [])]),
      ("id", .string "w"), ("type", .string "webhook")]])]
  let n : Node :=
    { id := "w", type := some "webhook", data := { text := some "Hi", webhookUrl := some "u" } }
  have hordered : d.IsOrdered := by decide
  have hnodes : (validate d).nodes = [n] := by decide
  have hn : n ∈ (validate d).nodes := by
    rw [hnodes]
    exact List.mem_singleton_self n
  exact ⟨d, n, hordered, hnodes, rfl, validate_keeps_readable hordered hn⟩

/-- The address of a call under both of its spellings costs a node its text, which has only one. -/
theorem exists_readable_lost :
    ∃ (d : Value) (n : Node) (entry fields : List (String × Value)) (f : String × Value)
      (own : Payload),
      d.IsOrdered ∧ (validate d).nodes = [n] ∧ IsEntryOf d n entry ∧
      entry.lookup "data" = some (.object fields) ∧ f ∈ fields ∧
      Payload.decode (.object [f]) = .ok own ∧
      (∀ s ∈ Payload.record.slots, s.isSpelled f.1 = true → s.spelling = none) ∧
      ¬ own.IsPartOf n.data := by
  let fields : List (String × Value) :=
    [("text", .string "Hi"), ("url", .string "a"), ("webhookUrl", .string "b")]
  let entry : List (String × Value) :=
    [("data", .object fields), ("id", .string "w"), ("type", .string "webhook")]
  let d : Value := .object [("edges", .array []), ("nodes", .array [.object entry])]
  let n : Node := { id := "w", type := some "webhook", data := {} }
  have hentry : IsEntryOf d n entry := ⟨_, _, rfl, rfl, by decide⟩
  have hlost : ¬ Payload.IsPartOf { text := some "Hi" } n.data := by
    unfold Payload.IsPartOf
    decide
  exact ⟨d, n, entry, fields, ("text", .string "Hi"), { text := some "Hi" }, by decide, by decide,
    hentry, rfl, List.mem_cons_self, by decide, by decide, hlost⟩

end Callflow.Editor
