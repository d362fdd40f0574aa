import Callflow.Proofs.Validation

/-!
What it says that the check of a document found nothing amiss. There are fields that the check
passes over without an issue: the name and the description of the chart, the handles, the label and
the data of an edge, and the data of a node that are `null`. A document without an issue is read as
what the check kept of it exactly if there is nothing hidden in these.
-/

namespace Callflow

namespace Json.Record

open Value

variable {α : Type} {fields : List (String × Value)} {name key : String}

theorem decode_object_iff (r : Record α) [IsLawful r]
    (hspelling : ∀ s ∈ r.slots, s.spelling = none) (h : (object fields).IsOrdered) {a : α} :
    r.decode name (.object fields) = .ok a ↔ r.build fields = .ok a := by
  refine ofFields_eq_ok_iff r (isOrdered_object_iff.mp h).1.nodup ?_
  intro key _ s hs hspelled
  simpa [Slot.isSpelled, hspelling s hs] using hspelled

end Json.Record

namespace Editor

open Json Value Record

variable {seen known : List String} {index : Nat} {fields : List (String × Value)} {key : String}

def isTextOrNothing (fields : List (String × Value)) (key : String) : Bool :=
  (textField? fields key).isSome

def nodeHidesNothing : Value → Bool
  | .object fields => fields.lookup "data" != some .null
  | _ => true

def edgeDataHidesNothing : Option Value → Bool
  | none | some .null => true
  | some (.object fields) => isTextOrNothing fields "label"
  | some _ => false

def edgeHidesNothing : Value → Bool
  | .object fields =>
    isTextOrNothing fields "sourceHandle" && isTextOrNothing fields "targetHandle" &&
      isTextOrNothing fields "label" && edgeDataHidesNothing (fields.lookup "data")
  | _ => true

def itemsOf : Option Value → List Value
  | some (.array vs) => vs
  | _ => []

/-- None of the fields that the check passes over holds anything of the wrong type. -/
def hidesNothing : Value → Bool
  | .object fields =>
    isTextOrNothing fields "name" && isTextOrNothing fields "description" &&
      (itemsOf (fields.lookup "nodes")).all nodeHidesNothing &&
      (itemsOf (fields.lookup "edges")).all edgeHidesNothing
  | _ => true

theorem text?_eq_some_iff {s : String} :
    text? fields key = some s ↔ (required key Decoder.text).build fields = .ok s := by
  rw [text?, build_required_eq_ok]
  cases hlookup : fields.lookup key with
  | none => simp
  | some v => cases v <;> simp [string?, Decoder.text, Decoder.refuse]

theorem build_text_iff :
    (optional key Decoder.text).build fields = .ok (text? fields key) ↔
      isTextOrNothing fields key = true := by
  rw [build_optional, isTextOrNothing, textField?, text?]
  cases hlookup : fields.lookup key with
  | none => simp [Decoder.optional]
  | some v =>
    cases v <;> simp [Decoder.optional, Decoder.text, Decoder.refuse, string?, Except.map]

theorem isTextOrNothing_of_some {s : String} (h : text? fields key = some s) :
    isTextOrNothing fields key = true := by
  obtain ⟨v, hv, hread⟩ := build_required_eq_ok.mp (text?_eq_some_iff.mp h)
  cases v with
  | string t => simp [isTextOrNothing, textField?, hv]
  | null | bool _ | number _ | array _ | object _ => cases hread

theorem Node.decode_object_iff (h : (object fields).IsOrdered) {n : Node} :
    Node.decode (.object fields) = .ok n ↔
      (required "id" Decoder.text).build fields = .ok n.id ∧
      (optional "type" Decoder.text).build fields = .ok n.type ∧
      (withDefault {} "data" Payload.decode).build fields = .ok n.data := by
  refine (Record.decode_object_iff Node.record (by decide) h).trans ?_
  rw [Node.record, build_eq_ok_iff]
  simp only [exists_build_seq, exists_build_map]
  constructor
  · rintro ⟨id, hid, type, htype, data, hdata, rfl⟩
    exact ⟨hid, htype, hdata⟩
  · rintro ⟨hid, htype, hdata⟩
    exact ⟨n.id, hid, n.type, htype, n.data, hdata, rfl⟩

theorem EdgeData.decode_object_iff (h : (object fields).IsOrdered) {d : EdgeData} :
    EdgeData.decode (.object fields) = .ok d ↔
      (optional "label" Decoder.text).build fields = .ok d.label := by
  refine (Record.decode_object_iff EdgeData.record (by decide) h).trans ?_
  rw [EdgeData.record, build_map_eq_ok]
  constructor
  · rintro ⟨label, hlabel, rfl⟩
    exact hlabel
  · intro hlabel
    exact ⟨d.label, hlabel, rfl⟩

theorem Edge.decode_object_iff (h : (object fields).IsOrdered) {e : Edge} :
    Edge.decode (.object fields) = .ok e ↔
      (required "id" Decoder.text).build fields = .ok e.id ∧
      (required "source" Decoder.text).build fields = .ok e.source ∧
      (required "target" Decoder.text).build fields = .ok e.target ∧
      (optional "sourceHandle" Decoder.text).build fields = .ok e.sourceHandle ∧
      (optional "targetHandle" Decoder.text).build fields = .ok e.targetHandle ∧
      (optional "label" Decoder.text).build fields = .ok e.label ∧
      (optional "data" EdgeData.decode).build fields = .ok e.data := by
  refine (Record.decode_object_iff Edge.record (by decide) h).trans ?_
  rw [Edge.record, build_eq_ok_iff]
  simp only [exists_build_seq, exists_build_map]
  constructor
  · rintro ⟨id, hid, source, hsource, target, htarget, sourceHandle, hsourceHandle, targetHandle,
      htargetHandle, label, hlabel, data, hdata, rfl⟩
    exact ⟨hid, hsource, htarget, hsourceHandle, htargetHandle, hlabel, hdata⟩
  · rintro ⟨hid, hsource, htarget, hsourceHandle, htargetHandle, hlabel, hdata⟩
    exact ⟨e.id, hid, e.source, hsource, e.target, htarget, e.sourceHandle, hsourceHandle,
      e.targetHandle, htargetHandle, e.label, hlabel, e.data, hdata, rfl⟩

theorem Document.decode_object_iff (h : (object fields).IsOrdered) {d : Document} :
    Document.decode (.object fields) = .ok d ↔
      (required "nodes" (Decoder.list Node.decode)).build fields = .ok d.nodes ∧
      (withDefault [] "edges" (Decoder.list Edge.decode)).build fields = .ok d.edges ∧
      (optional "name" Decoder.text).build fields = .ok d.name ∧
      (optional "description" Decoder.text).build fields = .ok d.description := by
  refine (Record.decode_object_iff Document.record (by decide) h).trans ?_
  rw [Document.record, build_eq_ok_iff]
  simp only [exists_build_seq, exists_build_map]
  constructor
  · rintro ⟨nodes, hnodes, edges, hedges, name, hname, description, hdescription, rfl⟩
    exact ⟨hnodes, hedges, hname, hdescription⟩
  · rintro ⟨hnodes, hedges, hname, hdescription⟩
    exact ⟨d.nodes, hnodes, d.edges, hedges, d.name, hname, d.description, hdescription, rfl⟩

theorem eq_of_checkTag {id : String} {tag : Option String} (h : (checkTag id tag).2 = []) :
    tag = some (checkTag id tag).1 := by
  cases tag with
  | none => cases h
  | some tag =>
    by_cases hknown : (NodeType.ofTag? tag).isSome = true
    · rw [checkTag_of_isSome id hknown]
    · rw [checkTag, if_neg hknown] at h
      cases h

theorem decode_of_checkFields {id : String} (h : (checkFields id fields).2 = []) :
    Payload.decode (.object fields) = .ok (checkFields id fields).1 := by
  cases hread : Payload.decode (.object fields) with
  | ok p => simp only [checkFields, hread]
  | error m =>
    exfalso
    simp only [checkFields, hread] at h
    by_cases hissues : fields.filterMap (fieldIssue? id) = []
    · have hall : (fields.filter fun f => (fieldIssue? id f).isNone) = fields := by
        refine List.filter_eq_self.mpr ?_
        intro f hf
        rw [List.filterMap_eq_nil_iff.mp hissues f hf]
        rfl
      rw [hall, hread] at h
      exact List.append_ne_nil_of_right_ne_nil _ (List.cons_ne_nil _ _) h
    · split at h
      · exact hissues h
      · exact hissues (List.append_eq_nil_iff.mp h).1

theorem build_data_iff {id : String} (h : (checkData id (fields.lookup "data")).2 = []) :
    (withDefault {} "data" Payload.decode).build fields =
        .ok (checkData id (fields.lookup "data")).1 ↔
      fields.lookup "data" ≠ some .null := by
  rw [build_withDefault]
  cases hlookup : fields.lookup "data" with
  | none => simp [checkData]
  | some v =>
    rw [hlookup] at h
    cases v with
    | null =>
      refine iff_of_false ?_ (· rfl)
      intro hread
      cases hread
    | object fs =>
      refine iff_of_true (decode_of_checkFields h) ?_
      intro hnull
      cases hnull
    | bool _ | number _ | string _ | array _ => cases h

theorem decode_iff_of_checkNode {v : Value} {n : Node} (hv : v.IsOrdered)
    (h : checkNode seen index v = (some n, [])) :
    Node.decode v = .ok n ↔ nodeHidesNothing v = true := by
  obtain ⟨_, hcheck⟩ | ⟨fields, id, rfl, hid, _, _, hcheck⟩ := checkNode_cases seen index v
  · rw [hcheck] at h
    cases h
  · rw [hcheck] at h
    obtain ⟨hn, hissues⟩ := Prod.mk.inj h
    obtain rfl := Option.some.inj hn
    obtain ⟨htag, hdata⟩ := List.append_eq_nil_iff.mp hissues
    have htype := eq_of_checkTag htag
    have hread := build_text_iff.mpr (isTextOrNothing_of_some htype)
    rw [Node.decode_object_iff hv, nodeHidesNothing, bne_iff_ne, ← build_data_iff hdata]
    exact ⟨fun h => h.2.2, fun h => ⟨text?_eq_some_iff.mp hid, htype ▸ hread, h⟩⟩

theorem build_edgeData_iff (h : (object fields).IsOrdered) :
    (optional "data" EdgeData.decode).build fields =
        .ok (((fields.lookup "data").bind object?).map fun d => ⟨text? d "label"⟩) ↔
      edgeDataHidesNothing (fields.lookup "data") = true := by
  rw [build_optional, optional_eq_ok]
  cases hlookup : fields.lookup "data" with
  | none => simp [edgeDataHidesNothing]
  | some v =>
    cases v with
    | null => simp [edgeDataHidesNothing, object?]
    | object fs =>
      have hread := EdgeData.decode_object_iff (h.of_lookup hlookup) (d := ⟨text? fs "label"⟩)
      rw [build_text_iff] at hread
      simpa [edgeDataHidesNothing, object?] using hread
    | bool _ | number _ | string _ | array _ => simp [edgeDataHidesNothing, object?]

theorem decode_iff_of_checkEdge {v : Value} {e : Edge} (hv : v.IsOrdered)
    (h : checkEdge known index v = (some e, [])) :
    Edge.decode v = .ok e ↔ edgeHidesNothing v = true := by
  obtain ⟨_, hcheck⟩ | ⟨fields, id, source, target, issues, rfl, hsource, htarget, _, _, hid,
    hcheck⟩ := checkEdge_cases known index v
  · rw [hcheck] at h
    cases h
  · rw [hcheck] at h
    obtain ⟨he, hissues⟩ := Prod.mk.inj h
    obtain rfl := Option.some.inj he
    obtain ⟨hid, _⟩ | ⟨_, hne⟩ := hid
    · rw [Edge.decode_object_iff hv]
      simp only [text?_eq_some_iff.mp hid, text?_eq_some_iff.mp hsource,
        text?_eq_some_iff.mp htarget, build_text_iff, build_edgeData_iff hv, edgeHidesNothing,
        Bool.and_eq_true, true_and, and_assoc]
    · exact absurd hissues hne

theorem items_cons_iff {α : Type} {item : Decoder α} {v : Value} {vs : List Value} {a : α}
    {as : List α} :
    Decoder.items item (v :: vs) = .ok (a :: as) ↔
      item v = .ok a ∧ Decoder.items item vs = .ok as := by
  rw [items_eq_ok_iff, items_eq_ok_iff, List.forall₂_cons]

theorem checkNode_issues_of_none {v : Value} (h : (checkNode seen index v).1 = none) :
    (checkNode seen index v).2 ≠ [] := by
  obtain ⟨_, hcheck⟩ | ⟨_, _, _, _, _, _, hcheck⟩ := checkNode_cases seen index v
  · rw [hcheck]
    exact List.cons_ne_nil _ _
  · rw [hcheck] at h
    cases h

theorem checkEdge_issues_of_none {v : Value} (h : (checkEdge known index v).1 = none) :
    (checkEdge known index v).2 ≠ [] := by
  obtain ⟨_, hcheck⟩ | ⟨_, _, _, _, _, _, _, _, _, _, _, hcheck⟩ := checkEdge_cases known index v
  · rw [hcheck]
    exact List.cons_ne_nil _ _
  · rw [hcheck] at h
    cases h

theorem items_iff_of_checkNodes {vs : List Value} (hvs : ∀ v ∈ vs, v.IsOrdered)
    (h : (checkNodes seen index vs).2 = []) :
    Decoder.items Node.decode vs = .ok (checkNodes seen index vs).1 ↔
      vs.all nodeHidesNothing = true := by
  induction vs generalizing seen index with
  | nil => exact iff_of_true rfl rfl
  | cons v rest ih =>
    have hrest : ∀ w ∈ rest, w.IsOrdered := fun w hw => hvs w (List.mem_cons_of_mem _ hw)
    cases hcheck : (checkNode seen index v).1 with
    | none =>
      rw [checkNodes_cons_of_none (Prod.ext hcheck rfl)] at h
      exact absurd (List.append_eq_nil_iff.mp h).1 (checkNode_issues_of_none hcheck)
    | some n =>
      rw [checkNodes_cons_of_some (Prod.ext hcheck rfl)] at h ⊢
      obtain ⟨hnode, hmore⟩ := List.append_eq_nil_iff.mp h
      have hn := decode_iff_of_checkNode (hvs v List.mem_cons_self) (Prod.ext hcheck hnode)
      rw [items_cons_iff, hn, ih hrest hmore, List.all_cons, Bool.and_eq_true]

theorem items_iff_of_checkEdges {es : List Value} (hes : ∀ v ∈ es, v.IsOrdered)
    (h : (checkEdges known index es).2 = []) :
    Decoder.items Edge.decode es = .ok (checkEdges known index es).1 ↔
      es.all edgeHidesNothing = true := by
  induction es generalizing index with
  | nil => exact iff_of_true rfl rfl
  | cons v rest ih =>
    have hrest : ∀ w ∈ rest, w.IsOrdered := fun w hw => hes w (List.mem_cons_of_mem _ hw)
    obtain ⟨hedge, hmore⟩ := List.append_eq_nil_iff.mp h
    cases hcheck : (checkEdge known index v).1 with
    | none => exact absurd hedge (checkEdge_issues_of_none hcheck)
    | some e =>
      have hkept : (checkEdges known index (v :: rest)).1 =
          e :: (checkEdges known (index + 1) rest).1 := by
        simp only [checkEdges, hcheck, Option.toList_some, List.singleton_append]
      have he := decode_iff_of_checkEdge (hes v List.mem_cons_self) (Prod.ext hcheck hedge)
      rw [hkept, items_cons_iff, he, ih hrest hmore, List.all_cons, Bool.and_eq_true]

theorem exists_of_isValid {d : Value} (h : (validate d).isValid = true) :
    ∃ fields vs es, d = .object fields ∧ fields.lookup "nodes" = some (.array vs) ∧
      fields.lookup "edges" = some (.array es) := by
  rw [Report.isValid, List.isEmpty_iff] at h
  obtain ⟨fields, vs, rfl, hnodes⟩ | ⟨_, hissues⟩ := validate_cases d
  case inr => exact absurd h hissues
  rw [validate_object hnodes] at h
  obtain ⟨_, hedgeIssues⟩ := List.append_eq_nil_iff.mp h
  cases hedges : fields.lookup "edges" with
  | none =>
    rw [hedges] at hedgeIssues
    cases hedgeIssues
  | some v =>
    rw [hedges] at hedgeIssues
    cases v with
    | array es => exact ⟨fields, vs, es, rfl, hnodes, hedges⟩
    | null | bool _ | number _ | string _ | object _ => cases hedgeIssues

/-- A document without an issue is read as what the check kept of it exactly if the fields that the
check passes over hide nothing. -/
theorem decode_iff_hidesNothing {d : Value} (hd : d.IsOrdered)
    (h : (validate d).isValid = true) :
    Document.decode d = .ok (validate d).toDocument ↔ hidesNothing d = true := by
  obtain ⟨fields, vs, es, rfl, hnodes, hedges⟩ := exists_of_isValid h
  rw [Report.isValid, List.isEmpty_iff, validate_object hnodes, hedges] at h
  obtain ⟨hnodeIssues, hedgeIssues⟩ := List.append_eq_nil_iff.mp h
  have hvs := items_iff_of_checkNodes (isOrdered_array_iff.mp (hd.of_lookup hnodes)) hnodeIssues
  have hes := items_iff_of_checkEdges (isOrdered_array_iff.mp (hd.of_lookup hedges)) hedgeIssues
  have hlist : (∃ v, some (array vs) = some v ∧
      Decoder.list Node.decode v = .ok (checkNodes [] 0 vs).1) ↔ vs.all nodeHidesNothing = true := by
    constructor
    · rintro ⟨_, ⟨⟩, hread⟩
      exact hvs.mp hread
    · intro hshown
      exact ⟨_, rfl, hvs.mpr hshown⟩
  rw [Document.decode_object_iff hd, build_required_eq_ok, build_withDefault, validate_object hnodes,
    hidesNothing, hnodes, hedges, Report.toDocument, build_text_iff, build_text_iff, hlist]
  simp only [Bool.and_eq_true, itemsOf]
  constructor
  · rintro ⟨hn, he, hname, hdescription⟩
    exact ⟨⟨⟨hname, hdescription⟩, hn⟩, hes.mp he⟩
  · rintro ⟨⟨⟨hname, hdescription⟩, hn⟩, he⟩
    exact ⟨hn, hes.mpr he, hname, hdescription⟩

theorem decode_iff_hidesNothing_plain :
    ∃ d : Value, (validate d).isValid = true ∧ d.IsOrdered ∧
      (Document.decode d = .ok (validate d).toDocument ↔ hidesNothing d = true) ∧
      hidesNothing d = true :=
  let d : Value := .object [
    ("edges", .array [.object [("data", .object [("label", .string "on")]), ("id", .string "e"),
      ("source", .string "a"), ("target", .string "a")]]),
    ("name", .null),
    ("nodes", .array [.object [("data", .object [("text", .string "Hi")]), ("id", .string "a"),
      ("type", .string "start")]])]
  ⟨d, by decide, by decide, decode_iff_hidesNothing (by decide) (by decide), by decide⟩

/-- A number for the name of the chart is no issue, but it cannot be read. -/
theorem exists_isValid_not_read :
    ∃ d : Value, d.IsOrdered ∧ (validate d).isValid = true ∧
      Document.decode d = .error (.wrongType (.ofValue (.number (.int 5 (by decide)))) .text) :=
  ⟨.object [
    ("edges", .array []),
    ("name", .number (.int 5 (by decide))),
    ("nodes", .array [])], by decide, by decide, by decide⟩

end Editor

end Callflow
