import Callflow.Editor.Validation
import Callflow.Proofs.EditorDocument

/-!
What the check of a document does to one that is written from the typed form: payloads pass, a node
is left out only for its identifier, and an edge only for its ends. So what a check keeps passes the
check without an issue.
-/

namespace Callflow.Editor

open Json Value Record

variable {seen known : List String} {index : Nat}

theorem text?_written {entries : List (String × Option Value)} {key : String} {a : Option String}
    (hkeys : (entries.map (·.1)).Nodup) (hfield : entries.lookup key = some (a.map .string)) :
    text? (written entries) key = a := by
  rw [text?, lookup_written hkeys, hfield]
  cases a <;> rfl

theorem nonEmpty?_eq_some {s : Option String} {t : String} :
    nonEmpty? s = some t ↔ s = some t ∧ t ≠ "" := by
  simp [nonEmpty?]

theorem nonEmpty?_some (s : String) : nonEmpty? (some s) = if s = "" then none else some s := by
  by_cases h : s = "" <;> simp [nonEmpty?, Option.filter, h]

theorem checkData_written (id : String) {p : Payload} (h : p.IsWritable) :
    checkData id (some p.encode.ordered) = (p, []) := by
  have hread := Payload.decode_written h
  rw [Payload.encode_eq, ordered_present] at hread ⊢
  simp only [checkData, checkFields, hread]

theorem Node.keys_nodup (n : Node) : (n.entries.map (·.1)).Nodup := n.suits.2.1

theorem checkNode_written (seen : List String) (index : Nat) {n : Node} (h : n.data.IsWritable) :
    checkNode seen index n.encode.ordered =
      if n.id = "" then (none, [.nodeWithoutId index])
      else if n.id ∈ seen then (none, [.nodeRepeated n.id])
      else
        (some { n with type := some (checkTag n.id n.type).1 }, (checkTag n.id n.type).2) := by
  have hid : text? (written n.entries) "id" = some n.id := text?_written n.keys_nodup rfl
  have htype : text? (written n.entries) "type" = n.type := text?_written n.keys_nodup rfl
  have hdata : (written n.entries).lookup "data" = some n.data.encode.ordered := by
    rw [lookup_written n.keys_nodup]
    rfl
  rw [Node.encode_eq, ordered_present]
  by_cases hempty : n.id = ""
  · simp only [checkNode, hid, nonEmpty?_some, hempty, if_true]
  · simp only [checkNode, hid, nonEmpty?_some, htype, hdata, hempty, if_false,
      checkData_written n.id h, List.append_nil]

theorem Edge.keys_nodup (e : Edge) : (e.entries.map (·.1)).Nodup := e.suits.2.1

theorem edgeData_written (d : Option EdgeData) :
    (((d.map EdgeData.encode).map ordered).bind object?).map
      (fun fields => EdgeData.mk (text? fields "label")) = d := by
  cases d with
  | none => rfl
  | some d =>
    obtain ⟨label⟩ := d
    cases label <;> rfl

theorem checkEdge_written (known : List String) (index : Nat) (e : Edge) :
    checkEdge known index e.encode.ordered =
      if e.source ∈ known ∧ e.target ∈ known then
        if e.id = "" then
          (some { e with id := "e-" ++ e.source ++ "-" ++ e.target },
            [.edgeWithoutId e.source e.target ("e-" ++ e.source ++ "-" ++ e.target)])
        else (some e, [])
      else (none, [.edgeToNowhere e.source e.target]) := by
  have hid : text? (written e.entries) "id" = some e.id := text?_written e.keys_nodup rfl
  have hsource : text? (written e.entries) "source" = some e.source :=
    text?_written e.keys_nodup rfl
  have htarget : text? (written e.entries) "target" = some e.target :=
    text?_written e.keys_nodup rfl
  have hsourceHandle : text? (written e.entries) "sourceHandle" = e.sourceHandle :=
    text?_written e.keys_nodup rfl
  have htargetHandle : text? (written e.entries) "targetHandle" = e.targetHandle :=
    text?_written e.keys_nodup rfl
  have hlabel : text? (written e.entries) "label" = e.label := text?_written e.keys_nodup rfl
  have hdata : (written e.entries).lookup "data" = (e.data.map EdgeData.encode).map ordered := by
    rw [lookup_written e.keys_nodup]
    rfl
  rw [Edge.encode_eq, ordered_present]
  by_cases hends : e.source ∈ known ∧ e.target ∈ known
  · by_cases hempty : e.id = "" <;>
      simp only [checkEdge, hsource, htarget, hends, hid, nonEmpty?_some, hempty, hsourceHandle,
        htargetHandle, hlabel, hdata, edgeData_written, and_self, if_true, if_false]
  · simp only [checkEdge, hsource, htarget, hends, if_false]

/-- A node is left out with an issue, or kept with a tag and data of its own. -/
theorem checkNode_cases (seen : List String) (index : Nat) (v : Value) :
    (∃ issue, checkNode seen index v = (none, [issue])) ∨
      ∃ fields id, v = .object fields ∧ text? fields "id" = some id ∧ id ≠ "" ∧ id ∉ seen ∧
        checkNode seen index v =
          (some ⟨id, some (checkTag id (text? fields "type")).1,
            (checkData id (fields.lookup "data")).1⟩,
            (checkTag id (text? fields "type")).2 ++ (checkData id (fields.lookup "data")).2) := by
  cases v with
  | object fields =>
    cases hid : nonEmpty? (text? fields "id") with
    | none => exact .inl ⟨.nodeWithoutId index, by simp only [checkNode, hid]⟩
    | some id =>
      obtain ⟨htext, hne⟩ := nonEmpty?_eq_some.mp hid
      by_cases hseen : id ∈ seen
      · exact .inl ⟨.nodeRepeated id, by simp only [checkNode, hid, if_pos hseen]⟩
      · refine .inr ⟨fields, id, rfl, htext, hne, hseen, ?_⟩
        simp only [checkNode, hid, if_neg hseen]
  | null | bool _ | number _ | string _ | array _ => exact .inl ⟨.nodeNotObject index, rfl⟩

/-- An edge is left out with an issue, or kept between known nodes, under its own identifier or,
with an issue, under one that is made of its ends. -/
theorem checkEdge_cases (known : List String) (index : Nat) (v : Value) :
    (∃ issue, checkEdge known index v = (none, [issue])) ∨
      ∃ fields id source target issues, v = .object fields ∧
        text? fields "source" = some source ∧ text? fields "target" = some target ∧
        source ∈ known ∧ target ∈ known ∧
        (text? fields "id" = some id ∧ id ≠ "" ∨
          id = "e-" ++ source ++ "-" ++ target ∧ issues ≠ []) ∧
        checkEdge known index v =
          (some {
            id, source, target
            sourceHandle := text? fields "sourceHandle"
            targetHandle := text? fields "targetHandle"
            label := text? fields "label"
            data := ((fields.lookup "data").bind object?).map fun d => ⟨text? d "label"⟩ },
            issues) := by
  cases v with
  | object fields =>
    cases hsource : text? fields "source" with
    | none => exact .inl ⟨.edgeWithoutEnds index, by simp only [checkEdge, hsource]⟩
    | some source =>
      cases htarget : text? fields "target" with
      | none => exact .inl ⟨.edgeWithoutEnds index, by simp only [checkEdge, hsource, htarget]⟩
      | some target =>
        by_cases hends : source ∈ known ∧ target ∈ known
        · cases hid : nonEmpty? (text? fields "id") with
          | none =>
            refine .inr ⟨fields, "e-" ++ source ++ "-" ++ target, source, target,
              [.edgeWithoutId source target ("e-" ++ source ++ "-" ++ target)], rfl, hsource,
              htarget, hends.1, hends.2, .inr ⟨rfl, List.cons_ne_nil _ _⟩, ?_⟩
            simp only [checkEdge, hsource, htarget, if_pos hends, hid]
          | some id =>
            refine .inr ⟨fields, id, source, target, [], rfl, hsource, htarget, hends.1, hends.2,
              .inl (nonEmpty?_eq_some.mp hid), ?_⟩
            simp only [checkEdge, hsource, htarget, if_pos hends, hid]
        · refine .inl ⟨.edgeToNowhere source target, ?_⟩
          simp only [checkEdge, hsource, htarget, if_neg hends]
  | null | bool _ | number _ | string _ | array _ => exact .inl ⟨.edgeNotObject index, rfl⟩

theorem checkNodes_cons_of_some {v : Value} {rest : List Value} {n : Node} {issues : List Issue}
    (h : checkNode seen index v = (some n, issues)) :
    checkNodes seen index (v :: rest) =
      (n :: (checkNodes (n.id :: seen) (index + 1) rest).1,
        issues ++ (checkNodes (n.id :: seen) (index + 1) rest).2) := by
  simp only [checkNodes, h]

theorem checkNodes_cons_of_none {v : Value} {rest : List Value} {issues : List Issue}
    (h : checkNode seen index v = (none, issues)) :
    checkNodes seen index (v :: rest) =
      ((checkNodes seen (index + 1) rest).1,
        issues ++ (checkNodes seen (index + 1) rest).2) := by
  simp only [checkNodes, h]

def checkEdgeList (known : List String) : Option Value → Checked (List Edge)
  | some (.array es) => checkEdges known 0 es
  | some _ => ([], [.edgesNotArray])
  | none => ([], [.edgesMissing])

theorem validate_object {fields : List (String × Value)} {vs : List Value}
    (h : fields.lookup "nodes" = some (.array vs)) :
    validate (.object fields) =
      { issues := (checkNodes [] 0 vs).2 ++ (checkEdgeList ((checkNodes [] 0 vs).1.map (·.id))
          (fields.lookup "edges")).2
        hasNodeList := true
        nodes := (checkNodes [] 0 vs).1
        edges := (checkEdgeList ((checkNodes [] 0 vs).1.map (·.id)) (fields.lookup "edges")).1
        name := text? fields "name"
        description := text? fields "description" } := by
  cases hedges : fields.lookup "edges" with
  | none => simp only [validate, h, hedges, checkEdgeList]
  | some es => cases es <;> simp only [validate, h, hedges, checkEdgeList]

theorem validate_cases (d : Value) :
    (∃ fields vs, d = .object fields ∧ fields.lookup "nodes" = some (.array vs)) ∨
      (validate d).hasNodeList = false ∧ (validate d).issues ≠ [] := by
  cases d with
  | object fields =>
    cases hnodes : fields.lookup "nodes" with
    | none => exact .inr (by simp [validate, hnodes])
    | some v =>
      cases v with
      | array vs => exact .inl ⟨fields, vs, rfl, hnodes⟩
      | null | bool _ | number _ | string _ | object _ => exact .inr (by simp [validate, hnodes])
  | null | bool _ | number _ | string _ | array _ => exact .inr ⟨rfl, List.cons_ne_nil _ _⟩

theorem exists_of_hasNodeList {d : Value} (h : (validate d).hasNodeList = true) :
    ∃ fields vs, d = .object fields ∧ fields.lookup "nodes" = some (.array vs) := by
  rcases validate_cases d with hobject | ⟨hnone, _⟩
  · exact hobject
  · exact absurd h (Bool.eq_false_iff.mp hnone)

structure Node.IsKept (n : Node) : Prop where
  id : n.id ≠ ""
  tag : ∃ tag, n.type = some tag ∧ (NodeType.ofTag? tag).isSome = true
  data : n.data.IsWritable

structure Edge.IsKept (known : List String) (e : Edge) : Prop where
  id : e.id ≠ ""
  source : e.source ∈ known
  target : e.target ∈ known

theorem isSome_ofTag?_checkTag (id : String) (tag : Option String) :
    (NodeType.ofTag? (checkTag id tag).1).isSome = true := by
  have hfallback : (NodeType.ofTag? fallbackTag).isSome = true := by decide
  cases tag with
  | none => exact hfallback
  | some tag =>
    by_cases h : (NodeType.ofTag? tag).isSome = true
    · rw [checkTag, if_pos h]
      exact h
    · rw [checkTag, if_neg h]
      exact hfallback

theorem checkTag_of_isSome (id : String) {tag : String}
    (h : (NodeType.ofTag? tag).isSome = true) : checkTag id (some tag) = (tag, []) := by
  simp only [checkTag, h, if_true]

theorem isWritable_checkFields (id : String) {fields : List (String × Value)}
    (h : (object fields).IsOrdered) : (checkFields id fields).1.IsWritable := by
  obtain ⟨hkeys, hvalues⟩ := isOrdered_object_iff.mp h
  rw [checkFields]
  split
  · rename_i p hread
    exact Payload.isWritable_of_decode hread h
  · split
    · rename_i p hread
      refine Payload.isWritable_of_decode hread (isOrdered_object_iff.mpr ⟨hkeys.filter _, ?_⟩)
      exact fun f hf => hvalues f (List.mem_filter.mp hf).1
    · exact Payload.isWritable_empty

theorem isWritable_checkData (id : String) {data : Option Value} (h : ∀ v ∈ data, v.IsOrdered) :
    (checkData id data).1.IsWritable := by
  cases data with
  | none => exact Payload.isWritable_empty
  | some v =>
    cases v with
    | object fields => exact isWritable_checkFields id (h _ rfl)
    | null | bool _ | number _ | string _ | array _ => exact Payload.isWritable_empty

theorem id_checkNode {v : Value} {n : Node} (h : (checkNode seen index v).1 = some n) :
    n.id ≠ "" ∧ n.id ∉ seen := by
  obtain ⟨_, hcheck⟩ | ⟨fields, id, rfl, _, hne, hseen, hcheck⟩ := checkNode_cases seen index v
  · rw [hcheck] at h
    cases h
  · rw [hcheck] at h
    obtain rfl := Option.some.inj h
    exact ⟨hne, hseen⟩

theorem isKept_checkNode {v : Value} {n : Node} (hv : v.IsOrdered)
    (h : (checkNode seen index v).1 = some n) : n.IsKept := by
  obtain ⟨_, hcheck⟩ | ⟨fields, id, rfl, _, hne, _, hcheck⟩ := checkNode_cases seen index v
  · rw [hcheck] at h
    cases h
  · rw [hcheck] at h
    obtain rfl := Option.some.inj h
    have htag := isSome_ofTag?_checkTag id (text? fields "type")
    have hdata : (checkData id (fields.lookup "data")).1.IsWritable :=
      isWritable_checkData id fun w hw => hv.of_lookup hw
    exact ⟨hne, ⟨(checkTag id (text? fields "type")).1, rfl, htag⟩, hdata⟩

/-- What a check makes sure of in every node holds of all that are kept, and their identifiers differ
from one another and from those that were seen. -/
theorem forall_checkNodes {p : Node → Prop} (seen : List String) (index : Nat) (vs : List Value)
    (hp : ∀ v ∈ vs, ∀ seen index n, (checkNode seen index v).1 = some n → p n) :
    (∀ n ∈ (checkNodes seen index vs).1, p n ∧ n.id ∉ seen) ∧
      ((checkNodes seen index vs).1.map (·.id)).Nodup := by
  induction vs generalizing seen index with
  | nil => exact ⟨List.forall_mem_nil _, List.nodup_nil⟩
  | cons v rest ih =>
    have hrest := fun w hw => hp w (List.mem_cons_of_mem _ hw)
    cases hcheck : (checkNode seen index v).1 with
    | none =>
      rw [checkNodes_cons_of_none (Prod.ext hcheck rfl)]
      exact ih seen (index + 1) hrest
    | some n =>
      -- The rest is checked with this identifier among those that were seen.
      obtain ⟨hmore, hnodup⟩ := ih (n.id :: seen) (index + 1) hrest
      rw [checkNodes_cons_of_some (Prod.ext hcheck rfl)]
      refine ⟨?_, List.nodup_cons.mpr ⟨?_, hnodup⟩⟩
      · intro m hm
        rcases List.mem_cons.mp hm with rfl | hm
        · exact ⟨hp v List.mem_cons_self seen index m hcheck, (id_checkNode hcheck).2⟩
        · exact ⟨(hmore m hm).1, fun h => (hmore m hm).2 (List.mem_cons_of_mem _ h)⟩
      · intro hmem
        obtain ⟨m, hm, heq⟩ := List.mem_map.mp hmem
        refine (hmore m hm).2 ?_
        rw [heq]
        exact List.mem_cons_self

theorem isKept_checkNodes (seen : List String) (index : Nat) {vs : List Value}
    (hvs : ∀ v ∈ vs, v.IsOrdered) :
    (∀ n ∈ (checkNodes seen index vs).1, n.IsKept ∧ n.id ∉ seen) ∧
      ((checkNodes seen index vs).1.map (·.id)).Nodup :=
  forall_checkNodes seen index vs fun v hv _ _ _ => isKept_checkNode (hvs v hv)

theorem madeId_ne_empty (source target : String) : "e-" ++ source ++ "-" ++ target ≠ "" := by
  intro h
  have hlength := congrArg String.length h
  simp only [String.length_append] at hlength
  have he : "e-".length = 2 := by decide
  have hempty : "".length = 0 := by decide
  omega

theorem isKept_checkEdge {v : Value} {e : Edge} (h : (checkEdge known index v).1 = some e) :
    e.IsKept known := by
  obtain ⟨_, hcheck⟩ | ⟨fields, id, source, target, _, rfl, _, _, hsource, htarget, hid, hcheck⟩ :=
    checkEdge_cases known index v
  · rw [hcheck] at h
    cases h
  · rw [hcheck] at h
    obtain rfl := Option.some.inj h
    refine ⟨?_, hsource, htarget⟩
    rcases hid with ⟨_, hne⟩ | ⟨hmade, _⟩
    · exact hne
    · exact hmade ▸ madeId_ne_empty source target

theorem isKept_checkEdges (es : List Value) :
    ∀ e ∈ (checkEdges known index es).1, e.IsKept known := by
  induction es generalizing index with
  | nil => exact nofun
  | cons v rest ih =>
    intro e he
    rcases List.mem_append.mp he with he | he
    · exact isKept_checkEdge (Option.mem_toList.mp he)
    · exact ih e he

theorem isKept_checkEdgeList (known : List String) (edges : Option Value) :
    ∀ e ∈ (checkEdgeList known edges).1, e.IsKept known := by
  cases edges with
  | none => exact nofun
  | some v =>
    cases v with
    | array es => exact isKept_checkEdges es
    | null | bool _ | number _ | string _ | object _ => exact nofun

theorem checkNodes_of_isKept {ns : List Node} (hkept : ∀ n ∈ ns, n.IsKept ∧ n.id ∉ seen)
    (hnodup : (ns.map (·.id)).Nodup) :
    checkNodes seen index (ns.map fun n => n.encode.ordered) = (ns, []) := by
  induction ns generalizing seen index with
  | nil => rfl
  | cons n rest ih =>
    obtain ⟨hn, hseen⟩ := hkept n List.mem_cons_self
    obtain ⟨hfresh, hrest⟩ := List.nodup_cons.mp hnodup
    obtain ⟨tag, htag, hknown⟩ := hn.tag
    have hcheck : checkNode seen index n.encode.ordered = (some n, []) := by
      rw [checkNode_written seen index hn.data, if_neg hn.id, if_neg hseen, htag,
        checkTag_of_isSome _ hknown, ← htag]
    have hmore := @ih (n.id :: seen) (index + 1) ?_ hrest
    · rw [List.map_cons, checkNodes_cons_of_some hcheck, hmore]
      rfl
    · intro m hm
      obtain ⟨hkept', hseen'⟩ := hkept m (List.mem_cons_of_mem _ hm)
      refine ⟨hkept', ?_⟩
      intro hmem
      rcases List.mem_cons.mp hmem with heq | hmem
      · exact hfresh (List.mem_map.mpr ⟨m, hm, heq⟩)
      · exact hseen' hmem

theorem checkEdges_of_isKept {es : List Edge} (h : ∀ e ∈ es, e.IsKept known) :
    checkEdges known index (es.map fun e => e.encode.ordered) = (es, []) := by
  induction es generalizing index with
  | nil => rfl
  | cons e rest ih =>
    have he := h e List.mem_cons_self
    have hcheck : checkEdge known index e.encode.ordered = (some e, []) := by
      rw [checkEdge_written, if_pos ⟨he.source, he.target⟩, if_neg he.id]
    have hmore := @ih (index + 1) fun f hf => h f (List.mem_cons_of_mem _ hf)
    rw [List.map_cons, checkEdges, hcheck, hmore]
    rfl

theorem Document.keys_nodup (d : Document) : (d.entries.map (·.1)).Nodup := d.suits.2.1

theorem validate_toValue (d : Document) :
    ∃ nodeIssues edgeIssues nodes edges,
      checkNodes [] 0 (d.nodes.map fun n => n.encode.ordered) = (nodes, nodeIssues) ∧
      checkEdges (nodes.map (·.id)) 0 (d.edges.map fun e => e.encode.ordered) =
        (edges, edgeIssues) ∧
      validate d.toValue = {
        issues := nodeIssues ++ edgeIssues
        hasNodeList := true
        nodes, edges
        name := d.name
        description := d.description } := by
  have hnodes : (written d.entries).lookup "nodes" =
      some (.array (d.nodes.map fun n => n.encode.ordered)) := by
    rw [lookup_written d.keys_nodup]
    exact congrArg some ((ordered_array _).trans (by rw [List.map_map]; rfl))
  have hedges : (written d.entries).lookup "edges" =
      some (.array (d.edges.map fun e => e.encode.ordered)) := by
    rw [lookup_written d.keys_nodup]
    exact congrArg some ((ordered_array _).trans (by rw [List.map_map]; rfl))
  have hname : text? (written d.entries) "name" = d.name := text?_written d.keys_nodup rfl
  have hdescription : text? (written d.entries) "description" = d.description :=
    text?_written d.keys_nodup rfl
  refine ⟨_, _, _, _, rfl, rfl, ?_⟩
  rw [Document.toValue, Document.encode_eq, ordered_present, validate_object hnodes, hedges, hname,
    hdescription]
  rfl

/-- The check of what a check kept finds nothing amiss and keeps all of it. -/
theorem validate_toDocument {d : Value} (hd : d.IsOrdered)
    (h : (validate d).hasNodeList = true) :
    (validate (validate d).toDocument.toValue).isValid = true ∧
      validate (validate d).toDocument.toValue = { validate d with issues := [] } := by
  obtain ⟨fields, vs, rfl, hnodes⟩ := exists_of_hasNodeList h
  have hvs := isOrdered_array_iff.mp (hd.of_lookup hnodes)
  obtain ⟨hkept, hnodup⟩ := isKept_checkNodes [] 0 hvs
  have hedges := isKept_checkEdgeList ((checkNodes [] 0 vs).1.map (·.id)) (fields.lookup "edges")
  rw [validate_object hnodes]
  obtain ⟨nodeIssues, edgeIssues, nodes, edges, hn, he, hvalidate⟩ := validate_toValue
    ⟨(checkNodes [] 0 vs).1,
      (checkEdgeList ((checkNodes [] 0 vs).1.map (·.id)) (fields.lookup "edges")).1,
      text? fields "name", text? fields "description"⟩
  rw [checkNodes_of_isKept hkept hnodup] at hn
  cases hn
  rw [checkEdges_of_isKept hedges] at he
  cases he
  rw [Report.toDocument, hvalidate]
  exact ⟨rfl, rfl⟩

/-- A document with a repeated node, one that is no object, an unknown type, a field that cannot be
read, an edge without an identifier and one to nowhere. -/
def tangled : Value := .object [
  ("edges", .array [
    .object [("data", .object []), ("source", .string "a"), ("target", .string "b")],
    .object [("source", .string "a"), ("target", .string "c")]]),
  ("nodes", .array [
    .object [
      ("data", .object [
        ("body", .object [("k", .null)]),
        ("options", .array [.string "yes", .object [("label", .string "no"), ("text", .null)]]),
        ("text", .bool true)]),
      ("id", .string "a"),
      ("type", .string "unknown")],
    .object [("id", .string "a")],
    .object [("id", .string "b"), ("type", .string "End Call")],
    .null])]

theorem validate_toDocument_tangled :
    (validate tangled).isValid = false ∧
      (validate (validate tangled).toDocument.toValue).isValid = true ∧
      validate (validate tangled).toDocument.toValue = { validate tangled with issues := [] } :=
  ⟨by decide, validate_toDocument (by decide) (by decide)⟩

end Callflow.Editor
