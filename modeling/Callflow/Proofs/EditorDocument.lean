import Callflow.Editor.Decode
import Callflow.Editor.Encode
import Callflow.Editor.ToChart
import Callflow.Proofs.Written

/-!
Editor documents as values. Each part is written as the entries it has, and a document that was read
is read back from what it is written as. A body that is `null` would not be, but none is ever read.
-/

namespace Callflow.Editor

open Json Value Record

def Payload.entries (p : Payload) : List (String × Option Value) := [
  ("text", p.text.map .string), ("prompt", p.prompt.map .string), ("label", p.label.map .string),
  ("name", p.name.map .string), ("isStart", p.isStart.map .bool),
  ("extractVars", p.extractVars.map (encodeList VariableRef.encode)),
  ("options", p.options.map (encodeList Choice.encode)),
  ("variableName", p.variableName.map .string),
  ("extractVariables", p.extractVariables.map (encodeList VariableRef.encode)),
  ("transferNumber", p.transferNumber.map .string), ("webhookUrl", p.webhookUrl.map .string),
  ("webhookMethod", p.webhookMethod.map .string), ("body", p.body.map id),
  ("condition", p.condition.map .string)]

theorem Payload.encode_eq (p : Payload) : p.encode = .object (present p.entries) := by
  simp only [Payload.encode, Payload.fields, fieldFor_eq_present, ← present_append]
  rfl

def Node.entries (n : Node) : List (String × Option Value) := [
  ("id", some (.string n.id)), ("type", n.type.map .string), ("data", some n.data.encode)]

theorem Node.encode_eq (n : Node) : n.encode = .object (present n.entries) := by
  cases h : n.type <;> simp [Node.encode, Node.entries, fieldFor, present, h]

def Edge.entries (e : Edge) : List (String × Option Value) := [
  ("id", some (.string e.id)), ("source", some (.string e.source)),
  ("target", some (.string e.target)), ("sourceHandle", e.sourceHandle.map .string),
  ("targetHandle", e.targetHandle.map .string), ("label", e.label.map .string),
  ("data", e.data.map EdgeData.encode)]

theorem Edge.encode_eq (e : Edge) : e.encode = .object (present e.entries) := by
  have hends : [("id", string e.id), ("source", string e.source), ("target", string e.target)] =
      present [("id", some (string e.id)), ("source", some (string e.source)),
        ("target", some (string e.target))] := rfl
  simp only [Edge.encode, hends, fieldFor_eq_present, ← present_append]
  rfl

def Document.entries (d : Document) : List (String × Option Value) := [
  ("nodes", some (encodeList Node.encode d.nodes)),
  ("edges", some (encodeList Edge.encode d.edges)), ("name", d.name.map .string),
  ("description", d.description.map .string)]

theorem Document.encode_eq (d : Document) : d.encode = .object (present d.entries) := by
  have hlists : [("nodes", encodeList Node.encode d.nodes),
        ("edges", encodeList Edge.encode d.edges)] =
      present [("nodes", some (encodeList Node.encode d.nodes)),
        ("edges", some (encodeList Edge.encode d.edges))] := rfl
  simp only [Document.encode, hlists, fieldFor_eq_present, ← present_append]
  rfl

def VariableRef.IsOrdered : VariableRef → Prop
  | .tuple items => ∀ v ∈ items, v.IsOrdered
  | .name _ | .named _ => True

structure Payload.IsWritable (p : Payload) : Prop where
  extractVars : ∀ refs ∈ p.extractVars, ∀ r ∈ refs, r.IsOrdered
  extractVariables : ∀ refs ∈ p.extractVariables, ∀ r ∈ refs, r.IsOrdered
  body : ∀ v ∈ p.body, v ≠ .null ∧ v.IsOrdered

theorem Payload.isWritable_empty : Payload.IsWritable {} := ⟨nofun, nofun, nofun⟩

theorem Choice.decode_written (c : Choice) : Choice.decode c.encode.ordered = .ok c := by
  cases c with
  | text s => rfl
  | labelled text label => cases text <;> cases label <;> rfl

theorem VariableRef.decode_written {r : VariableRef} (h : r.IsOrdered) :
    VariableRef.decode r.encode.ordered = .ok r := by
  cases r with
  | name s => rfl
  | named s => rfl
  | tuple items =>
    have hitems : (array items).ordered = .array items := isOrdered_array_iff.mpr h
    rw [VariableRef.encode, hitems]
    rfl

instance : IsLawful Payload.record := by
  unfold Payload.record
  infer_instance

instance : IsLawful Node.record := by
  unfold Node.record
  infer_instance

instance : IsLawful EdgeData.record := by
  unfold EdgeData.record
  infer_instance

instance : IsLawful Edge.record := by
  unfold Edge.record
  infer_instance

instance : IsLawful Document.record := by
  unfold Document.record
  infer_instance

theorem Payload.suits : ∀ p : Payload, Suits Payload.record.slots (p.entries.map (·.1)) := by
  have h : Suits Payload.record.slots ["text", "prompt", "label", "name", "isStart", "extractVars",
      "options", "variableName", "extractVariables", "transferNumber", "webhookUrl",
      "webhookMethod", "body", "condition"] := by decide
  exact fun _ => h

theorem Payload.decode_written {p : Payload} (h : p.IsWritable) :
    Payload.decode p.encode.ordered = .ok p := by
  have hkeys := p.suits.2.1
  rw [Payload.encode_eq, ordered_present]
  refine ofFields_written Payload.record p.suits ?_
  obtain ⟨text, prompt, label, name, isStart, extractVars, options, variableName, extractVariables,
    transferNumber, webhookUrl, webhookMethod, body, condition⟩ := p
  unfold Payload.record
  refine build_seq (build_seq (build_seq (build_seq (build_seq (build_seq (build_seq (build_seq
    (build_seq (build_seq (build_seq (build_seq (build_seq (build_map ?text) ?prompt) ?label)
    ?name) ?isStart) ?extractVars) ?options) ?variableName) ?extractVariables) ?transferNumber)
    ?webhookUrl) ?webhookMethod) ?body) ?condition
  case isStart => exact build_flag_written hkeys rfl
  case extractVars =>
    exact build_list_written hkeys rfl fun refs hrefs r hr =>
      VariableRef.decode_written (h.extractVars refs hrefs r hr)
  case extractVariables =>
    exact build_list_written hkeys rfl fun refs hrefs r hr =>
      VariableRef.decode_written (h.extractVariables refs hrefs r hr)
  case options => exact build_list_written hkeys rfl fun _ _ c _ => c.decode_written
  case body => exact build_any_written hkeys rfl h.body
  case webhookUrl | webhookMethod =>
    rw [build_spelledTwice]
    exact build_text_written hkeys rfl
  all_goals exact build_text_written hkeys rfl

theorem Node.suits : ∀ n : Node, Suits Node.record.slots (n.entries.map (·.1)) := by
  have h : Suits Node.record.slots ["id", "type", "data"] := by decide
  exact fun _ => h

theorem Node.decode_written {n : Node} (h : n.data.IsWritable) :
    Node.decode n.encode.ordered = .ok n := by
  have hkeys := n.suits.2.1
  rw [Node.encode_eq, ordered_present]
  refine ofFields_written Node.record n.suits ?_
  obtain ⟨id, type, data⟩ := n
  unfold Node.record
  refine build_seq (build_seq (build_map ?id) ?type) ?data
  case id => exact build_required_written hkeys rfl rfl
  case type => exact build_text_written hkeys rfl
  case data => exact build_withDefault_written hkeys rfl (Payload.decode_written h)

theorem EdgeData.decode_written (d : EdgeData) : EdgeData.decode d.encode.ordered = .ok d := by
  obtain ⟨label⟩ := d
  cases label <;> rfl

theorem Edge.suits : ∀ e : Edge, Suits Edge.record.slots (e.entries.map (·.1)) := by
  have h : Suits Edge.record.slots
      ["id", "source", "target", "sourceHandle", "targetHandle", "label", "data"] := by decide
  exact fun _ => h

theorem Edge.decode_written (e : Edge) : Edge.decode e.encode.ordered = .ok e := by
  have hkeys := e.suits.2.1
  rw [Edge.encode_eq, ordered_present]
  refine ofFields_written Edge.record e.suits ?_
  obtain ⟨id, source, target, sourceHandle, targetHandle, label, data⟩ := e
  unfold Edge.record
  refine build_seq (build_seq (build_seq (build_seq (build_seq (build_seq (build_map ?id) ?source)
    ?target) ?sourceHandle) ?targetHandle) ?label) ?data
  case id | source | target => exact build_required_written hkeys rfl rfl
  case data => exact build_optional_written hkeys rfl fun d _ => ⟨nofun, d.decode_written⟩
  all_goals exact build_text_written hkeys rfl

theorem Document.suits : ∀ d : Document, Suits Document.record.slots (d.entries.map (·.1)) := by
  have h : Suits Document.record.slots ["nodes", "edges", "name", "description"] := by decide
  exact fun _ => h

theorem Document.decode_written {d : Document} (h : ∀ n ∈ d.nodes, n.data.IsWritable) :
    Document.decode d.toValue = .ok d := by
  have hkeys := d.suits.2.1
  rw [Document.toValue, Document.encode_eq, ordered_present]
  refine ofFields_written Document.record d.suits ?_
  obtain ⟨nodes, edges, name, description⟩ := d
  unfold Document.record
  refine build_seq (build_seq (build_seq (build_map ?nodes) ?edges) ?name) ?description
  case nodes =>
    exact build_required_written hkeys rfl (list_written fun n hn => Node.decode_written (h n hn))
  case edges =>
    exact build_withDefault_written hkeys rfl (list_written fun e _ => e.decode_written)
  case name | description => exact build_text_written hkeys rfl

theorem VariableRef.isOrdered_of_decode {v : Value} {r : VariableRef}
    (h : VariableRef.decode v = .ok r) (hv : v.IsOrdered) : r.IsOrdered := by
  cases r with
  | name s => trivial
  | named s => trivial
  | tuple items =>
    obtain ⟨alternative, hmem, hread⟩ := exists_of_choose_eq_ok h
    simp only [List.mem_cons, List.not_mem_nil, or_false] at hmem
    rcases hmem with rfl | rfl | rfl
    · obtain ⟨_, _, hname⟩ := Option.map_eq_some_iff.mp hread
      exact nomatch hname
    · obtain ⟨_, _, hnamed⟩ := Option.map_eq_some_iff.mp hread
      exact nomatch hnamed
    · cases v with
      | array vs =>
        cases hread
        exact isOrdered_array_iff.mp hv
      | null | bool _ | number _ | string _ | object _ => cases hread

theorem refs_isOrdered {given : List (String × Value)} {name : String}
    {refs : Option (List VariableRef)} (hgiven : ∀ f ∈ given, f.2.IsOrdered)
    (h : (optional name (Decoder.list VariableRef.decode)).build given = .ok refs) :
    ∀ rs ∈ refs, ∀ r ∈ rs, r.IsOrdered := by
  intro rs hrs r hr
  obtain ⟨f, hf, _, hread⟩ := exists_mem_of_build_optional h rs hrs
  obtain ⟨w, hw, hr⟩ := exists_of_list_eq_ok hread (hgiven f hf) r hr
  exact VariableRef.isOrdered_of_decode hr hw

theorem Payload.isWritable_of_build {given : List (String × Value)} {p : Payload}
    (hgiven : ∀ f ∈ given, f.2.IsOrdered) (h : Payload.record.build given = .ok p) :
    p.IsWritable := by
  rw [Payload.record, build_eq_ok_iff] at h
  simp only [exists_build_seq, exists_build_map] at h
  obtain ⟨text, _, prompt, _, label, _, name, _, isStart, _, extractVars, hextractVars, options, _,
    variableName, _, extractVariables, hextractVariables, transferNumber, _, webhookUrl, _,
    webhookMethod, _, body, hbody, condition, _, rfl⟩ := h
  refine ⟨refs_isOrdered hgiven hextractVars, refs_isOrdered hgiven hextractVariables, ?_⟩
  intro v hv
  obtain ⟨f, hf, hne, hread⟩ := exists_mem_of_build_optional hbody v hv
  obtain rfl : f.2 = v := Except.ok.inj hread
  exact ⟨hne, hgiven f hf⟩

theorem Payload.isWritable_of_decode {v : Value} {p : Payload} (h : Payload.decode v = .ok p)
    (hv : v.IsOrdered) : p.IsWritable := by
  obtain ⟨given, hgiven, hbuild⟩ := exists_build_of_decode h hv
  exact Payload.isWritable_of_build hgiven hbuild

theorem Node.isWritable_of_decode {v : Value} {n : Node} (h : Node.decode v = .ok n)
    (hv : v.IsOrdered) : n.data.IsWritable := by
  obtain ⟨given, hgiven, hbuild⟩ := exists_build_of_decode h hv
  rw [Node.record, build_eq_ok_iff] at hbuild
  simp only [exists_build_seq, exists_build_map] at hbuild
  obtain ⟨id, _, type, _, data, hdata, rfl⟩ := hbuild
  change data.IsWritable
  rw [build_withDefault] at hdata
  cases hlookup : given.lookup "data" with
  | none =>
    rw [hlookup] at hdata
    cases hdata
    exact Payload.isWritable_empty
  | some w =>
    rw [hlookup] at hdata
    exact Payload.isWritable_of_decode hdata (hgiven _ (mem_of_lookup hlookup))

theorem Document.isWritable_of_decode {v : Value} {d : Document} (h : Document.decode v = .ok d)
    (hv : v.IsOrdered) : ∀ n ∈ d.nodes, n.data.IsWritable := by
  obtain ⟨given, hgiven, hbuild⟩ := exists_build_of_decode h hv
  rw [Document.record, build_eq_ok_iff] at hbuild
  simp only [exists_build_seq, exists_build_map] at hbuild
  obtain ⟨nodes, hnodes, edges, _, name, _, description, _, rfl⟩ := hbuild
  intro n hn
  obtain ⟨f, hf, hlist⟩ := exists_mem_of_build_required hnodes
  obtain ⟨w, hw, hread⟩ := exists_of_list_eq_ok hlist (hgiven f hf) n hn
  exact Node.isWritable_of_decode hread hw

/-- What is written of a document that was read is read back as that document, and shows the same
chart. -/
theorem Document.decode_toValue_of_decode {v : Value} {d : Document} (hv : v.IsOrdered)
    (h : Document.decode v = .ok d) :
    Document.decode d.toValue = .ok d ∧
      (Document.decode d.toValue).map Document.toChart =
        (Document.decode v).map Document.toChart := by
  have hread := Document.decode_written (Document.isWritable_of_decode h hv)
  exact ⟨hread, by rw [hread, h]⟩

/-- A document as a sequence, with nodes and an edge as sequences or objects, second spellings, and
options and variables of every shape. -/
def motley : Value := .array [
  .array [
    .array [.string "a", .null, .object [
      ("body", .object [("k", .null)]),
      ("extractVars", .array [.string "Age", .object [("name", .string "Zip")],
        .array [.string "Town", .bool true], .array []]),
      ("method", .string "PUT"),
      ("options", .array [.string "yes", .object [], .object [("label", .string "no")],
        .object [("text", .string "maybe"), ("value", .null)]]),
      ("url", .string "u")]],
    .object [("data", .array [.string "Hi"]), ("id", .string "b"), ("type", .string "start")]],
  .array [.array [.string "e", .string "a", .string "b", .null, .string "top", .null,
    .array [.string "on"]]]]

theorem Document.decode_toValue_of_decode_motley :
    ∃ d, motley.IsOrdered ∧ Document.decode motley = .ok d ∧
      d.nodes.map (·.data.webhookMethod) = [some "PUT", none] ∧
      Document.decode d.toValue = .ok d := by
  obtain ⟨d, hd, hmethods⟩ : ∃ d, Document.decode motley = .ok d ∧
      d.nodes.map (·.data.webhookMethod) = [some "PUT", none] := ⟨_, rfl, rfl⟩
  have hordered : motley.IsOrdered := by decide
  exact ⟨d, hordered, hd, hmethods, (Document.decode_toValue_of_decode hordered hd).1⟩

end Callflow.Editor
