import Callflow.Pathway.Decode
import Callflow.Pathway.Encode
import Callflow.Proofs.Binary64
import Callflow.Proofs.Written

/-!
Pathways as values. Each part is written as the entries it has and read back from them, if the
temperature of every node is finite and no body is `null`; and so it is in a pathway that was read.
-/

namespace Callflow.Pathway

open Decimal Json Value Record

def ModelOptions.entries (m : ModelOptions) : List (String × Option Value) := [
  ("modelType", some (.string m.modelType)), ("temperature", some (.ofBinary64 m.temperature)),
  ("isSMSReturnNode", m.flags.isSMSReturnNode.map .bool),
  ("skipUserResponse", m.flags.skipUserResponse.map .bool),
  ("disableEndCallTool", m.flags.disableEndCallTool.map .bool),
  ("block_interruptions", m.flags.blockInterruptions.map .bool),
  ("disableSilenceRepeat", m.flags.disableSilenceRepeat.map .bool)]

theorem ModelOptions.encode_eq (m : ModelOptions) : m.encode = .object (present m.entries) := by
  have hfirst : [("modelType", string m.modelType), ("temperature", .ofBinary64 m.temperature)] =
      present [("modelType", some (string m.modelType)),
        ("temperature", some (.ofBinary64 m.temperature))] := rfl
  simp only [ModelOptions.encode, CallFlags.fields, hfirst, fieldFor_eq_present, ← present_append]
  rfl

def NodeData.otherEntries (d : NodeData) : List (String × Option Value) := [
  ("isStart", some (.bool d.isStart)), ("modelOptions", some d.model.encode),
  ("extractVars", d.extractVars.map fun vs => .array (vs.map Variable.encode)),
  ("extractVarSettings", d.extractSettings.map fun _ => .object []),
  ("transferNumber", d.transferNumber.map .string), ("url", d.url.map .string),
  ("method", d.method.map .string), ("body", d.body.map id)]

def NodeData.entries (d : NodeData) : List (String × Option Value) :=
  ("name", some (.string d.name)) :: (d.content.field.1, some d.content.field.2) :: d.otherEntries

theorem NodeData.encode_eq (d : NodeData) : d.encode = .object (present d.entries) := by
  have hfirst : [("name", string d.name), d.content.field, ("isStart", bool d.isStart),
        ("modelOptions", d.model.encode)] =
      present [("name", some (string d.name)), (d.content.field.1, some d.content.field.2),
        ("isStart", some (bool d.isStart)), ("modelOptions", some d.model.encode)] := rfl
  simp only [NodeData.encode, hfirst, fieldFor_eq_present, ← present_append]
  rfl

def Node.entries (n : Node) : List (String × Option Value) := [
  ("id", some (.string n.id)), ("type", some (.string n.type.name)), ("data", some n.data.encode)]

theorem Node.encode_eq (n : Node) : n.encode = .object (present n.entries) := rfl

def Edge.entries (e : Edge) : List (String × Option Value) := [
  ("id", some (.string e.id)), ("source", some (.string e.source)),
  ("target", some (.string e.target)), ("label", some (.string e.label)),
  ("sourceHandle", e.sourceHandle.map .string), ("targetHandle", e.targetHandle.map .string),
  ("data", some (.object [("label", .string e.dataLabel)]))]

theorem Edge.encode_eq (e : Edge) : e.encode = .object (present e.entries) := by
  have hfirst : [("id", string e.id), ("source", string e.source), ("target", string e.target),
        ("label", string e.label)] =
      present [("id", some (string e.id)), ("source", some (string e.source)),
        ("target", some (string e.target)), ("label", some (string e.label))] := rfl
  have hlast : [("data", object [("label", string e.dataLabel)])] =
      present [("data", some (object [("label", string e.dataLabel)]))] := rfl
  simp only [Edge.encode, hfirst, hlast, fieldFor_eq_present, ← present_append]
  rfl

def entries (p : Pathway) : List (String × Option Value) := [
  ("name", some (.string p.name)), ("description", some (.string p.description)),
  ("nodes", some (.array (p.nodes.map Entry.encode))),
  ("edges", some (.array (p.edges.map Edge.encode)))]

theorem encode_eq (p : Pathway) : p.encode = .object (present p.entries) := rfl

/-- The temperature of a node is finite, and its body is in order and not `null`. -/
structure Node.IsWritable (n : Node) : Prop where
  temperature : n.data.model.temperature.isFinite = true
  body : ∀ v ∈ n.data.body, v ≠ .null ∧ v.IsOrdered

def IsWritable (p : Pathway) : Prop := ∀ n ∈ p.outputNodes, n.IsWritable

theorem NodeType.decode_name (t : NodeType) : NodeType.decode (.string t.name) = .ok t := by
  cases t <;> rfl

theorem Variable.decode_written (v : Variable) : Variable.decode v.encode.ordered = .ok v := by
  obtain ⟨name, type, description, required⟩ := v
  cases type <;> rfl

theorem real_written {x : Binary64} (h : x.isFinite = true) :
    Decoder.real (Value.ofBinary64 x).ordered = .ok x := by
  rw [Value.ofBinary64, Number.ofBinary64?, dif_pos h]
  rfl

instance : IsLawful ModelOptions.record := by
  unfold ModelOptions.record
  infer_instance

theorem ModelOptions.suits :
    ∀ m : ModelOptions, Suits ModelOptions.record.slots (m.entries.map (·.1)) := by
  have h : Suits ModelOptions.record.slots ["modelType", "temperature", "isSMSReturnNode",
      "skipUserResponse", "disableEndCallTool", "block_interruptions", "disableSilenceRepeat"] := by
    decide
  exact fun _ => h

theorem ModelOptions.decode_written {m : ModelOptions} (h : m.temperature.isFinite = true) :
    ModelOptions.decode m.encode.ordered = .ok m := by
  have hkeys := m.suits.2.1
  rw [ModelOptions.encode_eq, ordered_present]
  refine ofFields_written ModelOptions.record m.suits ?_
  obtain ⟨modelType, temperature, sms, skip, endCall, block, silence⟩ := m
  unfold ModelOptions.record
  refine build_seq (build_seq (build_seq (build_seq (build_seq (build_seq (build_map ?modelType)
    ?temperature) ?sms) ?skip) ?endCall) ?block) ?silence
  case modelType => exact build_required_written hkeys rfl rfl
  case temperature => exact build_required_written hkeys rfl (real_written h)
  all_goals exact build_flag_written hkeys rfl

instance : IsLawful NodeData.record := by
  unfold NodeData.record
  infer_instance

theorem NodeData.suits : ∀ d : NodeData, Suits NodeData.record.slots (d.entries.map (·.1)) := by
  have htext : Suits NodeData.record.slots ["name", "text", "isStart", "modelOptions",
      "extractVars", "extractVarSettings", "transferNumber", "url", "method", "body"] := by decide
  have hprompt : Suits NodeData.record.slots ["name", "prompt", "isStart", "modelOptions",
      "extractVars", "extractVarSettings", "transferNumber", "url", "method", "body"] := by decide
  intro d
  obtain ⟨name, content, isStart, model, vars, settings, number, url, method, body⟩ := d
  cases content with
  | text s => exact htext
  | prompt s => exact hprompt

theorem NodeData.lookup_entries {d : NodeData} {key : String} {v : Option Value}
    (h : d.otherEntries.lookup key = some v) : d.entries.lookup key = some v :=
  lookup_of_mem d.suits.2.1 (List.mem_cons_of_mem _ (List.mem_cons_of_mem _ (mem_of_lookup h)))

theorem Content.ofFields_written (d : NodeData) :
    Content.ofFields (written d.entries) = .ok d.content := by
  have hkeys := d.suits.2.1
  rw [Content.ofFields, lookup_written hkeys, lookup_written hkeys]
  obtain ⟨name, content, isStart, model, vars, settings, number, url, method, body⟩ := d
  cases content <;> rfl

theorem NodeData.decode_written {d : NodeData} (ht : d.model.temperature.isFinite = true)
    (hb : ∀ v ∈ d.body, v ≠ .null ∧ v.IsOrdered) :
    NodeData.decode d.encode.ordered = .ok d := by
  have hkeys := d.suits.2.1
  have hcontent := Content.ofFields_written d
  rw [NodeData.encode_eq, ordered_present]
  have hfields : NodeData.record.ofFields (written d.entries) = .ok fun content =>
      { d with content } := by
    refine Record.ofFields_written NodeData.record d.suits ?_
    obtain ⟨name, content, isStart, model, vars, settings, number, url, method, body⟩ := d
    unfold NodeData.record
    refine build_seq (build_seq (build_seq (build_seq (build_seq (build_seq (build_seq (build_seq
      (build_map ?name) ?isStart) ?model) ?vars) ?settings) ?number) ?url) ?method) ?body
    case name => exact build_required_written hkeys rfl rfl
    case isStart =>
      exact build_required_written hkeys (lookup_entries (v := some (.bool isStart)) rfl) rfl
    case model =>
      exact build_required_written hkeys (lookup_entries (v := some model.encode) rfl)
        (ModelOptions.decode_written ht)
    case vars =>
      exact build_list_written hkeys (lookup_entries rfl) fun _ _ v _ => v.decode_written
    case settings =>
      exact build_optional_written (f := fun _ => .object []) hkeys (lookup_entries rfl)
        fun _ _ => ⟨nofun, rfl⟩
    case body => exact build_any_written hkeys (lookup_entries rfl) hb
    all_goals exact build_text_written hkeys (lookup_entries rfl)
  exact bind_eq_ok.mpr ⟨_, hfields, bind_eq_ok.mpr ⟨_, hcontent, rfl⟩⟩

instance : IsLawful Node.record := by
  unfold Node.record
  infer_instance

theorem Node.decode_written {n : Node} (h : n.IsWritable) : Node.decode n.encode.ordered = .ok n := by
  have hsuits : Suits Node.record.slots (n.entries.map (·.1)) := by
    have h : Suits Node.record.slots ["id", "type", "data"] := by decide
    exact h
  have hkeys := hsuits.2.1
  rw [Node.encode_eq, ordered_present]
  refine ofFields_written Node.record hsuits ?_
  obtain ⟨id, type, data⟩ := n
  unfold Node.record
  refine build_seq (build_seq (build_map ?id) ?type) ?data
  case id => exact build_required_written hkeys rfl rfl
  case type => exact build_required_written hkeys rfl type.decode_name
  case data => exact build_required_written hkeys rfl (NodeData.decode_written h.temperature h.body)

instance : IsLawful Edge.record := by
  unfold Edge.record
  infer_instance

theorem Edge.decode_written (e : Edge) : Edge.decode e.encode.ordered = .ok e := by
  have hsuits : Suits Edge.record.slots (e.entries.map (·.1)) := by
    have h : Suits Edge.record.slots ["id", "source", "target", "label", "sourceHandle",
      "targetHandle", "data"] := by decide
    exact h
  have hkeys := hsuits.2.1
  rw [Edge.encode_eq, ordered_present]
  refine ofFields_written Edge.record hsuits ?_
  obtain ⟨id, source, target, label, sourceHandle, targetHandle, dataLabel⟩ := e
  unfold Edge.record
  refine build_seq (build_seq (build_seq (build_seq (build_seq (build_seq (build_map ?id) ?source)
    ?target) ?label) ?sourceHandle) ?targetHandle) ?data
  case sourceHandle | targetHandle => exact build_text_written hkeys rfl
  all_goals exact build_required_written hkeys rfl rfl

theorem Entry.decode_written {entry : Entry} (h : ∀ n ∈ entry.node?, n.IsWritable) :
    Entry.decode entry.encode.ordered = .ok entry := by
  cases entry with
  | globalConfig prompt => rfl
  | node n =>
    have hread := Node.decode_written (h n rfl)
    simp [Entry.decode, Entry.encode, Decoder.choose, hread, Except.toOption]

instance : IsLawful record := by
  unfold record
  infer_instance

theorem decode_written {p : Pathway} (h : p.IsWritable) : decode p.toValue = .ok p := by
  have hsuits : Suits record.slots (p.entries.map (·.1)) := by
    have h : Suits record.slots ["name", "description", "nodes", "edges"] := by decide
    exact h
  have hkeys := hsuits.2.1
  rw [toValue, encode_eq, ordered_present]
  refine ofFields_written record hsuits ?_
  obtain ⟨name, description, nodes, edges⟩ := p
  unfold record
  refine build_seq (build_seq (build_seq (build_map ?name) ?description) ?nodes) ?edges
  case nodes =>
    refine build_required_written hkeys rfl (list_written ?_)
    intro entry hentry
    exact Entry.decode_written fun n hn => h n (List.mem_filterMap.mpr ⟨entry, hentry, hn⟩)
  case edges => exact build_required_written hkeys rfl (list_written fun e _ => e.decode_written)
  all_goals exact build_required_written hkeys rfl rfl

theorem isFinite_of_real {v : Value} {x : Binary64} (h : Decoder.real v = .ok x) :
    x.isFinite = true := by
  cases v with
  | number n =>
    cases n with
    | int n range =>
      cases h
      exact Binary64.isFinite_ofInt range
    | float y finite =>
      cases h
      exact finite
  | null | bool _ | string _ | array _ | object _ => cases h

theorem ModelOptions.isFinite_of_decode {v : Value} {m : ModelOptions}
    (h : ModelOptions.decode v = .ok m) (hv : v.IsOrdered) : m.temperature.isFinite = true := by
  obtain ⟨given, _, hbuild⟩ := exists_build_of_decode h hv
  rw [ModelOptions.record, build_eq_ok_iff] at hbuild
  simp only [exists_build_seq, exists_build_map] at hbuild
  obtain ⟨modelType, _, temperature, htemperature, sms, _, skip, _, endCall, _, block, _, silence, _,
    rfl⟩ := hbuild
  obtain ⟨f, _, hread⟩ := exists_mem_of_build_required htemperature
  exact isFinite_of_real hread

theorem NodeData.of_decode {v : Value} {d : NodeData} (h : NodeData.decode v = .ok d)
    (hv : v.IsOrdered) :
    d.model.temperature.isFinite = true ∧ ∀ w ∈ d.body, w ≠ .null ∧ w.IsOrdered := by
  cases v with
  | object fields =>
    obtain ⟨data, hdata, h⟩ := bind_eq_ok.mp h
    obtain ⟨content, _, h⟩ := bind_eq_ok.mp h
    obtain rfl := Except.ok.inj h
    obtain ⟨given, hgiven, hbuild⟩ := exists_build_of_ofFields hdata hv
    rw [NodeData.record, build_eq_ok_iff] at hbuild
    simp only [exists_build_seq, exists_build_map] at hbuild
    obtain ⟨name, _, isStart, _, model, hmodel, vars, _, settings, _, number, _, url, _, method, _,
      body, hbody, rfl⟩ := hbuild
    constructor
    · obtain ⟨f, hf, hread⟩ := exists_mem_of_build_required hmodel
      exact ModelOptions.isFinite_of_decode hread (hgiven f hf)
    · intro w hw
      obtain ⟨f, hf, hne, hread⟩ := exists_mem_of_build_optional hbody w hw
      obtain rfl : f.2 = w := Except.ok.inj hread
      exact ⟨hne, hgiven f hf⟩
  | null | bool _ | number _ | string _ | array _ => cases h

theorem Node.isWritable_of_decode {v : Value} {n : Node} (h : Node.decode v = .ok n)
    (hv : v.IsOrdered) : n.IsWritable := by
  obtain ⟨given, hgiven, hbuild⟩ := exists_build_of_decode h hv
  rw [Node.record, build_eq_ok_iff] at hbuild
  simp only [exists_build_seq, exists_build_map] at hbuild
  obtain ⟨id, _, type, _, data, hdata, rfl⟩ := hbuild
  obtain ⟨f, hf, hread⟩ := exists_mem_of_build_required hdata
  obtain ⟨htemperature, hbody⟩ := NodeData.of_decode hread (hgiven f hf)
  exact ⟨htemperature, hbody⟩

theorem Entry.isWritable_of_decode {v : Value} {n : Node} (h : Entry.decode v = .ok (.node n))
    (hv : v.IsOrdered) : n.IsWritable := by
  obtain ⟨alternative, hmem, hentry⟩ := exists_of_choose_eq_ok h
  simp only [List.mem_cons, List.not_mem_nil, or_false] at hmem
  rcases hmem with rfl | rfl
  · obtain ⟨m, hread, hnode⟩ := Option.map_eq_some_iff.mp hentry
    cases hnode
    cases hdecode : Node.decode v with
    | ok k =>
      rw [hdecode] at hread
      cases hread
      exact Node.isWritable_of_decode hdecode hv
    | error e =>
      rw [hdecode] at hread
      exact nomatch hread
  · obtain ⟨_, _, hconfig⟩ := Option.map_eq_some_iff.mp hentry
    exact nomatch hconfig

theorem isWritable_of_decode {v : Value} {p : Pathway} (h : decode v = .ok p) (hv : v.IsOrdered) :
    p.IsWritable := by
  obtain ⟨given, hgiven, hbuild⟩ := exists_build_of_decode h hv
  rw [record, build_eq_ok_iff] at hbuild
  simp only [exists_build_seq, exists_build_map] at hbuild
  obtain ⟨name, _, description, _, nodes, hnodes, edges, _, rfl⟩ := hbuild
  intro n hn
  obtain ⟨entry, hentry, hnode⟩ := List.mem_filterMap.mp hn
  obtain ⟨f, hf, hlist⟩ := exists_mem_of_build_required hnodes
  obtain ⟨w, hw, hread⟩ := exists_of_list_eq_ok hlist (hgiven f hf) entry hentry
  cases entry with
  | globalConfig prompt => exact nomatch hnode
  | node m =>
    cases hnode
    exact Entry.isWritable_of_decode hread hw

end Callflow.Pathway
