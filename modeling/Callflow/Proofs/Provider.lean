import Callflow.Proofs.Drawing
import Callflow.Proofs.PathwayDocument

/-!
The documents that the provider takes. Each node has the fields of its type and says something, each
edge is labelled, and the list of nodes ends with the prompt that all nodes share. What is compiled
is such a document, if the texts of the settings that stand in for missing ones are not blank.
-/

namespace Callflow

open Json Text

def Json.Value.field? (v : Value) (key : String) : Option Value := v.object?.bind (·.lookup key)

namespace Provider

def Says (v : Value) (key : String) : Prop :=
  ∃ t, v.field? key = some (.string t) ∧ isBlank t = false

structure TakesData (type : String) (data : Value) : Prop where
  name : Says data "name"
  isStart : ∃ b, data.field? "isStart" = some (.bool b)
  modelOptions : ∃ fields, data.field? "modelOptions" = some (.object fields)
  spoken : if type = "End Call" then Says data "prompt" ∧ data.field? "text" = none
    else Says data "text" ∧ data.field? "prompt" = none
  url : (data.field? "url").isSome = true ↔ type = "Webhook"
  method : (data.field? "method").isSome = true ↔ type = "Webhook"
  body : type ≠ "Webhook" → data.field? "body" = none
  transferNumber : type ≠ "Transfer Call" → data.field? "transferNumber" = none

structure TakesNode (type : String) (v : Value) : Prop where
  typeField : v.field? "type" = some (.string type)
  data : ∃ data, v.field? "data" = some data ∧ TakesData type data
  globalConfig : v.field? "globalConfig" = none

def TakesEdge (v : Value) : Prop :=
  ∃ t, IsLabel t ∧ v.field? "label" = some (.string t) ∧
    ∃ data, v.field? "data" = some data ∧ data.field? "label" = some (.string t)

structure Takes (v : Value) : Prop where
  name : Says v "name"
  description : Says v "description"
  nodes : ∃ nodes last, v.field? "nodes" = some (.array (nodes ++ [last])) ∧
    (∃ prompt, last = .object [("globalConfig", .object [("globalPrompt", .string prompt)])]) ∧
    (∀ n ∈ nodes, ∃ type, TakesNode type n) ∧
    (∃ n ∈ nodes, TakesNode "Default" n) ∧ ∃ n ∈ nodes, TakesNode "End Call" n
  edges : ∃ edges, v.field? "edges" = some (.array edges) ∧ edges ≠ [] ∧ ∀ e ∈ edges, TakesEdge e

end Provider

theorem Json.field?_written {entries : List (String × Option Value)}
    (h : (entries.map (·.1)).Nodup) (key : String) :
    (Value.object (present entries)).ordered.field? key =
      ((entries.lookup key).join).map Value.ordered := by
  rw [ordered_present]
  exact lookup_written h key

namespace Pathway

/-- A node has what its type asks for and nothing else, and it says something. -/
structure Node.IsFit (n : Node) : Prop where
  name : isBlank n.data.name = false
  spokenText : isBlank n.spokenText = false
  content : n.data.content =
    if n.type = .endCall then .prompt n.spokenText else .text n.spokenText
  url : n.data.url.isSome = (n.type == .webhook)
  method : n.data.method.isSome = (n.type == .webhook)
  body : n.type ≠ .webhook → n.data.body = none
  transferNumber : n.type ≠ .transferCall → n.data.transferNumber = none

theorem NodeType.name_inj {a b : NodeType} : a.name = b.name ↔ a = b := by
  cases a <;> cases b <;> decide

theorem NodeData.field?_encode (d : NodeData) (key : String) :
    d.encode.ordered.field? key = ((d.entries.lookup key).join).map Value.ordered := by
  rw [encode_eq]
  exact field?_written d.suits.2.1 key

theorem NodeData.field?_encode_of_lookup (d : NodeData) {key : String} {v : Option Value}
    (h : d.otherEntries.lookup key = some v) :
    d.encode.ordered.field? key = v.map Value.ordered := by
  rw [field?_encode, lookup_entries h]
  rfl

theorem Node.IsFit.takesData {n : Node} (h : n.IsFit) :
    Provider.TakesData n.type.name n.data.encode.ordered where
  name := ⟨n.data.name, n.data.field?_encode "name", h.name⟩
  isStart := ⟨n.data.isStart, n.data.field?_encode_of_lookup (v := some (.bool n.data.isStart)) rfl⟩
  modelOptions := by
    refine ⟨written n.data.model.entries, ?_⟩
    rw [n.data.field?_encode_of_lookup (v := some n.data.model.encode) rfl, ModelOptions.encode_eq]
    rfl
  spoken := by
    have hcontent := h.content
    have hend : n.type.name = "End Call" ↔ n.type = .endCall := NodeType.name_inj (b := .endCall)
    simp only [Provider.Says, NodeData.field?_encode, NodeData.entries, hend]
    split at hcontent
    · rename_i htype
      rw [if_pos htype, hcontent]
      exact ⟨⟨_, rfl, h.spokenText⟩, rfl⟩
    · rename_i htype
      rw [if_neg htype, hcontent]
      exact ⟨⟨_, rfl, h.spokenText⟩, rfl⟩
  url := by
    have hlookup : n.data.otherEntries.lookup "url" = some (n.data.url.map .string) := rfl
    have hweb : n.type.name = "Webhook" ↔ n.type = .webhook := NodeType.name_inj (b := .webhook)
    simp [n.data.field?_encode_of_lookup hlookup, h.url, hweb]
  method := by
    have hlookup : n.data.otherEntries.lookup "method" = some (n.data.method.map .string) := rfl
    have hweb : n.type.name = "Webhook" ↔ n.type = .webhook := NodeType.name_inj (b := .webhook)
    simp [n.data.field?_encode_of_lookup hlookup, h.method, hweb]
  body hne := by
    have hlookup : n.data.otherEntries.lookup "body" = some (n.data.body.map fun v => v) := rfl
    have hbody : n.data.body = none := h.body fun htype => hne (congrArg NodeType.name htype)
    simp [n.data.field?_encode_of_lookup hlookup, hbody]
  transferNumber hne := by
    have hlookup : n.data.otherEntries.lookup "transferNumber" =
      some (n.data.transferNumber.map .string) := rfl
    have hnumber : n.data.transferNumber = none :=
      h.transferNumber fun htype => hne (congrArg NodeType.name htype)
    simp [n.data.field?_encode_of_lookup hlookup, hnumber]

theorem Node.field?_encode (n : Node) (key : String) :
    n.encode.ordered.field? key = ((n.entries.lookup key).join).map Value.ordered := by
  have hkeys : (n.entries.map (·.1)).Nodup := by
    have h : ["id", "type", "data"].Nodup := by decide
    exact h
  exact field?_written hkeys key

theorem Node.IsFit.takesNode {n : Node} (h : n.IsFit) :
    Provider.TakesNode n.type.name n.encode.ordered where
  typeField := n.field?_encode "type"
  data := ⟨n.data.encode.ordered, n.field?_encode "data", h.takesData⟩
  globalConfig := n.field?_encode "globalConfig"

theorem Edge.field?_encode (e : Edge) (key : String) :
    e.encode.ordered.field? key = ((e.entries.lookup key).join).map Value.ordered := by
  have hkeys : (e.entries.map (·.1)).Nodup := by
    have h : ["id", "source", "target", "label", "sourceHandle", "targetHandle", "data"].Nodup := by
      decide
    exact h
  rw [encode_eq]
  exact field?_written hkeys key

theorem Edge.takesEdge {e : Edge} (hlabel : IsLabel e.label) (hdata : e.dataLabel = e.label) :
    Provider.TakesEdge e.encode.ordered := by
  refine ⟨e.label, hlabel, e.field?_encode "label", .object [("label", .string e.label)], ?_, rfl⟩
  rw [← hdata]
  exact e.field?_encode "data"

theorem field?_toValue (p : Pathway) (key : String) :
    p.toValue.field? key = ((p.entries.lookup key).join).map Value.ordered := by
  have hkeys : (p.entries.map (·.1)).Nodup := by
    have h : ["name", "description", "nodes", "edges"].Nodup := by decide
    exact h
  exact field?_written hkeys key

theorem field?_nodes (p : Pathway) :
    p.toValue.field? "nodes" = some (.array (p.nodes.map (·.encode.ordered))) := by
  have hitems : (p.nodes.map Entry.encode).map Value.ordered = p.nodes.map (·.encode.ordered) :=
    List.map_map
  rw [field?_toValue, ← hitems, ← Value.ordered_array]
  rfl

theorem field?_edges (p : Pathway) :
    p.toValue.field? "edges" = some (.array (p.edges.map (·.encode.ordered))) := by
  have hitems : (p.edges.map Edge.encode).map Value.ordered = p.edges.map (·.encode.ordered) :=
    List.map_map
  rw [field?_toValue, ← hitems, ← Value.ordered_array]
  rfl

end Pathway

/-- The texts that stand in for missing ones are not blank. -/
structure Settings.Speaks (s : Settings) : Prop where
  defaultText : isBlank s.defaultText = false
  endCallPrompt : isBlank s.endCallPrompt = false
  synthesizedGreeting : isBlank s.synthesizedGreeting = false
  synthesizedClosing : isBlank s.synthesizedClosing = false

namespace Assembly

variable {s : Settings}

theorem isBlank_firstNonBlank? {a b : Option String} {t : String} (ht : isBlank t = false) :
    isBlank (((nonBlank? a).or (nonBlank? b)).getD t) = false :=
  getD_of_forall_mem (p := fun t => isBlank t = false)
    (forall_mem_or (fun _ => isBlank_of_mem_nonBlank?) fun _ => isBlank_of_mem_nonBlank?) ht

theorem isBlank_nodeName (n : Chart.Node) : isBlank (nodeName n) = false := by
  apply isBlank_firstNonBlank?
  cases n.kind <;> simp only [Chart.Kind.displayName] <;> decide

theorem isBlank_spokenText_node (hs : s.Speaks) (n : Chart.Node) :
    isBlank (node s n).spokenText = false := by
  have hplain : isBlank ((nonBlank? n.kind.text?).getD s.defaultText) = false :=
    getD_of_forall_mem (p := fun t => isBlank t = false) (fun _ => isBlank_of_mem_nonBlank?)
      hs.defaultText
  obtain ⟨id, kind, label, name, isStart, extractVars⟩ := n
  cases kind with
  | endCall text prompt => exact isBlank_firstNonBlank? hs.endCallPrompt
  | _ => exact hplain

theorem isFit_node (hs : s.Speaks) (n : Chart.Node) : (node s n).IsFit := by
  have hname := isBlank_nodeName n
  have hspoken := isBlank_spokenText_node hs n
  obtain ⟨id, kind, label, name, isStart, extractVars⟩ := n
  cases kind with
  | webhook text call => exact ⟨hname, hspoken, rfl, rfl, rfl, fun h => absurd rfl h, fun _ => rfl⟩
  | transfer text number =>
    exact ⟨hname, hspoken, rfl, rfl, rfl, fun _ => rfl, fun h => absurd rfl h⟩
  | _ => exact ⟨hname, hspoken, rfl, rfl, rfl, fun _ => rfl, fun _ => rfl⟩

theorem isFit_greeting (hs : s.Speaks) (id : String) : (greeting s id).IsFit := by
  have hname : isBlank "Greeting" = false := by decide
  exact ⟨hname, hs.synthesizedGreeting, rfl, rfl, rfl, fun _ => rfl, fun _ => rfl⟩

theorem isFit_closing (hs : s.Speaks) (id : String) : (closing s id).IsFit := by
  have hname : isBlank "End Call" = false := by decide
  exact ⟨hname, hs.synthesizedClosing, rfl, rfl, rfl, fun _ => rfl, fun _ => rfl⟩

end Assembly

namespace Compile

variable {s : Settings} {c : Chart} {n : Pathway.Node} {o : Pathway.Edge}

theorem isFit_designate (asked : List Pathway.Variable) (h : n.IsFit) :
    (Start.designate asked n).IsFit := by
  have hname : isBlank Start.startName = false := by decide
  exact ⟨hname, h.spokenText, h.content, h.url, h.method, h.body, h.transferNumber⟩

theorem isFit_of_mem_cast (hs : s.Speaks) (h : n ∈ (cast s c).nodes) : n.IsFit := by
  have hstaffed : ∀ n ∈ (staffed s c).nodes, n.IsFit :=
    forall_mem_staffed (fun _ _ => Assembly.isFit_node hs _) (Assembly.isFit_greeting hs)
      (Assembly.isFit_closing hs)
  exact forall_mem_cast s c hstaffed (fun _ => isFit_designate (asked s c)) n h

theorem IsDrawing.isLabel {e : Chart.Edge} (he : e ∈ c.drawnEdges) (h : IsDrawing c e o) :
    IsLabel o.label := by
  obtain ⟨k, hk, hsource⟩ := Chart.exists_source (Chart.mem_drawnEdges.mp he).1
  rw [h.label k hk hsource]
  exact k.kind.isLabel_labelOf _ e

theorem isLabel_of_mem_routed (ho : o ∈ (routed s c).edges) :
    IsLabel o.label ∧ o.dataLabel = o.label := by
  obtain ⟨e, he, h⟩ := exists_drawn_of_mem_routed ho
  exact ⟨h.isLabel he, h.dataLabel⟩

theorem isLabel_of_mem_compile (m : Metadata) (now : Int)
    (ho : o ∈ (compile s m now c).pathway.edges) : IsLabel o.label ∧ o.dataLabel = o.label := by
  rw [compile_edges] at ho
  cases List.mem_append.mp ho with
  | inl ho => exact isLabel_of_mem_routed ho
  | inr ho =>
    obtain ⟨_, _, _, _, hconnection⟩ := exists_connection?_eq s c
    rw [Option.mem_toList, hconnection] at ho
    split at ho
    · cases ho
      exact ⟨Routing.isLabel_fallbackLabel, rfl⟩
    · cases ho

theorem compile_edges_ne_nil (s : Settings) (m : Metadata) (now : Int) (c : Chart) :
    (compile s m now c).pathway.edges ≠ [] := by
  obtain ⟨_, _, _, _, hconnection⟩ := exists_connection?_eq s c
  rw [compile_edges, hconnection]
  split
  · simp
  · rename_i hne
    simp [hne]

theorem isBlank_nameOf (m : Metadata) (now : Int) (c : Chart) : isBlank (nameOf m now c) = false := by
  apply Assembly.isBlank_firstNonBlank?
  exact isBlank_append_of_left (by decide) _

theorem isBlank_descriptionOf (m : Metadata) (now : Int) (c : Chart) :
    isBlank (descriptionOf m now c) = false := by
  apply Assembly.isBlank_firstNonBlank?
  exact isBlank_append_of_left (isBlank_append_of_left (by decide) _) _

end Compile

open Compile

/-- Whatever the chart is, what is compiled is a document that the provider takes. -/
theorem takes_compile {s : Settings} (hs : s.Speaks) (m : Metadata) (now : Int) (c : Chart) :
    Provider.Takes (compile s m now c).pathway.toValue where
  name := ⟨_, Pathway.field?_toValue _ "name", isBlank_nameOf m now c⟩
  description := ⟨_, Pathway.field?_toValue _ "description", isBlank_descriptionOf m now c⟩
  nodes := by
    have htaken (n : Pathway.Node) (hn : n ∈ (cast s c).nodes) :
        Provider.TakesNode n.type.name n.encode.ordered := (isFit_of_mem_cast hs hn).takesNode
    have hlast : (compile s m now c).pathway.toValue.field? "nodes" = some (.array
        ((cast s c).nodes.map (·.encode.ordered) ++
          [(Pathway.Entry.globalConfig "").encode.ordered])) := by
      rw [Pathway.field?_nodes, compile_nodes, List.map_append, List.map_map]
      rfl
    have hofType (type : Pathway.NodeType) (h : ∃ n ∈ (cast s c).nodes, n.type = type) :
        ∃ v ∈ (cast s c).nodes.map (·.encode.ordered), Provider.TakesNode type.name v := by
      obtain ⟨n, hn, rfl⟩ := h
      exact ⟨_, List.mem_map_of_mem hn, htaken n hn⟩
    refine ⟨_, _, hlast, ⟨"", rfl⟩, ?_, hofType .default (exists_mem_default s c),
      hofType .endCall (exists_mem_endCall s c)⟩
    intro v hv
    obtain ⟨n, hn, rfl⟩ := List.mem_map.mp hv
    exact ⟨n.type.name, htaken n hn⟩
  edges := by
    refine ⟨_, Pathway.field?_edges _, ?_, ?_⟩
    · simp [compile_edges_ne_nil]
    · intro v hv
      obtain ⟨o, ho, rfl⟩ := List.mem_map.mp hv
      obtain ⟨hlabel, hdata⟩ := isLabel_of_mem_compile m now ho
      exact Pathway.Edge.takesEdge hlabel hdata

/-- A chart of blank texts, with a call that is made, a number that is not known and a condition. -/
theorem takes_compile_blank :
    Settings.Speaks {} ∧ Provider.Takes (compile {} {} 0
      { nodes := [⟨"", .greeting "Hello", none, none, false, []⟩,
          ⟨"a", .webhook " " { body := some .null }, some " ", none, false, []⟩,
          ⟨"b", .transfer "" none, none, some "", false, []⟩,
          ⟨"c", .conditional "if (age > 1)", none, none, false, []⟩,
          ⟨"d", .endCall "" (some " "), none, none, false, []⟩]
        edges := [⟨"e", "c", "d", some "true", none, none, some " "⟩]
        name := some " " }).pathway.toValue := by
  have hs : Settings.Speaks {} := ⟨by decide, by decide, by decide, by decide⟩
  exact ⟨hs, takes_compile hs {} 0 _⟩

end Callflow
