import Callflow.Document
import Callflow.Proofs.Compile
import Callflow.Proofs.PathwayDocument
import Callflow.Proofs.Validation

/-!
A pathway that was read or compiled from a document is read back from what is written of it. The
temperatures of a compiled pathway are all that of the settings, and its bodies are those of the
webhooks of the document.
-/

namespace Callflow

open Compile

namespace Chart

def Kind.body? : Kind → Option Json.Value
  | .webhook _ call => call.body
  | _ => none

/-- No body of a chart is `null` or out of order. -/
def IsWritable (c : Chart) : Prop := ∀ n ∈ c.nodes, ∀ v ∈ n.kind.body?, v ≠ .null ∧ v.IsOrdered

end Chart

namespace Compile

variable {s : Settings} {c : Chart}

theorem body_node (s : Settings) (n : Chart.Node) :
    (Assembly.node s n).data.body = n.kind.body? := by
  obtain ⟨id, kind, label, name, isStart, extractVars⟩ := n
  cases kind <;> rfl

theorem temperature_node (s : Settings) (n : Chart.Node) :
    (Assembly.node s n).data.model.temperature = s.model.temperature := by
  obtain ⟨id, kind, label, name, isStart, extractVars⟩ := n
  cases kind <;> rfl

theorem isWritable_node (hs : s.model.temperature.isFinite = true) {n : Chart.Node}
    (hn : ∀ v ∈ n.kind.body?, v ≠ .null ∧ v.IsOrdered) : (Assembly.node s n).IsWritable := by
  refine ⟨(temperature_node s n).symm ▸ hs, ?_⟩
  rw [body_node]
  exact hn

theorem isWritable_compile (hs : s.model.temperature.isFinite = true) (hc : c.IsWritable)
    (m : Metadata) (now : Int) : (compile s m now c).pathway.IsWritable := by
  have hstaffed : ∀ n ∈ (staffed s c).nodes, n.IsWritable := by
    refine forall_mem_staffed ?_ (fun _ => ⟨hs, nofun⟩) fun _ => ⟨hs, nofun⟩
    intro n hn
    exact isWritable_node hs (hc n (Chart.mem_of_mem_usable (mem_speakingNodes.mp hn).1))
  intro n hn
  rw [compile_outputNodes] at hn
  exact forall_mem_cast s c hstaffed (fun _ h => ⟨h.temperature, h.body⟩) n hn

end Compile

namespace Editor

theorem Payload.body?_kind (p : Payload) (type : NodeType) : ∀ v ∈ (p.kind type).body?, v ∈ p.body := by
  cases type with
  | webhook => exact fun _ hv => hv
  | greeting | question | response | customerResponse | transfer | endCall | conditional
  | facebookLead | googleLead | zapier => exact nofun

theorem isWritable_toChart {d : Document} (h : ∀ n ∈ d.nodes, n.data.IsWritable) :
    d.toChart.IsWritable := by
  intro n hn v hv
  obtain ⟨m, hm, rfl⟩ := List.mem_map.mp hn
  exact (h m hm).body v (m.data.body?_kind m.nodeType v hv)

theorem isWritable_validate {d : Json.Value} (hd : d.IsOrdered)
    (h : (validate d).hasNodeList = true) : ∀ n ∈ (validate d).nodes, n.data.IsWritable := by
  obtain ⟨fields, vs, rfl, hnodes⟩ := exists_of_hasNodeList h
  have hvs := Json.Value.isOrdered_array_iff.mp (hd.of_lookup hnodes)
  rw [validate_object hnodes]
  intro n hn
  exact ((isKept_checkNodes [] 0 hvs).1 n hn).1.data

end Editor

/-- What is written of a pathway that was read, or compiled from a document at a finite
temperature, is read back as that pathway. -/
theorem decode_toValue :
    (∀ (d : Json.Value) (p : Pathway), d.IsOrdered → Pathway.decode d = .ok p →
      Pathway.decode p.toValue = .ok p) ∧
    (∀ (s : Settings) (m : Metadata) (now : Int) (d : Json.Value) (compiled : Compiled),
      s.model.temperature.isFinite = true → d.IsOrdered →
      compileDocument s m now d = .ok compiled →
      Pathway.decode compiled.pathway.toValue = .ok compiled.pathway) := by
  constructor
  · intro d p hd h
    exact Pathway.decode_written (Pathway.isWritable_of_decode h hd)
  · intro s m now d compiled hs hd h
    rw [compileDocument] at h
    split at h
    · rename_i hlist
      cases h
      have hkept := Editor.isWritable_validate hd hlist
      have hchart := Editor.isWritable_toChart (d := (Editor.validate d).toDocument) hkept
      have hpathway := isWritable_compile hs hchart m now
      exact Pathway.decode_written hpathway
    · exact nomatch h

def sample : Json.Value := .object [
  ("description", .string "By phone"),
  ("edges", .array [.object [("data", .object [("label", .string "next")]), ("id", .string "e"),
    ("label", .string "next"), ("source", .string "a"), ("sourceHandle", .null),
    ("target", .string "a")]]),
  ("name", .string "Intake"),
  ("nodes", .array [
    .object [
      ("data", .object [
        ("extractVarSettings", .object []),
        ("extractVars", .array [.array [.string "Age", .string "integer", .string "", .bool true]]),
        ("isStart", .bool true),
        ("modelOptions", .object [("modelType", .string "smart"),
          ("temperature", .number (.int 1 (by decide)))]),
        ("name", .string "Start"),
        ("prompt", .string "Hello"),
        ("text", .null)]),
      ("id", .string "a"),
      ("type", .object [("Default", .null)])],
    .object [("globalConfig", .object [("globalPrompt", .string "Be kind")]),
      ("id", .string "a")]])]

def calling : Json.Value := .object [
  ("edges", .array []),
  ("nodes", .array [
    .object [("data", .object [("body", .array [.null, .object [("k", .string "v")]]),
      ("url", .string "u")]), ("id", .string "w"), ("type", .string "webhook")]])]

theorem decode_toValue_sample :
    (∃ p, Pathway.decode sample = .ok p ∧ p.nodes.length = 2 ∧
      Pathway.decode p.toValue = .ok p) ∧
    (∃ compiled, compileDocument {} {} 0 calling = .ok compiled ∧
      Pathway.decode compiled.pathway.toValue = .ok compiled.pathway) := by
  obtain ⟨p, hp, hlength⟩ : ∃ p, Pathway.decode sample = .ok p ∧ p.nodes.length = 2 :=
    ⟨_, rfl, rfl⟩
  obtain ⟨compiled, hcompiled⟩ : ∃ compiled, compileDocument {} {} 0 calling = .ok compiled :=
    ⟨_, rfl⟩
  have hread := decode_toValue.1 sample p (by decide) hp
  have hfinite : ({} : Settings).model.temperature.isFinite = true := by decide +kernel
  have hwritten := decode_toValue.2 {} {} 0 calling compiled hfinite (by decide) hcompiled
  exact ⟨⟨p, hp, hlength, hread⟩, ⟨compiled, hcompiled, hwritten⟩⟩

end Callflow
