import Callflow.Proofs.Drawing
import Callflow.Proofs.Handle

/-!
The answers of a customer response. An edge that nothing else labels and that is drawn from an answer
is labelled with it, unless its handle is at the same time the name of a node that had to be given
another identifier than its own, cleaned: then the number of the answer is lost.
-/

namespace Callflow

open Text

namespace Routing

variable {digits rest : List Char}

def IsDecimal (digits : List Char) : Prop := digits ≠ [] ∧ ∀ d ∈ digits, d.isDigit = true

theorem responseTail?_clean (rest : List Char) :
    responseTail? ("response_" ++ String.ofList rest) = some rest := by
  have hchars : ("response_" ++ String.ofList rest).toList = "response_".toList ++ rest := by
    simp
  have hother : Condition.after? "response-".toList ("response_".toList ++ rest) = none := rfl
  rw [responseTail?, hchars, hother, Condition.after?_eq_some_iff.mpr rfl]
  rfl

theorem after?_plus (hdigits : IsDecimal digits) (rest : List Char) :
    Condition.after? ['+'] (digits ++ rest) = none := by
  obtain ⟨hne, hall⟩ := hdigits
  cases digits with
  | nil => exact absurd rfl hne
  | cons d digits =>
    have hd : '+' ≠ d := by
      rintro rfl
      exact absurd (hall '+' List.mem_cons_self) (by decide)
    simp [Condition.after?, hd]

theorem number?_decimal (hdigits : IsDecimal digits)
    (hlimit : Nat.ofDigitChars 10 digits 0 < indexLimit) :
    number? digits = some (Nat.ofDigitChars 10 digits 0) := by
  have hplus := after?_plus hdigits []
  rw [List.append_nil] at hplus
  have hvalue : digits.foldl (fun n c => n * 10 + (c.toNat - 48)) 0 =
      Nat.ofDigitChars 10 digits 0 := by
    simp only [Nat.ofDigitChars, Nat.mul_comm]
    rfl
  have hall : digits.all Char.isDigit = true := List.all_eq_true.mpr hdigits.2
  simp [number?, hplus, hdigits.1, hall, hvalue, hlimit]

theorem number?_of_mem (hdigits : IsDecimal digits) {c : Char} (hc : c ∈ rest)
    (hother : c.isDigit = false) : number? (digits ++ rest) = none := by
  have hall : (digits ++ rest).all Char.isDigit = false := by
    rw [List.all_eq_false]
    exact ⟨c, List.mem_append_right digits hc, by simp [hother]⟩
  simp [number?, after?_plus hdigits rest, hall]

end Routing

namespace Chart

open Routing

variable {c : Chart} {e : Edge} {handle option : String}

/-- A node goes by another identifier than its own, cleaned. -/
def IsRenamed (c : Chart) (key : String) : Prop :=
  c.isNode key = true ∧ c.idOf key ≠ Identifier.clean key

instance (c : Chart) (key : String) : Decidable (c.IsRenamed key) :=
  inferInstanceAs (Decidable (_ ∧ _))

/-- An edge that has no label of its own leaves a customer response by a handle that gives the number
of an answer. No list has so many answers that the number is out of bounds. -/
structure IsDrawnFrom (c : Chart) (e : Edge) (handle option : String) : Prop where
  answer : ∃ n ∈ c.usableNodes, n.id = e.source ∧
    ∃ text options name, n.kind = .customerResponse text options name ∧
      options.length ≤ indexLimit ∧
      ∃ digits, IsDecimal digits ∧ handle = "response-" ++ String.ofList digits ∧
        options[Nat.ofDigitChars 10 digits 0]? = some option
  handle : e.sourceHandle = some handle
  not_blank : isBlank option = false
  dataLabel : nonBlank? e.dataLabel = none
  label : nonBlank? e.label = none

theorem clean_responseHandle {digits : List Char} (hdigits : IsDecimal digits) :
    Identifier.clean ("response-" ++ String.ofList digits) =
      "response_" ++ String.ofList digits := by
  have hsame : digits.map Identifier.cleanChar = digits := by
    rw [List.map_congr_left (g := id), List.map_id]
    intro d hd
    have hid : Identifier.isIdChar d = true := by
      simp [Identifier.isIdChar, Char.isAlphanum, hdigits.2 d hd]
    simp [Identifier.cleanChar, hid]
  have hhead : "response-".toList.map Identifier.cleanChar = "response_".toList := rfl
  have hchars : ("response-" ++ String.ofList digits).toList = "response-".toList ++ digits := by
    simp
  rw [Identifier.clean, hchars, List.map_append, hsame, hhead, String.ofList_append]
  rfl

theorem cleanHandle_of_not_isRenamed (hne : handle ≠ "") (h : ¬ c.IsRenamed handle) :
    cleanHandle c.clean.nodeIds (some handle) = some (Identifier.clean handle) := by
  rw [cleanHandle_some hne]
  cases hnode : c.isNode handle with
  | false => rfl
  | true =>
    have hsame : c.idOf handle = Identifier.clean handle := by
      by_contra hbad
      exact h ⟨hnode, hbad⟩
    simp [hsame]

theorem cleanHandle_of_isRenamed (hne : handle ≠ "") (h : c.IsRenamed handle) :
    ∃ k : Nat, cleanHandle c.clean.nodeIds (some handle) =
      some (Identifier.clean handle ++ "_" ++ toString k) := by
  obtain ⟨hnode, hother⟩ := h
  obtain ⟨k, hk⟩ := exists_idOf_eq hnode
  rw [IdTable.candidate] at hk
  split at hk
  · exact absurd hk hother
  · exact ⟨k, by rw [cleanHandle_some hne, hnode, if_pos rfl, hk]⟩

theorem responseIndex?_decimal {digits : List Char} (hdigits : IsDecimal digits)
    (hlimit : Nat.ofDigitChars 10 digits 0 < indexLimit) :
    responseIndex? ("response_" ++ String.ofList digits) =
      some (Nat.ofDigitChars 10 digits 0) := by
  rw [responseIndex?, responseTail?_clean]
  exact number?_decimal hdigits hlimit

theorem responseIndex?_suffixed {digits : List Char} (hdigits : IsDecimal digits) (suffix : String) :
    responseIndex? ("response_" ++ String.ofList digits ++ "_" ++ suffix) = none := by
  have hjoined : "response_" ++ String.ofList digits ++ "_" ++ suffix =
      "response_" ++ String.ofList (digits ++ '_' :: suffix.toList) := by
    simp [← String.toList_inj]
  rw [hjoined, responseIndex?, responseTail?_clean]
  exact number?_of_mem hdigits List.mem_cons_self (by decide)

theorem IsDrawnFrom.optionAt? (h : c.IsDrawnFrom e handle option) {n : Node}
    (hn : n ∈ c.usableNodes) (hsource : n.id = e.source) :
    n.kind.optionAt? (cleanHandle c.clean.nodeIds e.sourceHandle) =
      if c.IsRenamed handle then none else some (trim option) := by
  obtain ⟨p, hp, hpsource, text, options, name, hkind, hlength, digits, hdigits, hhandle, hoption⟩ :=
    h.answer
  obtain rfl : p = n := eq_of_id_eq hp hn (hpsource.trans hsource.symm)
  have hne : handle ≠ "" := by
    intro hempty
    have hnil := congrArg String.toList (hhandle.symm.trans hempty)
    simp at hnil
  have hlimit : Nat.ofDigitChars 10 digits 0 < indexLimit := by
    obtain ⟨hlt, _⟩ := List.getElem?_eq_some_iff.mp hoption
    omega
  have hclean := clean_responseHandle hdigits
  rw [← hhandle] at hclean
  rw [h.handle]
  by_cases hrenamed : c.IsRenamed handle
  · obtain ⟨k, hk⟩ := cleanHandle_of_isRenamed hne hrenamed
    rw [if_pos hrenamed, Kind.optionAt?, hk, hclean, Option.bind_some,
      responseIndex?_suffixed hdigits]
    rfl
  · rw [if_neg hrenamed, Kind.optionAt?, cleanHandle_of_not_isRenamed hne hrenamed, hclean,
      Option.bind_some, responseIndex?_decimal hdigits hlimit, Option.bind_some, hkind, Kind.options,
      hoption, trimmed?, nonBlank?, Option.filter_some]
    simp [h.not_blank]

end Chart

namespace Compile

variable {c : Chart} {e : Chart.Edge} {o : Pathway.Edge} {handle option : String}

theorem IsDrawing.of_answer (h : IsDrawing c e o) (hanswer : c.IsDrawnFrom e handle option) :
    o.label = if c.IsRenamed handle then Routing.fallbackLabel else trim option := by
  obtain ⟨n, hn, hsource, text, options, name, hkind, _⟩ := hanswer.answer
  have hplain : n.kind.condition? = none := by rw [hkind]; rfl
  rw [h.label n hn hsource, Chart.Kind.labelOf, hplain, hanswer.optionAt? hn hsource]
  simp only [trimmed?, hanswer.dataLabel, hanswer.label, Option.map_none, Option.none_or]
  split <;> rfl

end Compile

open Compile

/-- Of the edges that lead to a node that speaks, each that is drawn from an answer is labelled with
it, unless its handle is the name of a renamed node: then nothing labels it. -/
theorem compile_answer_labels (s : Settings) (m : Metadata) (now : Int) (c : Chart) :
    ∃ drawn, (compile s m now c).pathway.edges = drawn ++ (connection? s c).toList ∧
      List.Forall₂ (fun e o => ∀ handle option, c.IsDrawnFrom e handle option →
        o.label = if c.IsRenamed handle then Routing.fallbackLabel else trim option)
        c.drawnEdges drawn := by
  refine ⟨(routed s c).edges, compile_edges s m now c, (routed_drawing s c).imp ?_⟩
  intro e o h handle option hanswer
  exact h.of_answer hanswer

/-- The handle of the edge is the name of the second node, whose identifier gets a suffix because the
first node has it already. So the edge says nothing of the answer it was drawn from. -/
theorem exists_answer_not_label :
    ∃ (c : Chart) (e : Chart.Edge) (o : Pathway.Edge),
      c.drawnEdges = [e] ∧ (compile {} {} 0 c).pathway.edges = [o] ∧
      c.IsDrawnFrom e "response-0" "Yes" ∧ o.label = "next" ∧ trim "Yes" ≠ "next" := by
  let ask : Chart.Node := { id := "ask", kind := .customerResponse "Working?" ["Yes", "No"] none }
  let e : Chart.Edge :=
    { id := "e", source := "ask", target := "response_0", sourceHandle := some "response-0" }
  let c : Chart :=
    { nodes := [{ id := "response_0", kind := .question "Before" },
        { id := "response-0", kind := .question "After" }, ask]
      edges := [e] }
  let o : Pathway.Edge :=
    { id := "e", source := "ask", target := "response_0", label := "next"
      sourceHandle := some "response_0_2", dataLabel := "next" }
  have hanswer : c.IsDrawnFrom e "response-0" "Yes" := by
    have hdigits : Routing.IsDecimal ['0'] := by simp [Routing.IsDecimal]
    have hblank : isBlank "Yes" = false := by decide
    exact ⟨⟨ask, by decide, rfl, _, _, _, rfl, by decide, ['0'], hdigits, rfl, rfl⟩, rfl, hblank,
      rfl, rfl⟩
  have hedges : (compile {} {} 0 c).pathway.edges = [o] := by decide
  exact ⟨c, e, o, by decide, hedges, hanswer, rfl, by decide⟩

end Callflow
