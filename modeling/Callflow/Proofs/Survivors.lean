import Callflow.Proofs.Validation

/-!
What a check keeps of lists of any shape. Of the entries of the list of nodes, the first object with
each identifier is kept, and of those of the list of edges, the objects between nodes that were
kept; every other entry is left out with one issue, which says why.
-/

namespace Callflow.Editor

open Json Value

variable {seen known : List String} {vs : List Value} {i : Nat} {v : Value}

def ownId? (v : Value) : Option String :=
  v.object?.bind fun fields => nonEmpty? (text? fields "id")

def knownTag (tag : Option String) : String :=
  (tag.filter fun tag => (NodeType.ofTag? tag).isSome).getD fallbackTag

/-- What becomes of an entry of the list of nodes at its place. -/
inductive NodeOutcome (vs : List Value) (i : Nat) : Value → Checked (Option Node) → Prop where
  | kept {fields : List (String × Value)} {id : String} {issues : List Issue}
    (own : ownId? (.object fields) = some id) (first : id ∉ (vs.take i).filterMap ownId?)
    (accepted : (NodeType.ofTag? (knownTag (text? fields "type"))).isSome = true) :
    NodeOutcome vs i (.object fields)
      (some {
        id
        type := some (knownTag (text? fields "type"))
        data := (checkData id (fields.lookup "data")).1 }, issues)
  | notObject {v : Value} (h : v.object? = none) : NodeOutcome vs i v (none, [.nodeNotObject i])
  | withoutId {fields : List (String × Value)} (h : ownId? (.object fields) = none) :
    NodeOutcome vs i (.object fields) (none, [.nodeWithoutId i])
  | repeated {v : Value} {id : String} (own : ownId? v = some id)
    (earlier : id ∈ (vs.take i).filterMap ownId?) : NodeOutcome vs i v (none, [.nodeRepeated id])

inductive EdgeOutcome (known : List String) (i : Nat) : Value → Checked (Option Edge) → Prop where
  | kept {fields : List (String × Value)} {id source target : String} {issues : List Issue}
    (hsource : text? fields "source" = some source) (htarget : text? fields "target" = some target)
    (known_source : source ∈ known) (known_target : target ∈ known)
    (hid : id = (nonEmpty? (text? fields "id")).getD ("e-" ++ source ++ "-" ++ target))
    (ne_empty : id ≠ "") :
    EdgeOutcome known i (.object fields)
      (some {
        id, source, target
        sourceHandle := text? fields "sourceHandle"
        targetHandle := text? fields "targetHandle"
        label := text? fields "label"
        data := ((fields.lookup "data").bind object?).map fun d => ⟨text? d "label"⟩ }, issues)
  | notObject {v : Value} (h : v.object? = none) : EdgeOutcome known i v (none, [.edgeNotObject i])
  | withoutEnds {fields : List (String × Value)}
    (h : text? fields "source" = none ∨ text? fields "target" = none) :
    EdgeOutcome known i (.object fields) (none, [.edgeWithoutEnds i])
  | toNowhere {fields : List (String × Value)} {source target : String}
    (hsource : text? fields "source" = some source) (htarget : text? fields "target" = some target)
    (h : source ∉ known ∨ target ∉ known) :
    EdgeOutcome known i (.object fields) (none, [.edgeToNowhere source target])

/-- Every entry of a list has its outcome, and what is kept and the issues are those of all entries
in their order. -/
def Sifted {α : Type} (outcome : Nat → Value → Checked (Option α) → Prop)
    (entries : List (Value × Nat)) (checked : Checked (List α)) : Prop :=
  ∃ outcomes, List.Forall₂ (fun entry o => outcome entry.2 entry.1 o) entries outcomes ∧
    checked = (outcomes.filterMap (·.1), outcomes.flatMap (·.2))

namespace Sifted

variable {α : Type} {outcome : Nat → Value → Checked (Option α) → Prop}
  {entries : List (Value × Nat)} {checked : Checked (List α)}

theorem nil : Sifted outcome [] ([], []) := ⟨[], .nil, rfl⟩

theorem cons {o : Checked (Option α)} (ho : outcome i v o) (h : Sifted outcome entries checked) :
    Sifted outcome ((v, i) :: entries) (o.1.toList ++ checked.1, o.2 ++ checked.2) := by
  obtain ⟨outcomes, houtcomes, rfl⟩ := h
  refine ⟨o :: outcomes, .cons ho houtcomes, ?_⟩
  obtain ⟨kept, issues⟩ := o
  cases kept <;> simp

theorem exists_of_mem (h : Sifted outcome entries checked) {a : α} (ha : a ∈ checked.1) :
    ∃ v i issues, (v, i) ∈ entries ∧ outcome i v (some a, issues) := by
  obtain ⟨outcomes, houtcomes, rfl⟩ := h
  obtain ⟨⟨kept, issues⟩, ho, hkept⟩ := List.mem_filterMap.mp ha
  obtain ⟨⟨v, i⟩, hentry, houtcome⟩ := exists_left_of_forall₂ houtcomes ho
  obtain rfl : kept = some a := hkept
  exact ⟨v, i, issues, hentry, houtcome⟩

end Sifted

theorem checkTag_eq_knownTag (id : String) (tag : Option String) :
    (checkTag id tag).1 = knownTag tag := by
  cases tag with
  | none => rfl
  | some tag =>
    by_cases h : (NodeType.ofTag? tag).isSome = true <;>
      simp [checkTag, knownTag, Option.filter_some, h]

theorem nodeOutcome_checkNode
    (hseen : ∀ id, id ∈ seen ↔ id ∈ (vs.take i).filterMap ownId?) (v : Value) :
    NodeOutcome vs i v (checkNode seen i v) := by
  cases v with
  | object fields =>
    cases hid : nonEmpty? (text? fields "id") with
    | none =>
      simp only [checkNode, hid]
      exact .withoutId hid
    | some id =>
      by_cases hmem : id ∈ seen
      · simp only [checkNode, hid, if_pos hmem]
        exact .repeated hid ((hseen id).mp hmem)
      · have haccepted := isSome_ofTag?_checkTag id (text? fields "type")
        rw [checkTag_eq_knownTag] at haccepted
        simp only [checkNode, hid, if_neg hmem, checkTag_eq_knownTag]
        exact .kept hid (fun h => hmem ((hseen id).mpr h)) haccepted
  | null | bool _ | number _ | string _ | array _ => exact .notObject rfl

/-- Whatever becomes of an entry, its identifier is among those that were seen before or it is that
of the node that is kept. -/
theorem NodeOutcome.ownId?_eq {o : Checked (Option Node)} (h : NodeOutcome vs i v o) (id : String) :
    ownId? v = some id ∧ id ∉ (vs.take i).filterMap ownId? ↔ ∃ n, o.1 = some n ∧ n.id = id := by
  cases h with
  | kept own first _ =>
    constructor
    · intro h
      exact ⟨_, rfl, Option.some.inj (own.symm.trans h.1)⟩
    · intro h
      obtain ⟨n, hn, rfl⟩ := h
      obtain rfl := Option.some.inj hn
      exact ⟨own, first⟩
  | notObject h => simp [ownId?, h]
  | withoutId h => simp [h]
  | repeated own earlier =>
    simp only [own, Option.some.injEq, reduceCtorEq, false_and, exists_false, iff_false]
    intro h
    exact h.2 (h.1 ▸ earlier)

theorem getD_madeId_ne_empty (own : Option String) (source target : String) :
    (nonEmpty? own).getD ("e-" ++ source ++ "-" ++ target) ≠ "" := by
  cases hid : nonEmpty? own with
  | none => exact madeId_ne_empty source target
  | some id => exact (nonEmpty?_eq_some.mp hid).2

theorem edgeOutcome_checkEdge (known : List String) (i : Nat) (v : Value) :
    EdgeOutcome known i v (checkEdge known i v) := by
  cases v with
  | object fields =>
    cases hsource : text? fields "source" with
    | none =>
      simp only [checkEdge, hsource]
      exact .withoutEnds (.inl hsource)
    | some source =>
      cases htarget : text? fields "target" with
      | none =>
        simp only [checkEdge, hsource, htarget]
        exact .withoutEnds (.inr htarget)
      | some target =>
        by_cases hends : source ∈ known ∧ target ∈ known
        · have hne := getD_madeId_ne_empty (text? fields "id") source target
          cases hid : nonEmpty? (text? fields "id") with
          | none =>
            rw [hid] at hne
            simp only [checkEdge, hsource, htarget, if_pos hends, hid]
            exact .kept hsource htarget hends.1 hends.2 (by rw [hid]; rfl) hne
          | some id =>
            rw [hid] at hne
            simp only [checkEdge, hsource, htarget, if_pos hends, hid]
            exact .kept hsource htarget hends.1 hends.2 (by rw [hid]; rfl) hne
        · simp only [checkEdge, hsource, htarget, if_neg hends]
          exact .toNowhere hsource htarget (not_and_or.mp hends)
  | null | bool _ | number _ | string _ | array _ => exact .notObject rfl

theorem checkNodes_cons (seen : List String) (i : Nat) (v : Value) (rest : List Value) :
    checkNodes seen i (v :: rest) =
      let o := checkNode seen i v
      let more := checkNodes ((o.1.map (·.id)).toList ++ seen) (i + 1) rest
      (o.1.toList ++ more.1, o.2 ++ more.2) := by
  cases hcheck : (checkNode seen i v).1 with
  | none => rw [checkNodes_cons_of_none (Prod.ext hcheck rfl)]; simp [hcheck]
  | some n => rw [checkNodes_cons_of_some (Prod.ext hcheck rfl)]; simp [hcheck]

theorem sifted_checkNodes_from {before : List Value}
    (hseen : ∀ id, id ∈ seen ↔ id ∈ before.filterMap ownId?) (rest : List Value) :
    Sifted (NodeOutcome (before ++ rest)) (rest.zipIdx before.length)
      (checkNodes seen before.length rest) := by
  induction rest generalizing before seen with
  | nil => exact .nil
  | cons v rest ih =>
    have htake : (before ++ v :: rest).take before.length = before := by simp
    have houtcome : NodeOutcome (before ++ v :: rest) before.length v
        (checkNode seen before.length v) := nodeOutcome_checkNode (by rwa [htake]) v
    have hown := houtcome.ownId?_eq
    rw [htake] at hown
    have hmore := @ih (((checkNode seen before.length v).1.map (·.id)).toList ++ seen)
      (before ++ [v]) ?_
    · rw [List.append_assoc, List.length_append] at hmore
      rw [checkNodes_cons, List.zipIdx_cons]
      exact hmore.cons houtcome
    -- An entry that is dropped adds no identifier: it has none, or one that an entry before it has.
    · intro id
      have hlast : id ∈ [v].filterMap ownId? ↔ ownId? v = some id := by simp
      have hnew : id ∈ ((checkNode seen before.length v).1.map (·.id)).toList ↔
          ownId? v = some id ∧ id ∉ before.filterMap ownId? := by
        rw [hown id, Option.mem_toList, Option.map_eq_some_iff]
      rw [List.mem_append, hnew, hseen id, List.filterMap_append, List.mem_append, hlast]
      tauto

theorem sifted_checkNodes (vs : List Value) :
    Sifted (NodeOutcome vs) vs.zipIdx (checkNodes [] 0 vs) := by
  have hnone : ∀ id, id ∈ ([] : List String) ↔ id ∈ ([] : List Value).filterMap ownId? := by simp
  exact sifted_checkNodes_from hnone vs

theorem exists_entry_of_mem {n : Node} (hn : n ∈ (checkNodes [] 0 vs).1) :
    ∃ fields, vs.find? (fun v => ownId? v == some n.id) = some (.object fields) ∧
      n.data = (checkData n.id (fields.lookup "data")).1 := by
  obtain ⟨v, i, issues, hentry, houtcome⟩ := (sifted_checkNodes vs).exists_of_mem hn
  obtain ⟨hi, hv⟩ := List.getElem?_eq_some_iff.mp (List.mem_zipIdx_iff_getElem?.mp hentry)
  cases houtcome with
  | @kept fields id _ own first _ =>
    refine ⟨fields, List.find?_eq_some_iff_getElem.mpr ⟨by simpa using own, i, hi, hv, ?_⟩, rfl⟩
    intro j hj
    have hother : ownId? vs[j] ≠ some id := by
      intro heq
      have hmem : vs[j] ∈ vs.take i := List.mem_take_iff_getElem.mpr ⟨j, by omega, rfl⟩
      exact first (List.mem_filterMap.mpr ⟨vs[j], hmem, heq⟩)
    simpa using hother

theorem sifted_checkEdges (known : List String) (i : Nat) (es : List Value) :
    Sifted (EdgeOutcome known) (es.zipIdx i) (checkEdges known i es) := by
  induction es generalizing i with
  | nil => exact .nil
  | cons v rest ih => exact (ih (i + 1)).cons (edgeOutcome_checkEdge known i v)

def EdgesSifted (known : List String) : Option Value → Checked (List Edge) → Prop
  | some (.array es), checked => Sifted (EdgeOutcome known) es.zipIdx checked
  | some _, checked => checked = ([], [.edgesNotArray])
  | none, checked => checked = ([], [.edgesMissing])

theorem edgesSifted_checkEdgeList (known : List String) (edges : Option Value) :
    EdgesSifted known edges (checkEdgeList known edges) := by
  cases edges with
  | none => rfl
  | some v =>
    cases v with
    | array es => exact sifted_checkEdges known 0 es
    | null | bool _ | number _ | string _ | object _ => rfl

/-- A document with a list of nodes keeps what can be kept of its lists, and is valid if there is no
issue. -/
theorem validate_sifts {fields : List (String × Value)} {vs : List Value}
    (h : fields.lookup "nodes" = some (.array vs)) :
    ∃ nodeIssues edgeIssues,
      Sifted (NodeOutcome vs) vs.zipIdx ((validate (.object fields)).nodes, nodeIssues) ∧
      EdgesSifted ((validate (.object fields)).nodes.map (·.id)) (fields.lookup "edges")
        ((validate (.object fields)).edges, edgeIssues) ∧
      (validate (.object fields)).issues = nodeIssues ++ edgeIssues ∧
      ((validate (.object fields)).isValid = true ↔ (validate (.object fields)).issues = []) := by
  rw [validate_object h]
  exact ⟨_, _, sifted_checkNodes vs, edgesSifted_checkEdgeList _ _, rfl, List.isEmpty_iff⟩

theorem validate_sifts_crowded :
    ∃ fields vs nodeIssues edgeIssues, fields.lookup "nodes" = some (.array vs) ∧ vs.length = 6 ∧
      (validate (.object fields)).nodes.map (·.id) = ["a", "b"] ∧
      (validate (.object fields)).edges.map (·.id) = ["e-b-a", "2"] ∧
      Sifted (NodeOutcome vs) vs.zipIdx ((validate (.object fields)).nodes, nodeIssues) ∧
      EdgesSifted ["a", "b"] (fields.lookup "edges")
        ((validate (.object fields)).edges, edgeIssues) ∧
      (validate (.object fields)).issues = nodeIssues ++ edgeIssues := by
  let vs : List Value := [
    .object [("id", .string "a"), ("type", .string "End-Call")],
    .null,
    .object [("id", .string "")],
    .object [("id", .string "a"), ("type", .string "greeting")],
    .object [("id", .array [])],
    .object [("data", .string "b"), ("id", .string "b"), ("type", .string "wizard")]]
  let fields : List (String × Value) := [
    ("edges", .array [
      .object [("source", .string "b"), ("target", .string "a")],
      .object [("id", .string "1"), ("source", .string "a"), ("target", .null)],
      .object [("id", .string "2"), ("source", .string "a"), ("target", .string "a")],
      .object [("id", .string "3"), ("source", .string "a"), ("target", .string "c")]]),
    ("nodes", .array vs)]
  have hnodes : fields.lookup "nodes" = some (.array vs) := rfl
  have hids : (validate (.object fields)).nodes.map (·.id) = ["a", "b"] := by decide
  have hedges : (validate (.object fields)).edges.map (·.id) = ["e-b-a", "2"] := by decide
  obtain ⟨nodeIssues, edgeIssues, hkept, hjoined, hissues, _⟩ := validate_sifts hnodes
  rw [hids] at hjoined
  exact ⟨fields, vs, nodeIssues, edgeIssues, hnodes, rfl, hids, hedges, hkept, hjoined, hissues⟩

end Callflow.Editor
