import Callflow.Command.Folder
import Callflow.Command.Run
import Callflow.Proofs.Validation

/-!
What is refused. A document without a list of nodes is, with all that its check finds, and no other.
A run that only validates gives notice of it by its exit code.
-/

namespace Callflow

def Json.Value.IsNavigable (d : Json.Value) : Prop :=
  ∃ fields vs, d = .object fields ∧ fields.lookup "nodes" = some (.array vs)

namespace Editor

variable {d : Json.Value}

theorem hasNodeList_iff : (validate d).hasNodeList = true ↔ d.IsNavigable := by
  constructor
  · exact exists_of_hasNodeList
  · rintro ⟨fields, vs, rfl, hnodes⟩
    rw [validate_object hnodes]

instance : Decidable d.IsNavigable := decidable_of_iff _ hasNodeList_iff

theorem messages_ne_nil (h : ¬ d.IsNavigable) : (validate d).messages ≠ [] := by
  rcases validate_cases d with hobject | ⟨_, hissues⟩
  · exact absurd hobject h
  · exact fun hnil => hissues (List.map_eq_nil_iff.mp hnil)

end Editor

section

variable {s : Settings} {m : Metadata} {now : Int} {d : Json.Value}

theorem compileDocument_of_isNavigable (h : d.IsNavigable) :
    ∃ compiled, compileDocument s m now d = .ok compiled ∧
      compiled.diagnostics.issues = (Editor.validate d).messages := by
  rw [compileDocument, if_pos (Editor.hasNodeList_iff.mpr h)]
  exact ⟨_, rfl, rfl⟩

theorem compileDocument_of_not_isNavigable (h : ¬ d.IsNavigable) :
    compileDocument s m now d = .error (.unnavigable (Editor.validate d).messages) := by
  rw [compileDocument, if_neg (Editor.hasNodeList_iff.not.mpr h)]

theorem compileDocument_eq_error_iff :
    (∃ r, compileDocument s m now d = .error r) ↔ ¬ d.IsNavigable := by
  constructor
  · rintro ⟨r, hr⟩ h
    obtain ⟨compiled, hcompiled, _⟩ := compileDocument_of_isNavigable h
    rw [hcompiled] at hr
    cases hr
  · exact fun h => ⟨_, compileDocument_of_not_isNavigable h⟩

end

namespace Command

section

variable {ε σ α β : Type}

theorem toOption_eq_some_iff {r : Except ε α} {a : α} : r.toOption = some a ↔ r = .ok a := by
  cases r <;> simp [Except.toOption]

theorem run_bind_of_ok {x : ExceptT ε (StateM σ) α} {k : α → ExceptT ε (StateM σ) β} {a : α}
    {s t : σ} (h : x.run.run s = (.ok a, t)) : (x >>= k).run.run s = (k a).run.run t := by
  rw [ExceptT.run_bind, StateT.run_bind, h]
  rfl

end

def verdict (d : Json.Value) : Nat := if (Editor.validate d).hasNodeList then succeeded else failed

theorem verdict_eq_failed_iff {d : Json.Value} : verdict d = failed ↔ ¬ d.IsNavigable := by
  rw [verdict, ite_eq_right_iff, Editor.hasNodeList_iff]
  exact imp_congr_right fun _ => iff_of_false (by decide) id

theorem validation_of_read {text : String} {d : Json.Value} (h : Json.Value.read text = .ok d) :
    ∃ report, validation text = .ok (report, verdict d) := by
  rw [validation, h]
  by_cases hvalid : (Editor.validate d).isValid = true
  · have hnodes : (Editor.validate d).hasNodeList = true := by
      rcases Editor.validate_cases d with hobject | ⟨_, hissues⟩
      · exact Editor.hasNodeList_iff.mpr hobject
      · exact absurd (List.isEmpty_iff.mp hvalid) hissues
    simp only [hvalid, verdict, hnodes, if_true]
    exact ⟨_, rfl⟩
  · simp only [hvalid, verdict]
    exact ⟨_, rfl⟩

namespace Folder

def settings? (f : Folder) (config : Option String) : Option Settings := do
  match config with
  | none => return {}
  | some path =>
    let text ← (f.read path).toOption
    (Settings.read text).toOption

def answer (f : Folder) (default : String) : String :=
  let line := Text.trim (String.ofList (nextLine f.input).1)
  if line = "" then default else line

def source? (f : Folder) (a : Arguments) : Option String :=
  if a.has .human then some (f.answer "data/flowchart.json") else a.path

/-- The document that a run with these arguments only validates. There is one if the run gets as far
as that, past the settings, and the flowchart is JSON. -/
def validated? (f : Folder) (args : List String) : Option Json.Value := do
  let a ← (Arguments.read? args).filter (·.has .validateOnly)
  let path ← f.source? a
  let text ← (f.read path).toOption
  let _ ← f.settings? (a.value? .config)
  (Json.Value.read text).toOption

def exitCode (f : Folder) (args : List String) : Nat := ((run args : StateM Folder Nat).run f).1

variable {f g : Folder} {a : Arguments} {args : List String} {path text : String}
  {output config : Option String} {s : Settings} {d : Json.Value}

theorem read_congr (h : g.files = f.files) : g.read path = f.read path := by
  cases f
  cases g
  subst h
  rfl

theorem settings?_congr (h : g.files = f.files) : g.settings? config = f.settings? config := by
  cases config with
  | none => rfl
  | some path => rw [settings?, settings?, read_congr h]

theorem run_readFile :
    (Host.readFile path : ExceptT Failure (StateM Folder) (Except FileError String)).run.run f =
      (.ok (f.read path), f) := rfl

theorem run_loadFlowchart (h : f.read path = .ok text) :
    (loadFlowchart path : ExceptT Failure (StateM Folder) String).run.run f = (.ok text, f) := by
  rw [loadFlowchart, run_bind_of_ok run_readFile, h]
  rfl

theorem run_loadSettings (h : f.settings? config = some s) :
    (loadSettings config : ExceptT Failure (StateM Folder) Settings).run.run f = (.ok s, f) := by
  cases config with
  | none =>
    obtain rfl := Option.some.inj h
    rfl
  | some path =>
    obtain ⟨text, htext, hsettings⟩ := Option.bind_eq_some_iff.mp h
    rw [toOption_eq_some_iff] at htext hsettings
    rw [loadSettings, run_bind_of_ok run_readFile, htext]
    simp only [hsettings]
    rfl

theorem run_process (hflag : a.has .validateOnly = true) (htext : f.read path = .ok text)
    (hsettings : f.settings? (a.value? .config) = some s) (hd : Json.Value.read text = .ok d) :
    ∃ g, (process a path output : ExceptT Failure (StateM Folder) Nat).run.run f =
      (.ok (verdict d), g) ∧ g.files = f.files := by
  obtain ⟨report, hreport⟩ := validation_of_read hd
  rw [process, run_bind_of_ok (run_loadFlowchart htext),
    run_bind_of_ok (run_loadSettings hsettings), if_pos hflag, hreport]
  exact ⟨_, rfl, rfl⟩

theorem run_ask (question default : String) :
    ∃ g, (ask question default : ExceptT Failure (StateM Folder) String).run.run f =
      (.ok (f.answer default), g) ∧ g.files = f.files :=
  ⟨_, rfl, rfl⟩

theorem run_start (hflag : a.has .validateOnly = true) (hpath : f.source? a = some path)
    (htext : f.read path = .ok text) (hsettings : f.settings? (a.value? .config) = some s)
    (hd : Json.Value.read text = .ok d) :
    ∃ g, (start a : ExceptT Failure (StateM Folder) Nat).run.run f =
      (.ok (verdict d), g) ∧ g.files = f.files := by
  rw [source?] at hpath
  by_cases hhuman : a.has .human = true
  · rw [if_pos hhuman] at hpath
    obtain rfl := Option.some.inj hpath
    let greeted : Folder := { f with err := f.err ++ ("--- Michi Interactive Mode ---" ++ "\n") }
    have hgreeted :
        (errLine "--- Michi Interactive Mode ---" : ExceptT Failure (StateM Folder) Unit).run.run
          f = (.ok (), greeted) := rfl
    obtain ⟨asked, hasked, hasked_files⟩ :=
      run_ask (f := greeted) "Enter flowchart path" "data/flowchart.json"
    obtain ⟨ready, hready, hready_files⟩ :=
      run_ask (f := asked) "Enter output path (optional)" "pathway.json"
    have hfiles : ready.files = f.files := hready_files.trans hasked_files
    -- both questions leave the files as they are, so the flowchart and the settings are still there
    rw [← read_congr hfiles] at htext
    rw [← settings?_congr hfiles] at hsettings
    rw [start, if_pos hhuman, run_bind_of_ok hgreeted, run_bind_of_ok hasked,
      run_bind_of_ok hready, ← hfiles]
    exact run_process hflag htext hsettings hd
  · rw [if_neg hhuman] at hpath
    rw [start, if_neg hhuman, hpath]
    exact run_process hflag htext hsettings hd

theorem validated?_eq_some_iff :
    f.validated? args = some d ↔
      ∃ a path text s, Arguments.read? args = some a ∧ a.has .validateOnly = true ∧
        f.source? a = some path ∧ f.read path = .ok text ∧
        f.settings? (a.value? .config) = some s ∧ Json.Value.read text = .ok d := by
  simp only [validated?, Option.bind_eq_bind, Option.bind_eq_some_iff, Option.filter_eq_some_iff,
    toOption_eq_some_iff]
  constructor
  · rintro ⟨a, ⟨ha, hflag⟩, path, hpath, text, htext, s, hsettings, hd⟩
    exact ⟨a, path, text, s, ha, hflag, hpath, htext, hsettings, hd⟩
  · rintro ⟨a, path, text, s, ha, hflag, hpath, htext, hsettings, hd⟩
    exact ⟨a, ⟨ha, hflag⟩, path, hpath, text, htext, s, hsettings, hd⟩

theorem run_of_validated? (h : f.validated? args = some d) :
    ∃ g, (run args : StateM Folder Nat).run f = (verdict d, g) ∧ g.files = f.files := by
  obtain ⟨a, path, text, s, ha, hflag, hpath, htext, hsettings, hd⟩ :=
    validated?_eq_some_iff.mp h
  obtain ⟨g, hstart, hfiles⟩ := run_start hflag hpath htext hsettings hd
  refine ⟨g, ?_, hfiles⟩
  simp only [run, ha]
  rw [StateT.run_bind, hstart]
  rfl

end Folder

end Command

open Command

/-- A document is refused exactly if it has no list of nodes, and then with all that its check finds;
any other compiles, with what its check finds. A run that only validates a document fails exactly if
it is refused. Such a run has loaded its settings first (`Folder.validated?`): one with settings that
cannot be read fails before it validates anything. -/
theorem compileDocument_refuses_unnavigable (s : Settings) (m : Metadata) (now : Int)
    (d : Json.Value) :
    ((∃ r, compileDocument s m now d = .error r) ↔ ¬ d.IsNavigable) ∧
      (¬ d.IsNavigable →
        compileDocument s m now d = .error (.unnavigable (Editor.validate d).messages) ∧
          (Editor.validate d).messages ≠ []) ∧
      (d.IsNavigable → ∃ compiled, compileDocument s m now d = .ok compiled ∧
        compiled.diagnostics.issues = (Editor.validate d).messages) ∧
      ∀ (f : Folder) (args : List String), f.validated? args = some d →
        (f.exitCode args = failed ↔ ∃ r, compileDocument s m now d = .error r) := by
  refine ⟨compileDocument_eq_error_iff, ?_, compileDocument_of_isNavigable, ?_⟩
  · intro hd
    exact ⟨compileDocument_of_not_isNavigable hd, Editor.messages_ne_nil hd⟩
  · intro f args hvalidated
    obtain ⟨g, hrun, _⟩ := Folder.run_of_validated? hvalidated
    rw [Folder.exitCode, hrun, compileDocument_eq_error_iff]
    exact verdict_eq_failed_iff

def desk (text : String) : Folder where
  files := [("f", text)]
  input := [' ', 'f', '\n']

theorem splitOn_f : "f".splitOn "/" = ["f"] := by
  rw [String.splitOn, if_neg (by decide), String.splitOnAux.eq_def, if_neg (by decide +kernel),
    if_neg (by decide +kernel), String.splitOnAux.eq_def, if_pos (by decide +kernel)]
  decide +kernel

theorem read_desk (text : String) : (desk text).read "f" = .ok text := by
  have hpath : Path.read "f" = .ok ⟨false, [], "f", false⟩ := by
    have hparse : Path.parse "f" = ⟨false, [], "f", false⟩ := by
      rw [Path.parse, splitOn_f]
      decide +kernel
    rw [Path.read, if_neg (by simp), if_neg (by decide), if_pos (by decide), hparse]
  have hwalk : (desk text).walk ⟨false, [], "f", false⟩ = .ok (.inside []) := rfl
  have hentry : (desk text).entry (.inside []) "f" = .ok (.file ["f"] text) := by
    have hfolder : "f".startsWith (Folder.joined ["f"] ++ "/") = false := by decide +kernel
    have hfile : (desk text).get? ["f"] = some text := rfl
    have hholds : (desk text).holds ["f"] = false := by simp [Folder.holds, desk, hfolder]
    have hshort : ¬ nameLimit < "f".utf8ByteSize := by decide
    simp [Folder.entry, hholds, hfile, hshort]
  simp [Folder.read, hpath, hwalk, hentry, Path.endsInFolder, isDots, Bind.bind, Except.bind,
    Pure.pure, Except.pure]

theorem compileDocument_refuses_unnavigable_desk :
    ∃ refused accepted : Json.Value,
      ¬ refused.IsNavigable ∧
      compileDocument {} {} 0 refused = .error (.unnavigable ["'nodes' must be an array"]) ∧
      (desk "\x7b\"nodes\": \x7b\x7d\x7d").exitCode ["f", "--validate-only"] = failed ∧
      accepted.IsNavigable ∧
      (∃ compiled, compileDocument {} {} 0 accepted = .ok compiled ∧
        compiled.diagnostics.issues = ["Flowchart is missing an 'edges' list"]) ∧
      (desk "\x7b\"nodes\": []\x7d").exitCode ["--validate-only", "-i"] ≠ failed := by
  let refused : Json.Value := .object [("nodes", .object [])]
  let accepted : Json.Value := .object [("nodes", .array [])]
  have hrefused : (desk "\x7b\"nodes\": \x7b\x7d\x7d").validated? ["f", "--validate-only"] =
      some refused := by
    have hread : Json.Value.read "\x7b\"nodes\": \x7b\x7d\x7d" = .ok refused :=
      toOption_eq_some_iff.mp (by decide +kernel)
    exact Folder.validated?_eq_some_iff.mpr
      ⟨_, "f", _, {}, rfl, rfl, rfl, read_desk _, rfl, hread⟩
  have haccepted : (desk "\x7b\"nodes\": []\x7d").validated? ["--validate-only", "-i"] =
      some accepted := by
    have hread : Json.Value.read "\x7b\"nodes\": []\x7d" = .ok accepted :=
      toOption_eq_some_iff.mp (by decide +kernel)
    exact Folder.validated?_eq_some_iff.mpr
      ⟨_, "f", _, {}, rfl, rfl, by decide +kernel, read_desk _, rfl, hread⟩
  have hnot : ¬ refused.IsNavigable := by decide
  have hnavigable : accepted.IsNavigable := by decide
  obtain ⟨hiff, herror, _, hexit⟩ := compileDocument_refuses_unnavigable {} {} 0 refused
  obtain ⟨hiff', _, hok, hexit'⟩ := compileDocument_refuses_unnavigable {} {} 0 accepted
  refine ⟨refused, accepted, hnot, (herror hnot).1, ?_, hnavigable, hok hnavigable, ?_⟩
  · exact (hexit _ _ hrefused).mpr (hiff.mpr hnot)
  · intro hfailed
    exact hiff'.mp ((hexit' _ _ haccepted).mp hfailed) hnavigable

end Callflow
