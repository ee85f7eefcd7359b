import Mathlib.Data.String.Basic
import Ironclaw.Tracker.Document

/-!
# Scientific reports

`create_report` writes a report under `reports/` from a template, `append_section` checks
that the report exists and appends a section to it, and `get_report` reads it back; the
experiment tracker keeps its documents under `experiments/` of the same workspace.

A registry says what the reports are: for each id, the text the report was created with
and the sections appended since. Every call of either tool moves the workspace as its
effect moves the registry (`Represents`), so over any interleaving of calls a report reads
as its creation text followed by the sections appended to it, in order, and the tracker's
documents and answers do not depend on the report calls made between its own.
-/

namespace Ironclaw.Reports

open Tracker (Workspace Clock experimentPath afterCall AgreeOnExperiments)
open Json

section Calls

variable {α : Type}

/-- `rpt-{day}-{first eight characters of a fresh UUID}`. -/
def newReportId (clock : Clock) (uuid : String) : String :=
  "rpt-" ++ clock.day ++ "-" ++ ⟨uuid.data.take 8⟩

def reportPath (reportId : String) : String := "reports/" ++ reportId ++ ".md"

def sectionText (params : Json α) (key : String) : String :=
  ((params.get key).bind asStr).getD "_(To be written)_"

def stringList (params : Json α) (key : String) : List String :=
  (((params.get key).bind asArray).map (·.filterMap asStr)).getD []

def refsSection (references : List String) : String :=
  if references.isEmpty then "_(No references listed)_"
  else "\n".intercalate (references.enum.map fun (i, r) => toString (i + 1) ++ ". " ++ r)

def linkedExperiments (experimentIds : List String) : String :=
  if experimentIds.isEmpty then ""
  else "\n**Linked Experiments:** " ++ ", ".intercalate experimentIds ++ "\n"

/-- The `format!` of `create_report`. -/
def reportDocument (title reportId generated linked abstractText introduction methods results
    discussion conclusion refs : String) : String :=
  "# " ++ title ++ "\n\n**Report ID:** " ++ reportId ++ "\n**Generated:** " ++ generated ++
    "\n" ++ linked ++ "\n---\n\n## Abstract\n\n" ++ abstractText ++
    "\n\n## 1. Introduction\n\n" ++ introduction ++ "\n\n## 2. Methods\n\n" ++ methods ++
    "\n\n## 3. Results\n\n" ++ results ++ "\n\n## 4. Discussion\n\n" ++ discussion ++
    "\n\n## 5. Conclusion\n\n" ++ conclusion ++ "\n\n## References\n\n" ++ refs ++ "\n"

def createdDocument (clock : Clock) (uuid : String) (params : Json α) (title : String) : String :=
  reportDocument title (newReportId clock uuid) clock.rfc3339
    (linkedExperiments (stringList params "experiment_ids")) (sectionText params "abstract")
    (sectionText params "introduction") (sectionText params "methods")
    (sectionText params "results") (sectionText params "discussion")
    (sectionText params "conclusion") (refsSection (stringList params "references"))

def createReport (clock : Clock) (uuid : String) (ws : Workspace) (params : Json α) :
    Except ToolError (Workspace × Json α) := do
  let title ← requireStr params "title"
  let reportId := newReportId clock uuid
  let path := reportPath reportId
  return (ws.write path (createdDocument clock uuid params title), .object [
    ("status", .string "created"), ("report_id", .string reportId), ("path", .string path),
    ("title", .string title)])

def reportNotFound (reportId message : String) : ToolError :=
  .invalidParameters ("Report '" ++ reportId ++ "' not found: " ++ message)

def getReport (updatedAt : String → String) (ws : Workspace) (params : Json α) :
    Except ToolError (Json α) := do
  let reportId ← requireStr params "report_id"
  let path := reportPath reportId
  match ws.read path with
  | .error message => throw (reportNotFound reportId message)
  | .ok content =>
    return .object [("report_id", .string reportId), ("path", .string path),
      ("content", .string content), ("updated_at", .string (updatedAt path))]

def listReports [NatCast α] (listing : Except String (List Tracker.Workspace.Entry)) :
    Except ToolError (Json α) :=
  Tracker.listFiles "reports" "Failed to list reports" listing

def sectionEntry (sectionName content : String) : String :=
  "\n\n### " ++ sectionName ++ " (appended)\n\n" ++ content

def appendSection (ws : Workspace) (params : Json α) :
    Except ToolError (Workspace × Json α) := do
  let reportId ← requireStr params "report_id"
  let sectionName ← requireStr params "section_name"
  let content ← requireStr params "content"
  let path := reportPath reportId
  match ws.read path with
  | .error message => throw (reportNotFound reportId message)
  | .ok _ =>
    return (ws.append path (sectionEntry sectionName content), .object [
      ("status", .string "appended"), ("report_id", .string reportId),
      ("section", .string sectionName)])

def unknownAction (action : String) : ToolError :=
  .invalidParameters ("unknown action: '" ++ action ++
    "'. Use 'create', 'get', 'list', or 'append_section'")

/-- `ScienceReportTool::execute`, less the elapsed time. `list` and `updatedAt` are inputs. -/
def execute (clock : Clock) (uuid : String) (updatedAt : String → String)
    (list : Except ToolError (Json α)) (ws : Workspace) (params : Json α) :
    Except ToolError (Workspace × Json α) := do
  let action ← requireStr params "action"
  match action with
  | "create" => createReport clock uuid ws params
  | "get" => return (ws, ← getReport updatedAt ws params)
  | "list" => return (ws, ← list)
  | "append_section" => appendSection ws params
  | _ => throw (unknownAction action)

end Calls

/-! ## The registry of reports -/

/-- A report as the registry keeps it: its text at creation and the sections appended since. -/
structure Report where
  created : String
  sections : List (String × String)

def Report.render (r : Report) : String :=
  r.created ++ String.join (r.sections.map fun s => sectionEntry s.1 s.2)

inductive Effect
  | create (reportId document : String)
  | append (reportId sectionName content : String)
  | nothing

def Effect.apply (reg : String → Option Report) : Effect → String → Option Report
  | .create reportId document => Function.update reg reportId (some ⟨document, []⟩)
  | .append reportId sectionName content =>
    match reg reportId with
    | some r =>
      Function.update reg reportId (some ⟨r.created, r.sections ++ [(sectionName, content)]⟩)
    | none => reg
  | .nothing => reg

def Effect.run (ws : Workspace) : Effect → Workspace
  | .create reportId document => ws.write (reportPath reportId) document
  | .append reportId sectionName content =>
    match ws.docs (reportPath reportId) with
    | some _ => ws.append (reportPath reportId) (sectionEntry sectionName content)
    | none => ws
  | .nothing => ws

section Effects

variable {α : Type}

/-- The effect of a call of the report tool, read from its parameters. -/
def effect (clock : Clock) (uuid : String) (params : Json α) : Effect :=
  match requireStr params "action" with
  | .ok "create" =>
    match requireStr params "title" with
    | .ok title => .create (newReportId clock uuid) (createdDocument clock uuid params title)
    | .error _ => .nothing
  | .ok "append_section" =>
    match requireStr params "report_id", requireStr params "section_name",
      requireStr params "content" with
    | .ok reportId, .ok sectionName, .ok content => .append reportId sectionName content
    | _, _, _ => .nothing
  | _ => .nothing

theorem afterCall_execute (clock : Clock) (uuid : String) (updatedAt : String → String)
    (list : Except ToolError (Json α)) (ws : Workspace) (params : Json α) :
    afterCall (execute clock uuid updatedAt list ws params) ws =
      (effect clock uuid params).run ws := by
  unfold execute effect
  cases requireStr params "action" with
  | error e => rfl
  | ok action =>
    simp only [except_bind_ok]
    split
    · unfold createReport
      cases requireStr params "title" <;> rfl
    · cases getReport updatedAt ws params <;> rfl
    · cases list <;> rfl
    · unfold appendSection
      cases requireStr params "report_id" <;> cases requireStr params "section_name" <;>
        cases requireStr params "content" <;> try rfl
      rename_i reportId _ _
      cases hd : ws.docs (reportPath reportId) <;>
        simp [Tracker.Workspace.read, hd, Effect.run, afterCall]
    · split <;> first | rfl | simp_all

end Effects

/-! ## The workspace holds the registry -/

def Represents (ws : Workspace) (reg : String → Option Report) : Prop :=
  ∀ reportId, ws.docs (reportPath reportId) = (reg reportId).map Report.render

def registryOf (ws : Workspace) (reportId : String) : Option Report :=
  (ws.docs (reportPath reportId)).map fun doc => ⟨doc, []⟩

@[simp] theorem Report.render_nil (doc : String) : (⟨doc, []⟩ : Report).render = doc := by
  simp [Report.render, String.join]

theorem Report.render_append (r : Report) (sectionName content : String) :
    (⟨r.created, r.sections ++ [(sectionName, content)]⟩ : Report).render =
      r.render ++ sectionEntry sectionName content :=
  String.ext (by simp [Report.render])

theorem reportPath_injective : Function.Injective reportPath := fun a b h =>
  String.ext (by simpa [reportPath] using congrArg String.data h)

theorem reportPath_ne_experimentPath (reportId experimentId : String) :
    reportPath reportId ≠ experimentPath experimentId := fun h => by
  simpa [reportPath, experimentPath] using congrArg (·.data.head?) h

theorem registryOf_represents (ws : Workspace) : Represents ws (registryOf ws) := fun reportId => by
  cases h : ws.docs (reportPath reportId) <;> simp [registryOf, h]

section Runs

variable {α : Type} {ws : Workspace} {reg : String → Option Report}

theorem Represents.run (h : Represents ws reg) (e : Effect) :
    Represents (e.run ws) (e.apply reg) := by
  intro other
  cases e with
  | create reportId document =>
    by_cases hid : other = reportId
    · subst hid
      simp [Effect.run, Effect.apply]
    · rw [Effect.run, Effect.apply, Workspace.write_docs_of_ne (reportPath_injective.ne hid),
        Function.update_noteq hid, h]
  | append reportId sectionName content =>
    have hdoc := h reportId
    cases hr : reg reportId with
    | none =>
      rw [hr] at hdoc
      simp only [Effect.run, Effect.apply, hdoc, hr, Option.map_none']
      exact h other
    | some r =>
      rw [hr, Option.map_some'] at hdoc
      simp only [Effect.run, Effect.apply, hdoc, hr]
      by_cases hid : other = reportId
      · subst hid
        simp [hdoc, Report.render_append]
      · rw [Workspace.append_docs_of_ne (reportPath_injective.ne hid),
          Function.update_noteq hid, h]
  | nothing => exact h other

theorem Effect.run_agree (e : Effect) (ws : Workspace) : AgreeOnExperiments (e.run ws) ws := by
  have hne : ∀ reportId experimentId, experimentPath experimentId ≠ reportPath reportId :=
    fun reportId experimentId => (reportPath_ne_experimentPath reportId experimentId).symm
  cases e with
  | create reportId document => exact ⟨rfl, fun _ => Workspace.write_docs_of_ne (hne _ _)⟩
  | append reportId sectionName content =>
    simp only [Effect.run]
    split
    · exact ⟨rfl, fun _ => Workspace.append_docs_of_ne (hne _ _)⟩
    · exact .refl ws
  | nothing => exact .refl ws

end Runs

/-! ## Calls of both tools on one workspace -/

/-- A call of one of the two tools that share the workspace, with what it takes from outside. -/
inductive Call (α : Type)
  | report (clock : Clock) (uuid : String) (updatedAt : String → String)
      (list : Except ToolError (Json α)) (params : Json α)
  | tracker (display : Json α → String) (clock : Clock) (uuid : String)
      (updatedAt : String → String) (list : Except ToolError (Json α)) (params : Json α)

namespace Call

variable {α : Type}

def result (ws : Workspace) : Call α → Except ToolError (Workspace × Json α)
  | report clock uuid updatedAt list params => execute clock uuid updatedAt list ws params
  | tracker display clock uuid updatedAt list params =>
    Tracker.execute display clock uuid updatedAt list ws params

def effect : Call α → Effect
  | report clock uuid _ _ params => Reports.effect clock uuid params
  | tracker .. => .nothing

def isTracker : Call α → Bool
  | report .. => false
  | tracker .. => true

end Call

def runCalls {α : Type} :
    Workspace → List (Call α) → Workspace × List (Except ToolError (Json α))
  | ws, [] => (ws, [])
  | ws, c :: calls =>
    let rest := runCalls (afterCall (c.result ws) ws) calls
    (rest.1, (c.result ws).map Prod.snd :: rest.2)

def Effect.creates (reportId : String) : Effect → Bool
  | .create other _ => other == reportId
  | _ => false

def Effect.sectionOf (reportId : String) : Effect → Option (String × String)
  | .append other sectionName content =>
    if other = reportId then some (sectionName, content) else none
  | _ => none

section System

variable {α : Type} {ws : Workspace} {reg : String → Option Report}

theorem Represents.call (h : Represents ws reg) (c : Call α) :
    Represents (afterCall (c.result ws) ws) (c.effect.apply reg) := by
  cases c with
  | report clock uuid updatedAt list params =>
    rw [Call.result, afterCall_execute]
    exact h.run _
  | tracker display clock uuid updatedAt list params =>
    exact fun reportId => (Tracker.afterCall_execute_docs
      fun experimentId => reportPath_ne_experimentPath reportId experimentId).trans (h reportId)

theorem Represents.runCalls (h : Represents ws reg) (calls : List (Call α)) :
    Represents (runCalls ws calls).1 (calls.foldl (fun reg c => c.effect.apply reg) reg) := by
  induction calls generalizing ws reg with
  | nil => exact h
  | cons c calls ih => exact ih (h.call c)

/-- Over any run of calls of both tools, every report document is what the registry says. -/
theorem runCalls_registry (ws : Workspace) (calls : List (Call α)) :
    Represents (runCalls ws calls).1
      (calls.foldl (fun reg c => c.effect.apply reg) (registryOf ws)) :=
  (registryOf_represents ws).runCalls calls

theorem Effect.apply_of_creates {reportId : String} {r : Report} (e : Effect)
    (hc : e.creates reportId = false) (hr : reg reportId = some r) :
    e.apply reg reportId = some ⟨r.created, r.sections ++ (e.sectionOf reportId).toList⟩ := by
  cases e with
  | create other document =>
    have hne : reportId ≠ other := fun h => by simp [Effect.creates, h] at hc
    simp [Effect.apply, Function.update_noteq hne, hr, Effect.sectionOf]
  | append other sectionName content =>
    by_cases hid : other = reportId
    · subst hid
      simp [Effect.apply, hr, Effect.sectionOf]
    · have hne : reportId ≠ other := Ne.symm hid
      simp only [Effect.apply, Effect.sectionOf, hid, if_false, Option.toList_none, List.append_nil]
      cases hro : reg other <;> simp [hro, Function.update_noteq hne, hr]
  | nothing => simp [Effect.apply, hr, Effect.sectionOf]

theorem foldl_apply_of_creates {reportId : String} {r : Report} (calls : List (Call α))
    (hnew : ∀ c ∈ calls, c.effect.creates reportId = false) (hr : reg reportId = some r) :
    (calls.foldl (fun reg c => c.effect.apply reg) reg) reportId =
      some ⟨r.created, r.sections ++ calls.filterMap fun c => c.effect.sectionOf reportId⟩ := by
  induction calls generalizing reg r with
  | nil => simp [hr]
  | cons c calls ih =>
    rw [List.foldl_cons, ih (fun c' hc' => hnew c' (List.mem_cons_of_mem c hc'))
      ((c.effect).apply_of_creates (hnew c (List.mem_cons_self c calls)) hr)]
    cases h : c.effect.sectionOf reportId <;> simp [List.filterMap_cons, h]

/-- A report reads as its created text followed by the sections later calls append to it,
each once and in order, until a call creates the same id again. -/
theorem runCalls_created_report {clock : Clock} {uuid : String} {updatedAt : String → String}
    {list : Except ToolError (Json α)} {params : Json α} {title : String}
    (haction : requireStr params "action" = .ok "create")
    (htitle : requireStr params "title" = .ok title) (ws : Workspace) (calls : List (Call α))
    (hnew : ∀ c ∈ calls, c.effect.creates (newReportId clock uuid) = false) :
    (runCalls ws (.report clock uuid updatedAt list params :: calls)).1.docs
      (reportPath (newReportId clock uuid)) =
      some (createdDocument clock uuid params title ++ String.join
        ((calls.filterMap fun c => c.effect.sectionOf (newReportId clock uuid)).map
          fun s => sectionEntry s.1 s.2)) := by
  have heffect : (Call.report clock uuid updatedAt list params).effect =
      .create (newReportId clock uuid) (createdDocument clock uuid params title) := by
    simp only [Call.effect, effect, haction, htitle]
  have hrun := (registryOf_represents ws).runCalls
    (.report clock uuid updatedAt list params :: calls) (newReportId clock uuid)
  rw [List.foldl_cons, heffect,
    foldl_apply_of_creates (r := ⟨createdDocument clock uuid params title, []⟩) calls hnew
      (by simp [Effect.apply])] at hrun
  rw [hrun, Option.map_some', Report.render, List.nil_append]

theorem runCalls_created_report_errata :
    let clock : Clock := ⟨"20260101", "2026-01-01 09:00:00 UTC", "2026-01-01T09:00:00+00:00"⟩
    let create : Json ℚ := .object [("action", .string "create"), ("title", .string "Yeast growth")]
    let calls : List (Call ℚ) := [
      .tracker (fun _ => "") clock "abcdef12" (fun _ => "") (.ok .null)
        (.object [("action", .string "create"), ("title", .string "Growth at 30 C")]),
      .report clock "0123456789" (fun _ => "") (.ok .null)
        (.object [("action", .string "append_section"),
          ("report_id", .string (newReportId clock "0123456789")),
          ("section_name", .string "Errata"), ("content", .string "None.")])]
    (requireStr create "action" = .ok "create" ∧ requireStr create "title" = .ok "Yeast growth" ∧
      ∀ c ∈ calls, c.effect.creates (newReportId clock "0123456789") = false) ∧
    (runCalls ⟨fun _ => none, fun _ => ""⟩
      (.report clock "0123456789" (fun _ => "") (.ok .null) create :: calls)).1.docs
      (reportPath (newReportId clock "0123456789")) =
      some (createdDocument clock "0123456789" create "Yeast growth" ++ String.join
        ((calls.filterMap fun c => c.effect.sectionOf (newReportId clock "0123456789")).map
          fun s => sectionEntry s.1 s.2)) := by
  intro clock create calls
  have haction : requireStr create "action" = .ok "create" := rfl
  have htitle : requireStr create "title" = .ok "Yeast growth" := rfl
  have hnew : ∀ c ∈ calls, c.effect.creates (newReportId clock "0123456789") = false := by
    decide
  exact ⟨⟨haction, htitle, hnew⟩, runCalls_created_report haction htitle _ calls hnew⟩

theorem agree_runCalls {ws' : Workspace} (h : AgreeOnExperiments ws ws')
    (calls : List (Call α)) :
    AgreeOnExperiments (runCalls ws calls).1 (runCalls ws' (calls.filter Call.isTracker)).1 ∧
      ((calls.zip (runCalls ws calls).2).filter (·.1.isTracker)).map Prod.snd =
        (runCalls ws' (calls.filter Call.isTracker)).2 := by
  induction calls generalizing ws ws' with
  | nil => exact ⟨h, rfl⟩
  | cons c calls ih =>
    cases c with
    | report clock uuid updatedAt list params =>
      have hstep :
          AgreeOnExperiments (afterCall (execute clock uuid updatedAt list ws params) ws) ws' := by
        rw [afterCall_execute]
        exact (Effect.run_agree _ ws).trans h
      simpa [Reports.runCalls, Call.result, Call.isTracker] using ih hstep
    | tracker display clock uuid updatedAt list params =>
      obtain ⟨hanswer, hstep⟩ :=
        @Tracker.execute_agree _ display clock uuid updatedAt list params _ _ h
      simpa [Reports.runCalls, Call.result, Call.isTracker, hanswer] using ih hstep

/-- The tracker cannot tell whether report calls ran between its own. -/
theorem runCalls_tracker_alone (ws : Workspace) (calls : List (Call α)) :
    AgreeOnExperiments (runCalls ws calls).1 (runCalls ws (calls.filter Call.isTracker)).1 ∧
      ((calls.zip (runCalls ws calls).2).filter (·.1.isTracker)).map Prod.snd =
        (runCalls ws (calls.filter Call.isTracker)).2 :=
  agree_runCalls (AgreeOnExperiments.refl ws) calls

end System

end Ironclaw.Reports
