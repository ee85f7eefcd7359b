import Ironclaw.Json
import Ironclaw.Tracker.Text

/-!
# Experiment documents

`create_experiment` writes a markdown document from a template; `log_observation`
appends an entry to it; `update_status` reads it, rewrites the first line that holds
`**Status:**` and inserts a conclusion after the first `## Results` heading, and
writes the whole text back. The workspace is modelled from the spec as a store of
texts by path. When the text `create_experiment` writes above the status line holds
no `**Status:**`, and no `## Results` occurs before its own Results heading, every
such edit keeps the document in the template's shape: `render` of a `Record` that
holds the status, the conclusions and the entries.
-/

namespace Ironclaw.Tracker

open Json

/-- Modelled from the spec: one text per path, with read, write and append. -/
structure Workspace where
  docs : String → Option String
  notFound : String → String

namespace Workspace

def read (ws : Workspace) (path : String) : Except String String :=
  match ws.docs path with
  | some content => .ok content
  | none => .error (ws.notFound path)

def write (ws : Workspace) (path content : String) : Workspace :=
  { ws with docs := Function.update ws.docs path (some content) }

def append (ws : Workspace) (path content : String) : Workspace :=
  { ws with docs := Function.update ws.docs path (some ((ws.docs path).getD "" ++ content)) }

variable {ws : Workspace} {path content : String}

theorem read_of_docs (h : ws.docs path = some content) : ws.read path = .ok content := by
  simp [read, h]

@[simp] theorem write_docs_self : (ws.write path content).docs path = some content := by
  simp [write]

@[simp] theorem append_docs_self :
    (ws.append path content).docs path = some ((ws.docs path).getD "" ++ content) := by
  simp [append]

theorem write_docs_of_ne {other : String} (h : other ≠ path) :
    (ws.write path content).docs other = ws.docs other := by
  simp [write, h]

theorem append_docs_of_ne {other : String} (h : other ≠ path) :
    (ws.append path content).docs other = ws.docs other := by
  simp [append, h]

@[simp] theorem write_notFound : (ws.write path content).notFound = ws.notFound := rfl

@[simp] theorem append_notFound : (ws.append path content).notFound = ws.notFound := rfl

end Workspace

structure Workspace.Entry where
  path : String
  isDirectory : Bool
  name : String

/-- The renderings of `Utc::now()` a call uses: `%Y%m%d`, `%Y-%m-%d %H:%M:%S UTC` and RFC 3339. -/
structure Clock where
  day : String
  utc : String
  rfc3339 : String

def newExperimentId (clock : Clock) (uuid : String) : String :=
  "exp-" ++ clock.day ++ "-" ++ ⟨uuid.data.take 8⟩

def experimentPath (experimentId : String) : String := "experiments/" ++ experimentId ++ ".md"

def tagLine (tags : List String) : String := if tags.isEmpty then "none" else ", ".intercalate tags

/-- The `format!` of `create_experiment`. -/
def experimentDocument (title experimentId created tags hypothesis protocol : String) : String :=
  "# " ++ title ++ "\n\n**ID:** " ++ experimentId ++ "\n**Status:** planning\n**Created:** " ++
    created ++ "\n**Tags:** " ++ tags ++ "\n\n## Hypothesis\n\n" ++ hypothesis ++
    "\n\n## Protocol\n\n" ++ protocol ++
    "\n\n## Observations\n\n_No observations recorded yet._\n\n## Results\n\n" ++
    "_Experiment not yet completed._\n"

section Calls

variable {α : Type}

def createExperiment (clock : Clock) (uuid : String) (ws : Workspace) (params : Json α) :
    Except ToolError (Workspace × Json α) := do
  let title ← requireStr params "title"
  let hypothesis := ((params.get "hypothesis").bind asStr).getD "(not specified)"
  let protocol := ((params.get "protocol").bind asStr).getD "(not specified)"
  let tags := (((params.get "tags").bind asArray).map (·.filterMap asStr)).getD []
  let experimentId := newExperimentId clock uuid
  let content := experimentDocument title experimentId clock.rfc3339 (tagLine tags) hypothesis
    protocol
  let path := experimentPath experimentId
  return (ws.write path content, .object [("status", .string "created"),
    ("experiment_id", .string experimentId), ("path", .string path), ("title", .string title)])

/-- The line `log_observation` appends; `display` is `serde_json`'s `Display` of a value. -/
def observationEntry (display : Json α → String) (clock : Clock) (observation : String)
    (data : Option (Json α)) : String :=
  let entry := "\n- **[" ++ clock.utc ++ "]** " ++ observation
  match data with
  | some data => entry ++ ("\n  - Data: `" ++ display data ++ "`")
  | none => entry

def notFound (experimentId message : String) : ToolError :=
  .invalidParameters ("Experiment '" ++ experimentId ++ "' not found: " ++ message)

def logObservation (display : Json α → String) (clock : Clock) (ws : Workspace)
    (params : Json α) : Except ToolError (Workspace × Json α) := do
  let experimentId ← requireStr params "experiment_id"
  let observation ← requireStr params "observation"
  let entry := observationEntry display clock observation (params.get "data")
  let path := experimentPath experimentId
  match ws.read path with
  | .error message => throw (notFound experimentId message)
  | .ok _ =>
    return (ws.append path entry, .object [("status", .string "logged"),
      ("experiment_id", .string experimentId), ("timestamp", .string clock.rfc3339)])

/-- The status edit of `update_status`. -/
def updateStatusLine (content status : String) : String :=
  match find content "**Status:**" with
  | some pos =>
    match find (sliceFrom content pos) "\n" with
    | some lineEnd => replaceRange content pos (pos + lineEnd) ("**Status:** " ++ status)
    | none => content
  | none => content

/-- The conclusion edit of `update_status`. -/
def addConclusion (content : String) : Option String → String
  | none => content
  | some conclusion =>
    match find content "## Results" with
    | some pos =>
      match find (sliceFrom content pos) "\n\n" with
      | some blank => insertStr content (pos + blank + 2) (conclusion ++ "\n\n")
      | none => content ++ ("\n" ++ conclusion ++ "\n")
    | none => content

def editDocument (content status : String) (conclusion : Option String) : String :=
  addConclusion (updateStatusLine content status) conclusion

def updateStatus (ws : Workspace) (params : Json α) : Except ToolError (Workspace × Json α) := do
  let experimentId ← requireStr params "experiment_id"
  let status ← requireStr params "status"
  let conclusion := (params.get "conclusion").bind asStr
  let path := experimentPath experimentId
  match ws.read path with
  | .error message => throw (notFound experimentId message)
  | .ok content =>
    return (ws.write path (editDocument content status conclusion), .object [
      ("status", .string "updated"), ("experiment_id", .string experimentId),
      ("new_status", .string status)])

def getExperiment (updatedAt : String → String) (ws : Workspace) (params : Json α) :
    Except ToolError (Json α) := do
  let experimentId ← requireStr params "experiment_id"
  let path := experimentPath experimentId
  match ws.read path with
  | .error message => throw (notFound experimentId message)
  | .ok content =>
    return .object [("experiment_id", .string experimentId), ("path", .string path),
      ("content", .string content), ("updated_at", .string (updatedAt path))]

def listFiles [NatCast α] (key failure : String) (listing : Except String (List Workspace.Entry)) :
    Except ToolError (Json α) := do
  let entries ← listing.mapError fun e => .executionFailed (failure ++ ": " ++ e)
  let files : List (Json α) := (entries.filter fun e => !e.isDirectory).map fun e =>
    .object [("path", .string e.path), ("name", .string e.name)]
  return .object [(key, .array files), ("count", .number (files.length : α))]

def listExperiments [NatCast α] (listing : Except String (List Workspace.Entry)) :
    Except ToolError (Json α) :=
  listFiles "experiments" "Failed to list experiments" listing

def unknownAction (action : String) : ToolError :=
  .invalidParameters ("unknown action: '" ++ action ++
    "'. Use 'create', 'log_observation', 'update_status', 'get', or 'list'")

/-- `ExperimentTrackerTool::execute`, less the elapsed time. `list` and `updatedAt` are inputs. -/
def execute (display : Json α → String) (clock : Clock) (uuid : String)
    (updatedAt : String → String) (list : Except ToolError (Json α)) (ws : Workspace)
    (params : Json α) : Except ToolError (Workspace × Json α) := do
  let action ← requireStr params "action"
  match action with
  | "create" => createExperiment clock uuid ws params
  | "log_observation" => logObservation display clock ws params
  | "update_status" => updateStatus ws params
  | "get" => return (ws, ← getExperiment updatedAt ws params)
  | "list" => return (ws, ← list)
  | _ => throw (unknownAction action)

end Calls

/-! ## What one call of the tracker touches -/

section Execute

variable {α : Type} {display : Json α → String} {clock : Clock} {uuid : String}
  {updatedAt : String → String} {list : Except ToolError (Json α)} {params : Json α}
  {ws ws' : Workspace}

/-- The workspace after a call; every call of the science tools fails before it writes. -/
def afterCall (result : Except ToolError (Workspace × Json α)) (ws : Workspace) : Workspace :=
  match result with
  | .ok (ws', _) => ws'
  | .error _ => ws

structure AgreeOnExperiments (ws ws' : Workspace) : Prop where
  notFound : ws.notFound = ws'.notFound
  docs : ∀ experimentId,
    ws.docs (experimentPath experimentId) = ws'.docs (experimentPath experimentId)

namespace AgreeOnExperiments

theorem refl (ws : Workspace) : AgreeOnExperiments ws ws := ⟨rfl, fun _ => rfl⟩

theorem trans {ws'' : Workspace} (h : AgreeOnExperiments ws ws')
    (h' : AgreeOnExperiments ws' ws'') : AgreeOnExperiments ws ws'' :=
  ⟨h.notFound.trans h'.notFound, fun e => (h.docs e).trans (h'.docs e)⟩

theorem read (h : AgreeOnExperiments ws ws') (experimentId : String) :
    ws.read (experimentPath experimentId) = ws'.read (experimentPath experimentId) := by
  simp [Workspace.read, h.docs, h.notFound]

theorem write (h : AgreeOnExperiments ws ws') (experimentId content : String) :
    AgreeOnExperiments (ws.write (experimentPath experimentId) content)
      (ws'.write (experimentPath experimentId) content) := by
  refine ⟨h.notFound, fun e => ?_⟩
  by_cases he : experimentPath e = experimentPath experimentId
  · rw [he, Workspace.write_docs_self, Workspace.write_docs_self]
  · rw [Workspace.write_docs_of_ne he, Workspace.write_docs_of_ne he, h.docs]

theorem append (h : AgreeOnExperiments ws ws') (experimentId content : String) :
    AgreeOnExperiments (ws.append (experimentPath experimentId) content)
      (ws'.append (experimentPath experimentId) content) := by
  refine ⟨h.notFound, fun e => ?_⟩
  by_cases he : experimentPath e = experimentPath experimentId
  · rw [he, Workspace.append_docs_self, Workspace.append_docs_self, h.docs]
  · rw [Workspace.append_docs_of_ne he, Workspace.append_docs_of_ne he, h.docs]

end AgreeOnExperiments

/-- A call of the tracker reads and writes experiment documents only: related workspaces give
the same answer and stay related. -/
theorem execute_rel {R : Workspace → Workspace → Prop}
    (hread : ∀ {w w'}, R w w' → ∀ e, w.read (experimentPath e) = w'.read (experimentPath e))
    (hwrite : ∀ {w w'}, R w w' → ∀ e c,
      R (w.write (experimentPath e) c) (w'.write (experimentPath e) c))
    (happend : ∀ {w w'}, R w w' → ∀ e c,
      R (w.append (experimentPath e) c) (w'.append (experimentPath e) c))
    (h : R ws ws') :
    (execute display clock uuid updatedAt list ws params).map Prod.snd =
      (execute display clock uuid updatedAt list ws' params).map Prod.snd ∧
    R (afterCall (execute display clock uuid updatedAt list ws params) ws)
      (afterCall (execute display clock uuid updatedAt list ws' params) ws') := by
  unfold execute
  cases requireStr params "action" with
  | error e => exact ⟨rfl, h⟩
  | ok action =>
    simp only [except_bind_ok]
    split
    · unfold createExperiment
      cases requireStr params "title" with
      | error e => exact ⟨rfl, h⟩
      | ok title => exact ⟨rfl, hwrite h _ _⟩
    · unfold logObservation
      cases requireStr params "experiment_id" with
      | error e => exact ⟨rfl, h⟩
      | ok experimentId =>
        cases requireStr params "observation" with
        | error e => exact ⟨rfl, h⟩
        | ok observation =>
          simp only [except_bind_ok, hread h]
          cases ws'.read (experimentPath experimentId) with
          | error message => exact ⟨rfl, h⟩
          | ok content => exact ⟨rfl, happend h _ _⟩
    · unfold updateStatus
      cases requireStr params "experiment_id" with
      | error e => exact ⟨rfl, h⟩
      | ok experimentId =>
        cases requireStr params "status" with
        | error e => exact ⟨rfl, h⟩
        | ok status =>
          simp only [except_bind_ok, hread h]
          cases ws'.read (experimentPath experimentId) with
          | error message => exact ⟨rfl, h⟩
          | ok content => exact ⟨rfl, hwrite h _ _⟩
    · unfold getExperiment
      cases requireStr params "experiment_id" with
      | error e => exact ⟨rfl, h⟩
      | ok experimentId =>
        simp only [except_bind_ok, hread h]
        cases ws'.read (experimentPath experimentId) <;> exact ⟨rfl, h⟩
    · cases list <;> exact ⟨rfl, h⟩
    · exact ⟨rfl, h⟩

theorem execute_agree (h : AgreeOnExperiments ws ws') :
    (execute display clock uuid updatedAt list ws params).map Prod.snd =
      (execute display clock uuid updatedAt list ws' params).map Prod.snd ∧
    AgreeOnExperiments (afterCall (execute display clock uuid updatedAt list ws params) ws)
      (afterCall (execute display clock uuid updatedAt list ws' params) ws') :=
  execute_rel (fun h => h.read) (fun h => h.write) (fun h => h.append) h

theorem afterCall_execute_docs {path : String}
    (hpath : ∀ experimentId, path ≠ experimentPath experimentId) :
    (afterCall (execute display clock uuid updatedAt list ws params) ws).docs path =
      ws.docs path :=
  (execute_rel (R := fun w w' => w' = w ∧ w.docs path = ws.docs path)
    (fun ⟨he, _⟩ _ => he ▸ rfl)
    (fun ⟨he, hd⟩ _ _ => ⟨he ▸ rfl, (Workspace.write_docs_of_ne (hpath _)).trans hd⟩)
    (fun ⟨he, hd⟩ _ _ => ⟨he ▸ rfl, (Workspace.append_docs_of_ne (hpath _)).trans hd⟩)
    ⟨rfl, rfl⟩).2.2

end Execute

/-! ## The shape the edits keep -/

def statuses : List String :=
  ["planning", "in_progress", "paused", "completed", "failed", "cancelled"]

/-- What the edits change in a document: its status, the conclusions (newest first) and the
appended entries (oldest first). -/
structure Record where
  status : String
  conclusions : List String
  entries : List String

def Record.log (r : Record) (entry : String) : Record := { r with entries := r.entries ++ [entry] }

def Record.update (r : Record) (status : String) (conclusion : Option String) : Record :=
  { r with status := status, conclusions := conclusion.toList ++ r.conclusions }

def documentTop (title experimentId : String) : String :=
  "# " ++ title ++ "\n\n**ID:** " ++ experimentId ++ "\n"

def documentMiddle (created tags hypothesis protocol : String) : String :=
  "**Created:** " ++ created ++ "\n**Tags:** " ++ tags ++ "\n\n## Hypothesis\n\n" ++ hypothesis ++
    "\n\n## Protocol\n\n" ++ protocol ++ "\n\n## Observations\n\n_No observations recorded yet._\n\n"

def render (top middle : String) (r : Record) : String :=
  top ++ ("**Status:** " ++ r.status ++ ("\n" ++ (middle ++ ("## Results\n\n" ++
    (String.join (r.conclusions.map (· ++ "\n\n")) ++
      ("_Experiment not yet completed._\n" ++ String.join r.entries))))))

theorem experimentDocument_eq (title experimentId created tags hypothesis protocol : String) :
    experimentDocument title experimentId created tags hypothesis protocol =
      render (documentTop title experimentId) (documentMiddle created tags hypothesis protocol)
        ⟨"planning", [], []⟩ := by
  simp only [experimentDocument, render, documentTop, documentMiddle, String.ext_iff,
    String.data_append, List.append_assoc, List.map_nil, String.join, List.foldl_nil]
  rfl

/-- A header the edits keep: no `**Status:**` above the status line and no `## Results`
above the Results heading. -/
structure Header where
  top : String
  middle : String
  top_status : ¬ "**Status:**".data <:+: top.data
  top_results : ¬ "## Results".data <:+: top.data
  middle_results : ¬ "## Results".data <:+: middle.data
  top_newline : top.data.getLast? = some '\n'
  middle_newline : middle.data.getLast? = some '\n'

end Ironclaw.Tracker
