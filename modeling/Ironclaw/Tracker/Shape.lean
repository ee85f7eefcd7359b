import Mathlib.Data.String.Basic
import Ironclaw.Tracker.Document

/-!
# The edits keep the template's shape

On a document in the template's shape, `update_status` finds the status line and
the Results heading that `create_experiment` wrote, so its edit is the record's
`update`, and `log_observation`'s append is the record's `log`. A run of calls one
at a time therefore leaves `render` of the record that the calls build.
-/

namespace Ironclaw.Tracker

theorem getLast_not_mem {l p : List Char} {c : Char} (h : l.getLast? = some c) (hc : c ∉ p) :
    ∀ x ∈ l.getLast?, x ∉ p := by
  rw [h]
  simpa using hc

/-- A status of the schema spans no line break and holds no Results heading. -/
theorem status_mem_statuses {s : String} (hs : s ∈ statuses) :
    '\n' ∉ s.data ∧ ¬ "## Results".data <:+: ("**Status:** " ++ s ++ "\n").data := by
  simp only [statuses, List.mem_cons, List.mem_singleton, List.not_mem_nil, or_false] at hs
  rcases hs with rfl | rfl | rfl | rfl | rfl | rfl <;>
    exact ⟨by decide, findSub_eq_none_iff.mp rfl⟩

/-- The status edit rewrites the first status line below a header without a status
marker, whatever follows it. -/
theorem updateStatusLine_eq {top s rest : String} (s' : String)
    (htop : ¬ "**Status:**".data <:+: top.data) (hnl : top.data.getLast? = some '\n')
    (hs : '\n' ∉ s.data) :
    updateStatusLine (top ++ ("**Status:** " ++ s ++ ("\n" ++ rest))) s' =
      top ++ ("**Status:** " ++ s' ++ ("\n" ++ rest)) := by
  have hdata : (top ++ ("**Status:** " ++ s ++ ("\n" ++ rest))).data =
      top.data ++ (("**Status:** " ++ s).data ++ ("\n" ++ rest).data) := rfl
  have hfind : find (top ++ ("**Status:** " ++ s ++ ("\n" ++ rest))) "**Status:**" =
      some top.data.length := by
    rw [find, hdata]
    exact findSub_append_prefix htop (getLast_not_mem hnl (by decide))
      ⟨' ' :: (s.data ++ ("\n" ++ rest).data), by simp⟩
  have hline : find (sliceFrom (top ++ ("**Status:** " ++ s ++ ("\n" ++ rest))) top.data.length)
      "\n" = some ("**Status:** " ++ s).data.length := by
    rw [find, sliceFrom, hdata, List.drop_left]
    exact findSub_singleton_append (by
      rw [String.data_append, List.mem_append, not_or]
      exact ⟨by decide, hs⟩)
  rw [updateStatusLine, hfind]
  dsimp only
  rw [hline]
  dsimp only [replaceRange]
  rw [String.ext_iff, hdata, List.take_left, List.drop_append, List.drop_left]
  simp

/-- The conclusion edit inserts after the first Results heading and its blank line. -/
theorem addConclusion_eq {pre post : String} (c : String)
    (hpre : ¬ "## Results".data <:+: pre.data) (hnl : pre.data.getLast? = some '\n') :
    addConclusion (pre ++ ("## Results\n\n" ++ post)) (some c) =
      pre ++ ("## Results\n\n" ++ (c ++ "\n\n" ++ post)) := by
  have hdata : (pre ++ ("## Results\n\n" ++ post)).data =
      pre.data ++ ("## Results".data ++ ("\n\n".data ++ post.data)) := rfl
  have hfind : find (pre ++ ("## Results\n\n" ++ post)) "## Results" = some pre.data.length := by
    rw [find, hdata]
    exact findSub_append_prefix hpre (getLast_not_mem hnl (by decide)) (List.prefix_append _ _)
  have hblank : find (sliceFrom (pre ++ ("## Results\n\n" ++ post)) pre.data.length) "\n\n" =
      some 10 := by
    rw [find, sliceFrom, hdata, List.drop_left]
    exact findSub_append_prefix (findSub_eq_none_iff.mp rfl) (by decide) (List.prefix_append _ _)
  rw [addConclusion, hfind]
  dsimp only
  rw [hblank]
  dsimp only [insertStr]
  have hlen : ("## Results".data ++ "\n\n".data).length = 10 + 2 := rfl
  rw [String.ext_iff, hdata, Nat.add_assoc, List.take_append, List.drop_append, ← List.append_assoc,
    List.take_left' hlen, List.drop_left' hlen]
  simp

theorem getLast?_append_eq {l l' : List Char} {c : Char} (h : l'.getLast? = some c) :
    (l ++ l').getLast? = some c := by
  simp [List.getLast?_append, h]

section Header

variable (h : Header)

/-- No Results heading stands above the one `create_experiment` wrote, whatever status of
the schema the status line shows. -/
theorem not_results_above {s : String} (hs : s ∈ statuses) :
    ¬ "## Results".data <:+: (h.top ++ ("**Status:** " ++ s ++ ("\n" ++ h.middle))).data := by
  have hline := (status_mem_statuses hs).2
  have hdata : (h.top ++ ("**Status:** " ++ s ++ ("\n" ++ h.middle))).data =
      h.top.data ++ (("**Status:** " ++ s ++ "\n").data ++ h.middle.data) := by simp
  rw [hdata]
  exact not_infix_append h.top_results
    (not_infix_append hline h.middle_results
      (getLast_not_mem (getLast?_append_eq (rfl : "\n".data.getLast? = some '\n')) (by decide)))
    (getLast_not_mem h.top_newline (by decide))

/-- `update_status` on a document in shape is the record's `update`. -/
theorem editDocument_render {r : Record} (hr : r.status ∈ statuses) {s : String}
    (hs : s ∈ statuses) (c : Option String) :
    editDocument (render h.top h.middle r) s c = render h.top h.middle (r.update s c) := by
  rw [editDocument, render, updateStatusLine_eq s h.top_status h.top_newline
    (status_mem_statuses hr).1]
  cases c with
  | none => rfl
  | some c =>
    have hnl : (h.top ++ ("**Status:** " ++ s ++ ("\n" ++ h.middle))).data.getLast? = some '\n' :=
      getLast?_append_eq (getLast?_append_eq (getLast?_append_eq h.middle_newline))
    rw [← String.append_assoc "\n" h.middle, ← String.append_assoc ("**Status:** " ++ s),
      ← String.append_assoc h.top, addConclusion_eq c (not_results_above h hs) hnl]
    simp [render, Record.update, String.ext_iff]

/-- `log_observation`'s append to a document in shape is the record's `log`. -/
theorem render_append (r : Record) (entry : String) :
    render h.top h.middle r ++ entry = render h.top h.middle (r.log entry) := by
  simp [render, Record.log, String.ext_iff]

end Header

/-! ## Calls one at a time -/

section Edits

variable {α : Type}

/-- A call of the tracker on one experiment: `log_observation` with the clock reading it
takes, or `update_status`. -/
inductive Edit (α : Type)
  | logObservation (clock : Clock) (observation : String) (data : Option (Json α))
  | updateStatus (status : String) (conclusion : Option String)

namespace Edit

/-- The parameters of the call on the experiment `experimentId`. -/
def params (experimentId : String) : Edit α → Json α
  | logObservation _ observation data => .object ([("experiment_id", .string experimentId),
      ("observation", .string observation)] ++ data.toList.map (("data", ·)))
  | updateStatus status conclusion => .object ([("experiment_id", .string experimentId),
      ("status", .string status)] ++ conclusion.toList.map (("conclusion", .string ·)))

def call (display : Json α → String) (experimentId : String) (ws : Workspace) (e : Edit α) :
    Except ToolError (Workspace × Json α) :=
  match e with
  | logObservation clock _ _ => Tracker.logObservation display clock ws (e.params experimentId)
  | updateStatus _ _ => Tracker.updateStatus ws (e.params experimentId)

def status? : Edit α → Option String
  | logObservation .. => none
  | updateStatus status _ => some status

def conclusion? : Edit α → Option String
  | logObservation .. => none
  | updateStatus _ conclusion => conclusion

def entry? (display : Json α → String) : Edit α → Option String
  | logObservation clock observation data => some (observationEntry display clock observation data)
  | updateStatus .. => none

end Edit

/-- Run the calls one after another; a call that fails leaves the workspace as it was. -/
def runEdits (display : Json α → String) (experimentId : String) :
    Workspace → List (Edit α) → Workspace
  | ws, [] => ws
  | ws, e :: edits =>
    runEdits display experimentId
      (match e.call display experimentId ws with
        | .ok (ws', _) => ws'
        | .error _ => ws) edits

/-- What a call does to the record of a document in shape. -/
def Record.apply (display : Json α → String) (r : Record) : Edit α → Record
  | .logObservation clock observation data => r.log (observationEntry display clock observation data)
  | .updateStatus status conclusion => r.update status conclusion

theorem foldl_apply (display : Json α → String) (r : Record) (edits : List (Edit α)) :
    edits.foldl (Record.apply display) r =
      ⟨((edits.filterMap Edit.status?).getLast?).getD r.status,
        (edits.filterMap Edit.conclusion?).reverse ++ r.conclusions,
        r.entries ++ edits.filterMap (Edit.entry? display)⟩ := by
  induction edits generalizing r with
  | nil => simp
  | cons e edits ih =>
    rcases e with _ | ⟨_, _ | _⟩ <;>
      simp [ih, Record.apply, Record.log, Record.update, Edit.status?, Edit.conclusion?,
        Edit.entry?, List.getLast?_cons]

section Params

variable (experimentId : String)

theorem Edit.params_experiment_id (e : Edit α) :
    requireStr (e.params experimentId) "experiment_id" = .ok experimentId := by
  cases e <;> exact requireStr_eq_ok.mpr rfl

theorem Edit.params_observation (clock : Clock) (observation : String) (data : Option (Json α)) :
    requireStr ((logObservation clock observation data).params experimentId) "observation" =
      .ok observation :=
  requireStr_eq_ok.mpr rfl

theorem Edit.params_data (clock : Clock) (observation : String) (data : Option (Json α)) :
    ((logObservation clock observation data).params experimentId).get "data" = data := by
  cases data <;> rfl

theorem Edit.params_status (status : String) (conclusion : Option String) :
    requireStr ((updateStatus status conclusion : Edit α).params experimentId) "status" =
      .ok status :=
  requireStr_eq_ok.mpr rfl

theorem Edit.params_conclusion (status : String) (conclusion : Option String) :
    (((updateStatus status conclusion : Edit α).params experimentId).get "conclusion").bind
      Json.asStr = conclusion := by
  cases conclusion <;> rfl

end Params

/-- On a document in shape, a call with a status of the schema succeeds, and leaves the
document of the record's `apply`. -/
theorem Edit.call_render (display : Json α → String) (h : Header) (experimentId : String)
    {ws : Workspace} {r : Record}
    (hdoc : ws.docs (experimentPath experimentId) = some (render h.top h.middle r))
    (hr : r.status ∈ statuses) (e : Edit α) (he : ∀ s ∈ e.status?, s ∈ statuses) :
    ∃ ws' out, e.call display experimentId ws = .ok (ws', out) ∧
      ws'.docs (experimentPath experimentId) = some (render h.top h.middle (r.apply display e)) := by
  rcases e with ⟨clock, observation, data⟩ | ⟨status, conclusion⟩
  · exact ⟨_, _, by
      simp only [Edit.call, Tracker.logObservation, Edit.params_experiment_id,
        Edit.params_observation, Workspace.read_of_docs hdoc, except_bind_ok]
      rfl, by simp [hdoc, render_append, Record.apply, Edit.params_data]⟩
  · exact ⟨_, _, by
      simp only [Edit.call, Tracker.updateStatus, Edit.params_experiment_id, Edit.params_status,
        Workspace.read_of_docs hdoc, except_bind_ok]
      rfl, by simp [editDocument_render h hr (he status rfl), Record.apply, Edit.params_conclusion]⟩

theorem Record.apply_status_mem (display : Json α → String) {r : Record} (hr : r.status ∈ statuses)
    (e : Edit α) (he : ∀ s ∈ e.status?, s ∈ statuses) :
    (r.apply display e).status ∈ statuses := by
  cases e with
  | logObservation => exact hr
  | updateStatus status _ => exact he status rfl

/-- Calls one at a time, each with a status of the schema, keep the document in shape:
it is the record the calls build. -/
theorem runEdits_render (display : Json α → String) (h : Header) (experimentId : String)
    (edits : List (Edit α)) (hs : ∀ e ∈ edits, ∀ s ∈ e.status?, s ∈ statuses) :
    ∀ {ws : Workspace} {r : Record}, r.status ∈ statuses →
      ws.docs (experimentPath experimentId) = some (render h.top h.middle r) →
      (runEdits display experimentId ws edits).docs (experimentPath experimentId) =
        some (render h.top h.middle (edits.foldl (Record.apply display) r)) := by
  induction edits with
  | nil => exact fun _ hdoc => hdoc
  | cons e edits ih =>
    intro ws r hr hdoc
    have he := hs e (List.mem_cons_self e edits)
    obtain ⟨ws', out, hcall, hdoc'⟩ := Edit.call_render display h experimentId hdoc hr e he
    simp only [runEdits, hcall, List.foldl_cons]
    exact ih (fun e' he' => hs e' (List.mem_cons_of_mem e he'))
      (Record.apply_status_mem display hr e he) hdoc'

/-! ## From `create_experiment` on -/

/-- The parameters of `create_experiment` with every field given. -/
def createParams (title hypothesis protocol : String) (tags : List String) : Json α :=
  .object [("title", .string title), ("hypothesis", .string hypothesis),
    ("protocol", .string protocol), ("tags", .array (tags.map .string))]

section CreateParams

variable (title hypothesis protocol : String) (tags : List String)

theorem createParams_title : requireStr (createParams title hypothesis protocol tags : Json α)
    "title" = .ok title := requireStr_eq_ok.mpr rfl

theorem createParams_hypothesis :
    (createParams title hypothesis protocol tags : Json α).get "hypothesis" =
      some (.string hypothesis) := rfl

theorem createParams_protocol :
    (createParams title hypothesis protocol tags : Json α).get "protocol" =
      some (.string protocol) := rfl

theorem createParams_tags :
    (createParams title hypothesis protocol tags : Json α).get "tags" =
      some (.array (tags.map .string)) := rfl

end CreateParams

theorem createExperiment_createParams (clock : Clock) (uuid : String) (ws : Workspace)
    (title hypothesis protocol : String) (tags : List String) :
    ∃ out, createExperiment clock uuid ws (createParams title hypothesis protocol tags : Json α) =
      .ok (ws.write (experimentPath (newExperimentId clock uuid))
        (experimentDocument title (newExperimentId clock uuid) clock.rfc3339 (tagLine tags)
          hypothesis protocol), out) := by
  have htags : (tags.map (Json.string (α := α))).filterMap Json.asStr = tags := by
    simp [List.filterMap_map, Function.comp_def]
  exact ⟨_, by
    simp only [createExperiment, createParams_title, createParams_hypothesis,
      createParams_protocol, createParams_tags, Option.some_bind, Json.asStr_string,
      Json.asArray_array, Option.map_some', Option.getD_some, htags, except_bind_ok, except_pure]
    rfl⟩

theorem documentTop_newline (title experimentId : String) :
    (documentTop title experimentId).data.getLast? = some '\n' :=
  getLast?_append_eq rfl

theorem documentMiddle_newline (created tags hypothesis protocol : String) :
    (documentMiddle created tags hypothesis protocol).data.getLast? = some '\n' :=
  getLast?_append_eq rfl

/-- After `create_experiment` and any calls one at a time with statuses of the schema, the
document is the template with the title, ID line and Hypothesis and Protocol paragraphs as
written, the last status set (`planning` before any) on the header's status line, every
conclusion given right under the Results heading (newest first), and every observation
entry at the end in the order logged; provided `**Status:**` and `## Results` do not occur
above the header's status line, nor `## Results` between it and the Results heading. -/
theorem experiment_document_after_edits (display : Json α → String) (clock : Clock)
    (uuid : String) (ws : Workspace) (title hypothesis protocol : String) (tags : List String)
    (edits : List (Edit α)) (hstatus : ∀ e ∈ edits, ∀ s ∈ e.status?, s ∈ statuses)
    (htop : ¬ "**Status:**".data <:+: (documentTop title (newExperimentId clock uuid)).data ∧
      ¬ "## Results".data <:+: (documentTop title (newExperimentId clock uuid)).data)
    (hmiddle : ¬ "## Results".data <:+:
      (documentMiddle clock.rfc3339 (tagLine tags) hypothesis protocol).data) :
    ∃ ws₁ out, createExperiment clock uuid ws
        (createParams title hypothesis protocol tags : Json α) = .ok (ws₁, out) ∧
      (runEdits display (newExperimentId clock uuid) ws₁ edits).docs
          (experimentPath (newExperimentId clock uuid)) =
        some (render (documentTop title (newExperimentId clock uuid))
          (documentMiddle clock.rfc3339 (tagLine tags) hypothesis protocol)
          ⟨((edits.filterMap Edit.status?).getLast?).getD "planning",
            (edits.filterMap Edit.conclusion?).reverse, edits.filterMap (Edit.entry? display)⟩) := by
  let h : Header := ⟨_, _, htop.1, htop.2, hmiddle, documentTop_newline _ _,
    documentMiddle_newline _ _ _ _⟩
  obtain ⟨out, hcreate⟩ := createExperiment_createParams (α := α) clock uuid ws title hypothesis
    protocol tags
  refine ⟨_, out, hcreate, ?_⟩
  rw [runEdits_render display h _ edits hstatus (r := ⟨"planning", [], []⟩) (by decide)
    (by simp [h, experimentDocument_eq]), foldl_apply]
  simp

set_option maxRecDepth 4000 in
theorem experiment_document_after_edits_example :
    let clock : Clock := ⟨"20250101", "2025-01-01 09:00:00 UTC", "2025-01-01T09:00:00+00:00"⟩
    let edits : List (Edit Nat) :=
      [.logObservation clock "pH 7.0" none, .updateStatus "completed" (some "buffer holds")]
    let experimentId := newExperimentId clock "1b4e28ba"
    (∀ e ∈ edits, ∀ s ∈ e.status?, s ∈ statuses) ∧
    (¬ "**Status:**".data <:+: (documentTop "Buffer" experimentId).data ∧
      ¬ "## Results".data <:+: (documentTop "Buffer" experimentId).data) ∧
    ¬ "## Results".data <:+: (documentMiddle clock.rfc3339 (tagLine []) "pH holds" "titrate").data ∧
    ∃ ws₁ out, createExperiment clock "1b4e28ba" ⟨fun _ => none, fun _ => "not found"⟩
        (createParams "Buffer" "pH holds" "titrate" [] : Json Nat) = .ok (ws₁, out) ∧
      (runEdits (fun _ => "") experimentId ws₁ edits).docs (experimentPath experimentId) =
        some (render (documentTop "Buffer" experimentId)
          (documentMiddle clock.rfc3339 (tagLine []) "pH holds" "titrate")
          ⟨((edits.filterMap Edit.status?).getLast?).getD "planning",
            (edits.filterMap Edit.conclusion?).reverse,
            edits.filterMap (Edit.entry? (fun _ => ""))⟩) := by
  intro clock edits experimentId
  have hs : ∀ e ∈ edits, ∀ s ∈ e.status?, s ∈ statuses := by
    simp [edits, Edit.status?, statuses]
  have htop : ¬ "**Status:**".data <:+: (documentTop "Buffer" experimentId).data ∧
      ¬ "## Results".data <:+: (documentTop "Buffer" experimentId).data :=
    ⟨findSub_eq_none_iff.mp rfl, findSub_eq_none_iff.mp rfl⟩
  have hmiddle : ¬ "## Results".data <:+:
      (documentMiddle clock.rfc3339 (tagLine []) "pH holds" "titrate").data :=
    findSub_eq_none_iff.mp rfl
  exact ⟨hs, htop, hmiddle, experiment_document_after_edits _ clock "1b4e28ba" _ "Buffer"
    "pH holds" "titrate" [] edits hs htop hmiddle⟩

set_option maxRecDepth 8000 in
/-- A title that holds the status marker takes the status edit: the first line changes and
the header's status line still reads `planning`. -/
theorem status_marker_in_title :
    let clock : Clock := ⟨"20250101", "2025-01-01 09:00:00 UTC", "2025-01-01T09:00:00+00:00"⟩
    ∃ ws₁ out, createExperiment clock "1b4e28ba" ⟨fun _ => none, fun _ => "not found"⟩
        (createParams "**Status:**" "h" "p" [] : Json Nat) = .ok (ws₁, out) ∧
      (runEdits (fun _ => "") "exp-20250101-1b4e28ba" ws₁
          [(.updateStatus "completed" none : Edit Nat)]).docs "experiments/exp-20250101-1b4e28ba.md" =
        some ("# **Status:** completed\n\n**ID:** exp-20250101-1b4e28ba\n**Status:** planning\n" ++
          "**Created:** 2025-01-01T09:00:00+00:00\n**Tags:** none\n\n## Hypothesis\n\nh\n\n" ++
          "## Protocol\n\np\n\n## Observations\n\n_No observations recorded yet._\n\n" ++
          "## Results\n\n_Experiment not yet completed._\n") :=
  ⟨_, _, rfl, by decide⟩

end Edits

end Ironclaw.Tracker
