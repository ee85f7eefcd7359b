import Mathlib.Data.List.Nodup
import Ironclaw.Reports

/-!
# Concurrent calls of the report tool

Each workspace operation is atomic, but a call need not be: `append_section` reads the
report to check that it exists, and appends the section at a later step. `create_report`
writes once, `get_report` reads once, and every other call makes at most one operation. A
system of report calls in flight runs a schedule, one workspace operation per step.

Whatever the interleaving, the calls are linearizable: the workspace and every answer are
those of the returned calls run one after another, each at the step that decided it (the
append of a section, the read that found no report, the one operation of any other call).
No report call writes back a text it read earlier, so unlike `update_status` of the tracker
none undoes another's effect.
-/

namespace Ironclaw.Reports

open Tracker (Workspace Clock afterCall)
open Json

/-- A call of the report tool in flight, with what it takes from outside the workspace. -/
structure Request (α : Type) where
  clock : Clock
  uuid : String
  updatedAt : String → String
  list : Except ToolError (Json α)
  params : Json α

def Request.call {α : Type} (r : Request α) : Call α :=
  .report r.clock r.uuid r.updatedAt r.list r.params

/-- How far a call has got: not started, past the read of `append_section`, or returned. -/
inductive Phase (α : Type)
  | start
  | afterRead
  | done (answer : Except ToolError (Json α))

def Phase.answer {α : Type} : Phase α → Option (Except ToolError (Json α))
  | .done answer => some answer
  | _ => none

structure System (α : Type) where
  ws : Workspace
  phase : Nat → Phase α
  order : List Nat

section Step

variable {α : Type}

def System.initial (ws : Workspace) : System α := ⟨ws, fun _ => .start, []⟩

def System.complete (s : System α) (i : Nat) (c : Call α) : System α :=
  ⟨afterCall (c.result s.ws) s.ws, Function.update s.phase i (.done ((c.result s.ws).map Prod.snd)),
    s.order ++ [i]⟩

variable (requests : List (Request α))

/-- Call `i` makes its next workspace operation; `append_section` reads, then appends at a
later step. -/
def step (s : System α) (i : Nat) : System α :=
  match requests[i]?, s.phase i with
  | some r, .start =>
    match r.call.effect with
    | .append reportId _ _ =>
      match s.ws.read (reportPath reportId) with
      | .ok _ => { s with phase := Function.update s.phase i .afterRead }
      | .error message =>
        ⟨s.ws, Function.update s.phase i (.done (.error (reportNotFound reportId message))),
          s.order ++ [i]⟩
    | _ => s.complete i r.call
  | some r, .afterRead =>
    match r.call.effect with
    | .append reportId sectionName content =>
      ⟨s.ws.append (reportPath reportId) (sectionEntry sectionName content),
        Function.update s.phase i (.done (.ok (.object [("status", .string "appended"),
          ("report_id", .string reportId), ("section", .string sectionName)]))),
        s.order ++ [i]⟩
    | _ => s
  | _, _ => s

def run (s : System α) (schedule : List Nat) : System α := schedule.foldl (step requests) s

def System.calls (s : System α) : List (Call α) :=
  s.order.filterMap fun i => requests[i]?.map Request.call

end Step

/-! ## The two operations of `append_section` -/

section Append

variable {α : Type} {clock : Clock} {uuid : String} {params : Json α}
  {reportId sectionName content : String}

theorem effect_eq_append (h : effect clock uuid params = .append reportId sectionName content) :
    requireStr params "action" = .ok "append_section" ∧
      requireStr params "report_id" = .ok reportId ∧
      requireStr params "section_name" = .ok sectionName ∧
      requireStr params "content" = .ok content := by
  unfold effect at h
  split at h
  · split at h <;> cases h
  · split at h
    · cases h
      exact ⟨‹_›, ‹_›, ‹_›, ‹_›⟩
    · cases h
  · cases h

theorem execute_of_effect_append
    (h : effect clock uuid params = .append reportId sectionName content)
    (updatedAt : String → String) (list : Except ToolError (Json α)) (ws : Workspace) :
    execute clock uuid updatedAt list ws params =
      match ws.read (reportPath reportId) with
      | .error message => .error (reportNotFound reportId message)
      | .ok _ => .ok (ws.append (reportPath reportId) (sectionEntry sectionName content),
          .object [("status", .string "appended"), ("report_id", .string reportId),
            ("section", .string sectionName)]) := by
  obtain ⟨haction, hreport, hsection, hcontent⟩ := effect_eq_append h
  simp only [execute, haction, except_bind_ok]
  show appendSection ws params = _
  simp only [appendSection, hreport, hsection, hcontent, except_bind_ok]
  cases ws.read (reportPath reportId) <;> rfl

end Append

/-! ## What a call leaves in place -/

section Keep

variable {α : Type} {ws : Workspace} {path : String}

theorem Effect.run_isSome (e : Effect) (h : (ws.docs path).isSome) :
    ((e.run ws).docs path).isSome := by
  cases e with
  | create reportId document =>
    by_cases hp : path = reportPath reportId
    · simp [Effect.run, hp]
    · simpa [Effect.run, Workspace.write_docs_of_ne hp] using h
  | append reportId sectionName content =>
    simp only [Effect.run]
    split
    · by_cases hp : path = reportPath reportId
      · simp [hp]
      · simpa [Workspace.append_docs_of_ne hp] using h
    · exact h
  | nothing => exact h

theorem Request.afterCall_isSome (r : Request α) (h : (ws.docs path).isSome) :
    ((afterCall (r.call.result ws) ws).docs path).isSome := by
  rw [Request.call, Call.result, afterCall_execute]
  exact Effect.run_isSome _ h

theorem runCalls_concat (ws : Workspace) (calls : List (Call α)) (c : Call α) :
    runCalls ws (calls ++ [c]) =
      (afterCall (c.result (runCalls ws calls).1) (runCalls ws calls).1,
        (runCalls ws calls).2 ++ [(c.result (runCalls ws calls).1).map Prod.snd]) := by
  induction calls generalizing ws with
  | nil => rfl
  | cons c' calls ih => simp [runCalls, ih]

end Keep

/-! ## One step -/

section Steps

variable {α : Type} {requests : List (Request α)} {s : System α} {i : Nat}

def System.ReadyToAppend (requests : List (Request α)) (s : System α) (i : Nat) : Prop :=
  s.phase i = .afterRead → ∃ r reportId sectionName content, requests[i]? = some r ∧
    r.call.effect = .append reportId sectionName content ∧ (s.ws.docs (reportPath reportId)).isSome

theorem step_cases (hready : s.ReadyToAppend requests i) :
    (step requests s i = s ∧ (requests[i]? = none ∨ (s.phase i).answer.isSome)) ∨
    (s.phase i = .start ∧
      step requests s i = { s with phase := Function.update s.phase i .afterRead } ∧
      ∃ r reportId sectionName content, requests[i]? = some r ∧
        r.call.effect = .append reportId sectionName content ∧
        (s.ws.docs (reportPath reportId)).isSome) ∨
    (∃ r, requests[i]? = some r ∧ (s.phase i).answer = none ∧
      step requests s i = s.complete i r.call) := by
  unfold step
  split
  · rename_i r hr hp
    split
    · rename_i reportId sectionName content he
      have hexec := execute_of_effect_append he r.updatedAt r.list s.ws
      split
      · rename_i doc hdoc
        refine .inr (.inl ⟨hp, rfl, r, reportId, sectionName, content, hr, he, ?_⟩)
        cases hd : s.ws.docs (reportPath reportId)
        · simp [Workspace.read, hd] at hdoc
        · rfl
      · rename_i message hmsg
        refine .inr (.inr ⟨r, hr, by rw [hp]; rfl, ?_⟩)
        simp only [System.complete, Request.call, Call.result, hexec, hmsg]
        rfl
    · exact .inr (.inr ⟨r, hr, by rw [hp]; rfl, rfl⟩)
  · rename_i r hr hp
    obtain ⟨r', reportId, sectionName, content, hr', he, hdoc⟩ := hready hp
    obtain rfl : r = r' := Option.some.inj (hr.symm.trans hr')
    obtain ⟨doc, hdoc⟩ := Option.isSome_iff_exists.mp hdoc
    rw [he]
    refine .inr (.inr ⟨r, hr, by rw [hp]; rfl, ?_⟩)
    simp only [System.complete, Request.call, Call.result,
      execute_of_effect_append he r.updatedAt r.list s.ws, Workspace.read_of_docs hdoc]
    rfl
  · rename_i hnot hnot'
    refine .inl ⟨rfl, ?_⟩
    cases hr : requests[i]? with
    | none => exact .inl rfl
    | some r =>
      refine .inr ?_
      cases hp : s.phase i with
      | start => exact absurd hp (hnot r hr)
      | afterRead => exact absurd hp (hnot' r hr)
      | done answer => rfl

end Steps

/-! ## Every run -/

section Runs

variable {α : Type} (requests : List (Request α)) (ws₀ : Workspace)

/-- What holds of every reachable system: the returned calls are listed once each, and the
workspace and answers are those of running them one after another in that order. -/
structure Invariant (s : System α) : Prop where
  nodup : s.order.Nodup
  mem_order : ∀ i, i ∈ s.order ↔ (s.phase i).answer.isSome
  ready : ∀ i, s.ReadyToAppend requests i
  ws_eq : s.ws = (runCalls ws₀ (s.calls requests)).1
  answers :
    s.order.map (fun i => (s.phase i).answer) = (runCalls ws₀ (s.calls requests)).2.map some

variable {requests ws₀} {s : System α} {i : Nat}

theorem Invariant.initial : Invariant requests ws₀ (System.initial ws₀) :=
  ⟨List.nodup_nil, fun _ => by simp [System.initial, Phase.answer], fun _ h => (nomatch h), rfl,
    rfl⟩

theorem Invariant.not_mem (h : Invariant requests ws₀ s) (hi : (s.phase i).answer = none) :
    i ∉ s.order := by
  simp [h.mem_order, hi]

theorem map_answer_update {order : List Nat} {phase : Nat → Phase α} (hi : i ∉ order)
    (p : Phase α) :
    order.map (fun j => (Function.update phase i p j).answer) =
      order.map fun j => (phase j).answer :=
  List.map_congr_left fun _ hj => by rw [Function.update_noteq (ne_of_mem_of_not_mem hj hi)]

theorem Invariant.step (h : Invariant requests ws₀ s) (i : Nat) :
    Invariant requests ws₀ (step requests s i) := by
  rcases step_cases (h.ready i) with ⟨hs, -⟩ | ⟨hp, hs, hready⟩ | ⟨r, hr, hnone, hs⟩
  · rwa [hs]
  · have hi := h.not_mem (i := i) (by rw [hp]; rfl)
    rw [hs]
    refine ⟨h.nodup, fun j => ?_, fun j => ?_, h.ws_eq, (map_answer_update hi _).trans h.answers⟩
    · by_cases hj : j = i
      · subst hj
        simp [hi, Phase.answer]
      · simpa [Function.update_noteq hj] using h.mem_order j
    · by_cases hj : j = i
      · subst hj
        exact fun _ => hready
      · simpa [System.ReadyToAppend, Function.update_noteq hj] using h.ready j
  · have hi := h.not_mem hnone
    have hcalls : (s.complete i r.call).calls requests = s.calls requests ++ [r.call] := by
      simp [System.complete, System.calls, List.filterMap_append, hr]
    rw [hs]
    refine ⟨List.nodup_append.mpr ⟨h.nodup, List.nodup_singleton i, by simpa using hi⟩,
      fun j => ?_, fun j hp => ?_, ?_, ?_⟩
    · by_cases hj : j = i
      · subst hj
        simp [System.complete, Phase.answer]
      · simp [System.complete, Function.update_noteq hj, hj, h.mem_order j]
    · have hj : j ≠ i := by
        rintro rfl
        simp [System.complete] at hp
      obtain ⟨r', reportId, sectionName, content, hr', he, hdoc⟩ :=
        h.ready j (by simpa [System.complete, Function.update_noteq hj] using hp)
      exact ⟨r', reportId, sectionName, content, hr', he, r.afterCall_isSome hdoc⟩
    · rw [hcalls, runCalls_concat, ← h.ws_eq]
      rfl
    · rw [hcalls, runCalls_concat, ← h.ws_eq, List.map_append, ← h.answers]
      simp only [System.complete, List.map_append, List.map_singleton, Function.update_same,
        map_answer_update hi]
      rfl

theorem Invariant.run (h : Invariant requests ws₀ s) (schedule : List Nat) :
    Invariant requests ws₀ (run requests s schedule) := by
  induction schedule generalizing s with
  | nil => exact h
  | cons i schedule ih => exact ih (h.step i)

/-- Whatever the schedule, the report calls are linearizable. -/
theorem run_linearizable (requests : List (Request α)) (ws : Workspace) (schedule : List Nat) :
    let s := run requests (System.initial ws) schedule
    s.order.Nodup ∧ (∀ i, i ∈ s.order ↔ (s.phase i).answer.isSome) ∧
      s.ws = (runCalls ws (s.calls requests)).1 ∧
      s.order.map (fun i => (s.phase i).answer) = (runCalls ws (s.calls requests)).2.map some :=
  let h := (Invariant.initial : Invariant requests ws (System.initial ws)).run schedule
  ⟨h.nodup, h.mem_order, h.ws_eq, h.answers⟩

end Runs

end Ironclaw.Reports
