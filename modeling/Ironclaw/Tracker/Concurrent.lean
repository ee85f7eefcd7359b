import Ironclaw.Tracker.Layout

/-!
# Concurrent calls on one experiment

Each workspace operation is atomic, but a call is not: `log_observation` reads the
document and later appends to it, and `update_status` reads it and later writes
back the text it computed from what it read. A system of calls in flight runs a
schedule, one workspace operation per step, and records each operation in a
trace. Whatever the interleaving, the document stays in one of the layouts of
`Ironclaw.Tracker.Layout`, and the effect of a call that returned (its entry, or
its conclusion) is in the final document unless some `update_status` read the
document before that effect and wrote it back after: that write restores a text
from before the effect.
-/

namespace Ironclaw.Tracker

/-- A call on the experiment's document: `log_observation` with the entry it appends, or
`update_status` with its status and conclusion. -/
inductive Call
  | logObservation (entry : String)
  | updateStatus (status : String) (conclusion : Option String)

/-- How far a call has got: not started, past its read with the text it read, or
returned, with success or not. -/
inductive Phase
  | start
  | afterRead (snapshot : String)
  | done (ok : Bool)

/-- A workspace operation, by the call that issued it: its read, or its effect (the
append of `log_observation`, the write of `update_status`). -/
inductive Event
  | read (call : Nat)
  | effect (call : Nat)

/-- The workspace, the phase of every call, and the workspace operations so far in the
order they took effect. -/
structure System where
  ws : Workspace
  phase : Nat → Phase
  events : List Event

def System.initial (ws : Workspace) : System := ⟨ws, fun _ => .start, []⟩

section Step

variable (path : String) (calls : List Call)

/-- Call `i` issues its next workspace operation on `path`. -/
def step (s : System) (i : Nat) : System :=
  match calls[i]?, s.phase i with
  | some _, .start =>
    match s.ws.read path with
    | .ok content =>
      ⟨s.ws, Function.update s.phase i (.afterRead content), s.events ++ [.read i]⟩
    | .error _ => ⟨s.ws, Function.update s.phase i (.done false), s.events ++ [.read i]⟩
  | some (.logObservation entry), .afterRead _ =>
    ⟨s.ws.append path entry, Function.update s.phase i (.done true), s.events ++ [.effect i]⟩
  | some (.updateStatus status conclusion), .afterRead snapshot =>
    ⟨s.ws.write path (editDocument snapshot status conclusion),
      Function.update s.phase i (.done true), s.events ++ [.effect i]⟩
  | _, _ => s

def run (s : System) (schedule : List Nat) : System := schedule.foldl (step path calls) s

/-- The effect at position `k` of the trace is undone: an `update_status` read the
document before it and wrote back after it. -/
def Overwritten (events : List Event) (k : Nat) : Prop :=
  ∃ u status conclusion a b, calls[u]? = some (.updateStatus status conclusion) ∧ a < k ∧
    k < b ∧ events[a]? = some (.read u) ∧ events[b]? = some (.effect u)

end Step

/-- The status a call sets. -/
def Call.status? : Call → Option String
  | .logObservation _ => none
  | .updateStatus status _ => some status

def Call.conclusion? : Call → Option String
  | .logObservation _ => none
  | .updateStatus _ conclusion => conclusion

/-- What a call leaves in a record: its entry, or its conclusion. -/
def Call.Recorded : Call → Record → Prop
  | .logObservation entry, r => entry ∈ r.entries
  | .updateStatus _ conclusion, r => ∀ c ∈ conclusion, c ∈ r.conclusions

/-- What a call leaves in a document: its entry, or its conclusion, as text. -/
def Call.Present : Call → String → Prop
  | .logObservation entry, doc => entry.data <:+: doc.data
  | .updateStatus _ conclusion, doc => ∀ c ∈ conclusion, c.data <:+: doc.data

/-! ## One step -/

section Steps

variable {path : String} {calls : List Call} {s : System} {i : Nat}

theorem step_start {c : Call} {content : String} (hc : calls[i]? = some c)
    (hp : s.phase i = .start) (hdoc : s.ws.docs path = some content) :
    step path calls s i =
      ⟨s.ws, Function.update s.phase i (.afterRead content), s.events ++ [.read i]⟩ := by
  simp only [step, hc, hp, Workspace.read_of_docs hdoc]

theorem step_start_of_none {c : Call} (hc : calls[i]? = some c) (hp : s.phase i = .start)
    (hdoc : s.ws.docs path = none) :
    step path calls s i =
      ⟨s.ws, Function.update s.phase i (.done false), s.events ++ [.read i]⟩ := by
  simp only [step, hc, hp, Workspace.read, hdoc]

theorem step_logObservation {entry snapshot : String}
    (hc : calls[i]? = some (.logObservation entry)) (hp : s.phase i = .afterRead snapshot) :
    step path calls s i = ⟨s.ws.append path entry, Function.update s.phase i (.done true),
      s.events ++ [.effect i]⟩ := by
  simp only [step, hc, hp]

theorem step_updateStatus {status snapshot : String} {conclusion : Option String}
    (hc : calls[i]? = some (.updateStatus status conclusion))
    (hp : s.phase i = .afterRead snapshot) :
    step path calls s i = ⟨s.ws.write path (editDocument snapshot status conclusion),
      Function.update s.phase i (.done true), s.events ++ [.effect i]⟩ := by
  simp only [step, hc, hp]

theorem step_of_none (hc : calls[i]? = none) : step path calls s i = s := by
  simp only [step, hc]

theorem step_of_done {ok : Bool} (hp : s.phase i = .done ok) : step path calls s i = s := by
  unfold step
  split <;> simp_all

theorem run_cons (s : System) (i : Nat) (schedule : List Nat) :
    run path calls s (i :: schedule) = run path calls (step path calls s i) schedule := rfl

end Steps

/-! ## Positions in a growing trace -/

section Trace

variable {β : Type} {l : List β} {k : Nat} {x : β}

theorem lt_length_of_getElem? (h : l[k]? = some x) : k < l.length :=
  (List.getElem?_eq_some_iff.mp h).1

theorem getElem?_append_of_getElem? (l' : List β) (h : l[k]? = some x) :
    (l ++ l')[k]? = some x := by
  rw [List.getElem?_append_left (lt_length_of_getElem? h), h]

/-- A position of a trace with one more operation is an old position or the new one. -/
theorem getElem?_append_singleton {e : β} (h : (l ++ [e])[k]? = some x) :
    l[k]? = some x ∨ k = l.length ∧ e = x := by
  rcases Nat.lt_or_ge k l.length with hk | hk
  · exact .inl (by rwa [List.getElem?_append_left hk] at h)
  · obtain ⟨m, rfl⟩ := Nat.exists_eq_add_of_le hk
    rw [List.getElem?_append_right hk, Nat.add_sub_cancel_left] at h
    cases m with
    | zero => exact .inr ⟨rfl, by simpa using h⟩
    | succ m => simp at h

end Trace

section Records

variable {calls : List Call} {events : List Event}

/-- An effect stays undone when the trace grows. -/
theorem Overwritten.append {k : Nat} (e : Event) (h : Overwritten calls events k) :
    Overwritten calls (events ++ [e]) k := by
  obtain ⟨u, status, conclusion, a, b, hu, hak, hkb, ha, hb⟩ := h
  exact ⟨u, status, conclusion, a, b, hu, hak, hkb, getElem?_append_of_getElem? _ ha,
    getElem?_append_of_getElem? _ hb⟩

theorem Call.Recorded.log {c : Call} {r : Record} (entry : String) (h : c.Recorded r) :
    c.Recorded (r.log entry) := by
  cases c <;> simp_all [Call.Recorded, Record.log]

theorem Call.Recorded.update {c : Call} {r : Record} (status : String)
    (conclusion : Option String) (h : c.Recorded r) : c.Recorded (r.update status conclusion) := by
  cases c <;> simp_all [Call.Recorded, Record.update]

/-- What a record holds, a document in a layout holds as text. -/
theorem Call.Recorded.present {c : Call} {plain : Prop} {doc : String} {r : Record}
    (hdoc : Shaped plain doc r) (h : c.Recorded r) : c.Present doc := by
  cases c with
  | logObservation entry => exact hdoc.infix _ (List.mem_append_right _ h)
  | updateStatus status conclusion =>
    exact fun x hx => hdoc.infix _ (List.mem_append_left _ (h x hx))

/-- Every effect before position `n` of the trace that no `update_status` undid is in the
record. -/
def RecordedBefore (calls : List Call) (events : List Event) (n : Nat) (r : Record) : Prop :=
  ∀ k j c, k < n → events[k]? = some (.effect j) → calls[j]? = some c →
    ¬ Overwritten calls events k → c.Recorded r

theorem RecordedBefore.append {n : Nat} {r : Record} (e : Event)
    (hr : RecordedBefore calls events n r) (hn : n ≤ events.length) :
    RecordedBefore calls (events ++ [e]) n r := fun k j c hk he hc hno =>
  hr k j c hk (by rwa [List.getElem?_append_left (by omega)] at he) hc (fun ho => hno (ho.append e))

/-- A record that keeps what another holds, and holds every effect from position `n` on,
holds every effect of the grown trace. -/
theorem RecordedBefore.extend {n : Nat} {r r' : Record} {e : Event}
    (hr : RecordedBefore calls events n r) (hn : n ≤ events.length)
    (hmono : ∀ c : Call, c.Recorded r → c.Recorded r')
    (hnew : ∀ k j c, n ≤ k → (events ++ [e])[k]? = some (.effect j) → calls[j]? = some c →
      ¬ Overwritten calls (events ++ [e]) k → c.Recorded r') :
    RecordedBefore calls (events ++ [e]) (events ++ [e]).length r' := by
  intro k j c _ he hc hno
  rcases Nat.lt_or_ge k n with hkn | hkn
  · exact hmono c ((hr.append e hn) k j c hkn he hc hno)
  · exact hnew k j c hkn he hc hno

end Records

/-! ## The invariant of every run -/

section Invariant

variable (plain : Prop) (path : String) (calls : List Call)

/-- The document is in a layout and holds every effect no `update_status` undid; a call past
its read read such a document, at a read the trace records; a call that returned success
has its effect in the trace. -/
structure Invariant (s : System) : Prop where
  doc : ∃ doc r, s.ws.docs path = some doc ∧ Shaped plain doc r ∧
    RecordedBefore calls s.events s.events.length r
  pending : ∀ i snapshot, s.phase i = .afterRead snapshot → ∃ a r,
    s.events[a]? = some (.read i) ∧ Shaped plain snapshot r ∧ RecordedBefore calls s.events a r
  returned : ∀ i, s.phase i = .done true → ∃ k : Nat, s.events[k]? = some (.effect i)

variable {plain path calls}

theorem initial_invariant {ws : Workspace} {doc : String} {r : Record}
    (hdoc : ws.docs path = some doc) (hshaped : Shaped plain doc r) :
    Invariant plain path calls (System.initial ws) :=
  ⟨⟨doc, r, hdoc, hshaped, fun _ _ _ hk => absurd hk (Nat.not_lt_zero _)⟩,
    fun _ _ hp => Phase.noConfusion hp, fun _ hp => Phase.noConfusion hp⟩

/-- Call `i` moves to phase `x` with operation `e`: the other calls keep what the invariant
says of them, so only the document and call `i` are left to check. -/
theorem Invariant.next {s : System} (hinv : Invariant plain path calls s) (i : Nat)
    (ws : Workspace) (x : Phase) (e : Event)
    (hdoc : ∃ doc r, ws.docs path = some doc ∧ Shaped plain doc r ∧
      RecordedBefore calls (s.events ++ [e]) (s.events ++ [e]).length r)
    (hpending : ∀ snapshot, x = .afterRead snapshot → ∃ a r,
      (s.events ++ [e])[a]? = some (.read i) ∧ Shaped plain snapshot r ∧
        RecordedBefore calls (s.events ++ [e]) a r)
    (hreturned : x = .done true → ∃ k : Nat, (s.events ++ [e])[k]? = some (.effect i)) :
    Invariant plain path calls ⟨ws, Function.update s.phase i x, s.events ++ [e]⟩ := by
  refine ⟨hdoc, fun j snapshot hp => ?_, fun j hp => ?_⟩
  · by_cases hji : j = i
    · subst hji
      exact hpending snapshot (by simpa using hp)
    · obtain ⟨a, r, ha, hr, hrec⟩ :=
        hinv.pending j snapshot (by simpa [Function.update_noteq hji] using hp)
      exact ⟨a, r, getElem?_append_of_getElem? _ ha, hr, hrec.append e (lt_length_of_getElem? ha).le⟩
  · by_cases hji : j = i
    · subst hji
      exact hreturned (by simpa using hp)
    · obtain ⟨k, hk⟩ := hinv.returned j (by simpa [Function.update_noteq hji] using hp)
      exact ⟨k, getElem?_append_of_getElem? _ hk⟩

end Invariant

/-! ## Every run keeps the invariant -/

section Preservation

variable {plain : Prop} {path : String} {calls : List Call} {s : System} {i : Nat}

/-- A read finds the document in a layout and remembers it, with what it holds. -/
theorem Invariant.step_start {c : Call} (hinv : Invariant plain path calls s)
    (hc : calls[i]? = some c) (hp : s.phase i = .start) :
    Invariant plain path calls (step path calls s i) := by
  obtain ⟨doc, r, hdoc, hr, hrec⟩ := hinv.doc
  rw [Tracker.step_start hc hp hdoc]
  refine hinv.next i _ _ _ ⟨doc, r, hdoc, hr, hrec.extend le_rfl (fun _ hr => hr) ?_⟩
    (fun _ hx => ⟨_, r, List.getElem?_concat_length _ _, (Phase.afterRead.inj hx) ▸ hr,
      hrec.append _ le_rfl⟩)
    (fun hx => Phase.noConfusion hx)
  intro k j _ hk he
  rcases getElem?_append_singleton he with he | ⟨-, he⟩
  · exact absurd (lt_length_of_getElem? he) (by omega)
  · exact Event.noConfusion he

/-- An append adds the entry at the end of the document. -/
theorem Invariant.step_logObservation {entry snapshot : String}
    (hinv : Invariant plain path calls s) (hc : calls[i]? = some (.logObservation entry))
    (hp : s.phase i = .afterRead snapshot) :
    Invariant plain path calls (step path calls s i) := by
  obtain ⟨doc, r, hdoc, hr, hrec⟩ := hinv.doc
  rw [Tracker.step_logObservation hc hp]
  refine hinv.next i _ _ _
    ⟨doc ++ entry, r.log entry, by rw [Workspace.append_docs_self, hdoc, Option.getD_some],
      hr.append entry, hrec.extend le_rfl (fun _ hr => hr.log entry) ?_⟩
    (fun _ hx => Phase.noConfusion hx) (fun _ => ⟨_, List.getElem?_concat_length _ _⟩)
  intro k j c hk he hc' _
  rcases getElem?_append_singleton he with he | ⟨-, he⟩
  · exact absurd (lt_length_of_getElem? he) (by omega)
  · cases he
    cases hc.symm.trans hc'
    exact List.mem_concat_self _ _

/-- A write puts back the text read with the status and conclusion applied: it holds all
that the text read held and its own conclusion, and the effects since the read are undone. -/
theorem Invariant.step_updateStatus {status snapshot : String} {conclusion : Option String}
    (hinv : Invariant plain path calls s) (hs : ¬ resultsHeading <:+: status.data)
    (hconclusion : plain → ∀ x ∈ conclusion, ¬ statusMarker <:+: x.data)
    (hc : calls[i]? = some (.updateStatus status conclusion))
    (hp : s.phase i = .afterRead snapshot) :
    Invariant plain path calls (step path calls s i) := by
  obtain ⟨a, ru, ha, hru, hrecu⟩ := hinv.pending i snapshot hp
  rw [Tracker.step_updateStatus hc hp]
  refine hinv.next i _ _ _ ⟨_, ru.update status conclusion, Workspace.write_docs_self,
    hru.edit hs conclusion hconclusion,
    hrecu.extend (lt_length_of_getElem? ha).le (fun _ hr => hr.update status conclusion) ?_⟩
    (fun _ hx => Phase.noConfusion hx) (fun _ => ⟨_, List.getElem?_concat_length _ _⟩)
  intro k j c hak he hc' hno
  rcases getElem?_append_singleton he with he | ⟨-, he⟩
  · rcases hak.lt_or_eq with hak | rfl
    · exact absurd ⟨i, status, conclusion, a, _, hc, hak, lt_length_of_getElem? he,
        getElem?_append_of_getElem? _ ha, List.getElem?_concat_length _ _⟩ hno
    · exact Event.noConfusion (Option.some.inj (ha.symm.trans he))
  · cases he
    cases hc.symm.trans hc'
    exact fun x hx => List.mem_append_left _ (Option.mem_toList.mpr hx)

variable (hstatus : ∀ c ∈ calls, ∀ status ∈ c.status?, ¬ resultsHeading <:+: status.data)
  (hconclusion : plain → ∀ c ∈ calls, ∀ x ∈ c.conclusion?, ¬ statusMarker <:+: x.data)
include hstatus hconclusion

/-- Every step keeps the invariant, by the call and its phase. -/
theorem step_invariant (hinv : Invariant plain path calls s) (i : Nat) :
    Invariant plain path calls (step path calls s i) := by
  cases hc : calls[i]? with
  | none => rwa [step_of_none hc]
  | some c =>
    cases hp : s.phase i with
    | start => exact hinv.step_start hc hp
    | afterRead snapshot =>
      cases c with
      | logObservation entry => exact hinv.step_logObservation hc hp
      | updateStatus status conclusion =>
        exact hinv.step_updateStatus (hstatus _ (List.getElem?_mem hc) status rfl)
          (fun hp' => hconclusion hp' _ (List.getElem?_mem hc)) hc hp
    | done ok => rwa [step_of_done hp]

theorem run_invariant (hinv : Invariant plain path calls s) (schedule : List Nat) :
    Invariant plain path calls (run path calls s schedule) := by
  induction schedule generalizing s with
  | nil => exact hinv
  | cons i schedule ih => exact ih (step_invariant hstatus hconclusion hinv i)

end Preservation

/-- Whatever the interleaving of the calls' reads and effects on a document `create_experiment`
wrote, with any title, hypothesis and protocol, every call that returned success has its
effect (its entry, or its conclusion) in the final document unless an `update_status` read
the document before that effect and wrote back after it; provided no status holds
`## Results` and, when the title holds `## Results`, no conclusion holds `**Status:**`. -/
theorem concurrent_effects_survive
    (title experimentId created tags hypothesis protocol path : String) (calls : List Call)
    (hstatus : ∀ c ∈ calls, ∀ status ∈ c.status?, ¬ "## Results".data <:+: status.data)
    (hconclusion : "## Results".data <:+: (documentTop title experimentId).data →
      ∀ c ∈ calls, ∀ x ∈ c.conclusion?, ¬ "**Status:**".data <:+: x.data)
    (ws : Workspace) (hdoc : ws.docs path =
      some (experimentDocument title experimentId created tags hypothesis protocol))
    (schedule : List Nat) :
    let final := run path calls (System.initial ws) schedule
    ∃ doc, final.ws.docs path = some doc ∧
      ∀ i c, calls[i]? = some c → final.phase i = .done true →
        ∃ k : Nat, final.events[k]? = some (.effect i) ∧
          (¬ Overwritten calls final.events k → c.Present doc) := by
  intro final
  have hinit : Invariant (∀ c ∈ calls, ∀ x ∈ c.conclusion?, ¬ statusMarker <:+: x.data) path calls
      (System.initial ws) := initial_invariant hdoc
    (shaped_experimentDocument title experimentId created tags hypothesis protocol hconclusion)
  have hinv := run_invariant hstatus (fun h => h) hinit schedule
  obtain ⟨doc, r, hdoc', hr, hrec⟩ := hinv.doc
  refine ⟨doc, hdoc', fun i c hc hdone => ?_⟩
  obtain ⟨k, hk⟩ := hinv.returned i hdone
  exact ⟨k, hk, fun hno => (hrec k i c (lt_length_of_getElem? hk) hk hc hno).present hr⟩

/-! ## The sequential calls, split at their awaits -/

section Sequential

variable {α : Type} {calls : List Call} {i : Nat} {s : System} {experimentId : String}

/-- Run back to back, the read and the append of a `log_observation` call are the sequential
call: it returns success exactly when the sequential call does, and leaves the same
workspace. -/
theorem run_logObservation (display : Json α → String) (clock : Clock) (params : Json α)
    {observation : String} (hid : requireStr params "experiment_id" = .ok experimentId)
    (hobs : requireStr params "observation" = .ok observation)
    (hc : calls[i]? = some
      (.logObservation (observationEntry display clock observation (params.get "data"))))
    (hs : s.phase i = .start) :
    let s' := run (experimentPath experimentId) calls s [i, i]
    s'.phase i = .done (logObservation display clock s.ws params).isOk ∧
      s'.ws = ((logObservation display clock s.ws params).toOption.map Prod.fst).getD s.ws := by
  intro s'
  cases hdoc : s.ws.docs (experimentPath experimentId) with
  | none =>
    have hstep := step_start_of_none hc hs hdoc
    simp only [s', run, List.foldl_cons, List.foldl_nil, hstep]
    simp only [step, hc, Function.update_same]
    simp [logObservation, hid, hobs, Workspace.read, hdoc, Except.toOption, Except.isOk,
      Except.toBool]
  | some content =>
    have hstep := step_start hc hs hdoc
    simp only [s', run, List.foldl_cons, List.foldl_nil, hstep]
    simp only [step, hc, Function.update_same]
    simp [logObservation, hid, hobs, Workspace.read, hdoc, Except.toOption, Except.isOk,
      Except.toBool]

/-- Run back to back, the read and the write of an `update_status` call are the sequential
call. -/
theorem run_updateStatus (params : Json α) {status : String}
    (hid : requireStr params "experiment_id" = .ok experimentId)
    (hstatus : requireStr params "status" = .ok status)
    (hc : calls[i]? = some (.updateStatus status ((params.get "conclusion").bind Json.asStr)))
    (hs : s.phase i = .start) :
    let s' := run (experimentPath experimentId) calls s [i, i]
    s'.phase i = .done (updateStatus s.ws params).isOk ∧
      s'.ws = ((updateStatus s.ws params).toOption.map Prod.fst).getD s.ws := by
  intro s'
  cases hdoc : s.ws.docs (experimentPath experimentId) with
  | none =>
    have hstep := step_start_of_none hc hs hdoc
    simp only [s', run, List.foldl_cons, List.foldl_nil, hstep]
    simp only [step, hc, Function.update_same]
    simp [updateStatus, hid, hstatus, Workspace.read, hdoc, Except.toOption, Except.isOk,
      Except.toBool]
  | some content =>
    have hstep := step_start hc hs hdoc
    simp only [s', run, List.foldl_cons, List.foldl_nil, hstep]
    simp only [step, hc, Function.update_same]
    simp [updateStatus, hid, hstatus, Workspace.read, hdoc, Except.toOption, Except.isOk,
      Except.toBool]

end Sequential

theorem concurrent_effects_survive_example :
    let calls := [Call.logObservation "\n- **[09:00]** seen",
      .updateStatus "completed" (some "buffer holds")]
    let ws : Workspace := ⟨fun _ => some (experimentDocument "T ## Results" "exp-1"
      "2025-01-01T09:00:00+00:00" "none" "h" "p"), fun _ => ""⟩
    let final := run (experimentPath "exp-1") calls (System.initial ws) [0, 1, 1, 0]
    ((∀ c ∈ calls, ∀ status ∈ c.status?, ¬ "## Results".data <:+: status.data) ∧
      ("## Results".data <:+: (documentTop "T ## Results" "exp-1").data →
        ∀ c ∈ calls, ∀ x ∈ c.conclusion?, ¬ "**Status:**".data <:+: x.data)) ∧
    ∃ doc, final.ws.docs (experimentPath "exp-1") = some doc ∧
      ∀ i c, calls[i]? = some c → final.phase i = .done true →
        ∃ k : Nat, final.events[k]? = some (.effect i) ∧
          (¬ Overwritten calls final.events k → c.Present doc) := by
  intro calls ws final
  have hstatus : ∀ c ∈ calls, ∀ status ∈ c.status?, ¬ "## Results".data <:+: status.data := by
    simp only [calls, List.mem_cons, List.mem_singleton, List.not_mem_nil, or_false]
    rintro c (rfl | rfl) status hs <;> cases hs
    exact findSub_eq_none_iff.mp rfl
  have hconclusion : "## Results".data <:+: (documentTop "T ## Results" "exp-1").data →
      ∀ c ∈ calls, ∀ x ∈ c.conclusion?, ¬ "**Status:**".data <:+: x.data := by
    simp only [calls, List.mem_cons, List.mem_singleton, List.not_mem_nil, or_false]
    rintro - c (rfl | rfl) x hx <;> cases hx
    exact findSub_eq_none_iff.mp rfl
  exact ⟨⟨hstatus, hconclusion⟩, concurrent_effects_survive "T ## Results" "exp-1"
    "2025-01-01T09:00:00+00:00" "none" "h" "p" _ calls hstatus hconclusion ws rfl _⟩

set_option maxRecDepth 8000 in
/-- An `update_status` that reads, then a `log_observation` that reads and appends, then the
write of the `update_status`: both calls return success and the entry is gone. -/
theorem update_status_loses_observation :
    let calls := [Call.logObservation "\n- **[09:00]** seen", .updateStatus "completed" none]
    let ws : Workspace := ⟨fun _ => some (experimentDocument "T" "exp-1"
      "2025-01-01T09:00:00+00:00" "none" "h" "p"), fun _ => ""⟩
    let final := run (experimentPath "exp-1") calls (System.initial ws) [1, 0, 0, 1]
    final.phase 0 = .done true ∧ final.phase 1 = .done true ∧
      ∃ doc, final.ws.docs (experimentPath "exp-1") = some doc ∧
        ¬ (Call.logObservation "\n- **[09:00]** seen").Present doc :=
  ⟨rfl, rfl, _, rfl, findSub_eq_none_iff.mp rfl⟩

end Ironclaw.Tracker
