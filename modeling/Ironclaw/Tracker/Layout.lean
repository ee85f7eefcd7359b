import Ironclaw.Tracker.Shape

/-!
# Where `update_status` edits, for any title

`update_status` rewrites the line of the first `**Status:**` and inserts its conclusion after
the first blank line that follows the first `## Results`, wherever these lie. On a document
`create_experiment` wrote, whatever the title, the hypothesis and the protocol, they lie in
one of two layouts, and every call keeps the document in its layout. Either the status line
comes first and every entry and conclusion lies past the place where conclusions go
(`StatusFirst`), or a `## Results` and a blank line above the first `**Status:**` put that
place above the status line, where the conclusions stack up (`ResultsFirst`). The first
layout needs statuses without `## Results`, the second conclusions without `**Status:**`.
-/

namespace Ironclaw.Tracker

def statusMarker : List Char := "**Status:**".data

def resultsHeading : List Char := "## Results".data

def blankLine : List Char := "\n\n".data

@[simp] theorem statusMarker_length : statusMarker.length = 11 := rfl

@[simp] theorem resultsHeading_length : resultsHeading.length = 10 := rfl

@[simp] theorem blankLine_length : blankLine.length = 2 := rfl

/-! ## The two edits on a text -/

section Edits

theorem status_data (s : String) : ("**Status:** " ++ s).data = statusMarker ++ ' ' :: s.data := by
  simp [statusMarker]

theorem head_not_mem {l p : List Char} {x : Char} (h : l.head? = some x) (hx : x ∉ p) :
    ∀ c ∈ l.head?, c ∉ p := by
  rw [h]
  simpa using hx

theorem head?_append_of_head? {l m : List Char} {x : Char} (h : l.head? = some x) :
    (l ++ m).head? = some x := by
  cases l with
  | nil => cases h
  | cons y l => exact h

theorem head?_statusMarker_append (l : List Char) : (statusMarker ++ l).head? = some '*' := rfl

/-- A line with a break is the text up to its first break, the break, and the rest. -/
theorem line_split {line : List Char} (h : '\n' ∈ line) :
    ∃ first rest, line = first ++ '\n' :: rest ∧ '\n' ∉ first ∧
      line.dropWhile (· != '\n') = '\n' :: rest := by
  have hhead := head?_dropWhile_of_mem h
  cases hd : line.dropWhile (· != '\n') with
  | nil => simp [hd] at hhead
  | cons c rest =>
    obtain rfl : c = '\n' := by simpa [hd] using hhead
    refine ⟨line.takeWhile (· != '\n'), rest, ?_, fun hm => by simpa using List.mem_takeWhile_imp hm, rfl⟩
    rw [← hd, List.takeWhile_append_dropWhile]

/-- The status edit on a text whose first `**Status:**` ends `before`, with a line break
later in `line`: the rest of that line becomes the status. -/
theorem updateStatusLine_text {before line after : List Char}
    (hfirst : findSub statusMarker (before ++ statusMarker) = some before.length)
    (hline : '\n' ∈ line) (s : String) :
    updateStatusLine ⟨before ++ statusMarker ++ line ++ after⟩ s =
      ⟨before ++ statusMarker ++ ' ' :: (s.data ++ line.dropWhile (· != '\n')) ++ after⟩ := by
  obtain ⟨first, rest, rfl, hfirstLine, hdrop⟩ := line_split hline
  rw [hdrop]
  have hdoc : before ++ statusMarker ++ (first ++ '\n' :: rest) ++ after =
      before ++ ((statusMarker ++ first) ++ '\n' :: (rest ++ after)) := by simp
  have hfind : find ⟨before ++ statusMarker ++ (first ++ '\n' :: rest) ++ after⟩ "**Status:**" =
      some before.length := by
    simpa only [List.append_assoc] using findSub_append_right (first ++ '\n' :: rest ++ after) hfirst
  have hend : find (sliceFrom ⟨before ++ statusMarker ++ (first ++ '\n' :: rest) ++ after⟩
      before.length) "\n" = some (statusMarker ++ first).length := by
    show findSub ['\n'] ((before ++ statusMarker ++ (first ++ '\n' :: rest) ++ after).drop
      before.length) = _
    rw [hdoc, List.drop_left]
    exact findSub_singleton_append (List.mem_append.not.mpr (not_or.mpr ⟨by decide, hfirstLine⟩))
  rw [updateStatusLine, hfind]
  dsimp only
  rw [hend]
  simp only [replaceRange, status_data, hdoc, List.take_left, List.drop_append, List.drop_left]
  simp

/-- The conclusion edit on a text whose first `## Results` is at `q`, followed `k`
characters later by a blank line. -/
theorem addConclusion_at {doc : List Char} {q k : Nat}
    (hq : findSub resultsHeading doc = some q) (hk : findSub blankLine (doc.drop q) = some k)
    (c : String) :
    addConclusion ⟨doc⟩ (some c) =
      ⟨doc.take (q + k + 2) ++ (c.data ++ blankLine ++ doc.drop (q + k + 2))⟩ := by
  have hq' : find ⟨doc⟩ "## Results" = some q := hq
  have hk' : find (sliceFrom ⟨doc⟩ q) "\n\n" = some k := hk
  simp [addConclusion, hq', hk', insertStr, blankLine]

/-- The same, for an insertion point `j` characters into a part `T` of the text. -/
theorem addConclusion_within {X T R : List Char} {q k j : Nat}
    (hq : findSub resultsHeading (X ++ T ++ R) = some q)
    (hk : findSub blankLine ((X ++ T ++ R).drop q) = some k)
    (hj : q + k + 2 = X.length + j) (hjT : j ≤ T.length) (c : String) :
    addConclusion ⟨X ++ T ++ R⟩ (some c) =
      ⟨X ++ T.take j ++ (c.data ++ blankLine ++ T.drop j ++ R)⟩ := by
  rw [addConclusion_at hq hk, hj, List.append_assoc, List.take_append, List.drop_append,
    List.take_append_of_le_length hjT, List.drop_append_of_le_length hjT]
  simp

end Edits

/-! ## The status line first -/

section StatusFirst

theorem not_results_cons_space {s : List Char} (hs : ¬ resultsHeading <:+: s) :
    ¬ resultsHeading <:+: ' ' :: s := by
  rw [List.infix_cons_iff, not_or]
  exact ⟨fun h => absurd (List.cons_prefix_cons.mp h).1 (by decide), hs⟩

/-- The status text holds no `## Results`, whatever stood before its line. -/
theorem not_results_status {before s : List Char} (hbefore : ¬ resultsHeading <:+: before)
    (hs : ¬ resultsHeading <:+: s) : ¬ resultsHeading <:+: before ++ statusMarker ++ ' ' :: s := by
  rw [List.append_assoc]
  exact not_infix_append_of_not_mem hbefore
    (not_infix_append (by decide) (not_results_cons_space hs) (by decide))
    (head_not_mem (head?_statusMarker_append _) (by decide))

/-- A blank line at `k` in `t` is the end of `t.take (k + 2)`. -/
theorem take_blankLine {t : List Char} {k : Nat} (hk : blankLine <+: t.drop k) :
    t.take (k + 2) = t.take k ++ blankLine := by
  rw [List.take_add, List.prefix_iff_eq_take.mp hk]
  rfl

/-- Where the first `## Results` and the blank line after it lie, for a status line that
ends `before` and a text `rest` that follows the line's end: `rest` holds the heading and
a blank line after it (`below`), or `before` holds the heading, with no blank line after it
there, and `rest` holds a blank line (`above`). -/
inductive Inserts (before rest : List Char) : Prop
  | below (lead tail : List Char) (hbefore : ¬ resultsHeading <:+: before)
      (hrest : rest = lead ++ resultsHeading ++ tail)
      (hfirst : findSub resultsHeading (lead ++ resultsHeading) = some lead.length)
      (hblank : blankLine <:+: tail)
  | above (lead tail : List Char) (hbefore : before = lead ++ resultsHeading ++ tail)
      (hfirst : findSub resultsHeading (lead ++ resultsHeading) = some lead.length)
      (htail : ¬ blankLine <:+: tail) (hblank : blankLine <:+: rest)

/-- A text that starts with a line break before a `## Results` starts with it before that
heading too. -/
theorem head?_lead_results {lead tail : List Char}
    (h : (lead ++ resultsHeading ++ tail).head? = some '\n') :
    (lead ++ resultsHeading).head? = some '\n' := by
  cases lead with
  | nil =>
    exact absurd (h.symm.trans (rfl : ([] ++ resultsHeading ++ tail).head? = some '#'))
      (by decide)
  | cons x lead => exact h

namespace Inserts

variable {before rest : List Char}

/-- A text without `## Results` may come before `rest`. -/
theorem prepend (h : Inserts before rest) (hrest : rest.head? = some '\n') {pre : List Char}
    (hpre : ¬ resultsHeading <:+: pre) : Inserts before (pre ++ rest) := by
  cases h with
  | below lead tail hbefore hr hfirst hblank =>
    subst hr
    refine .below (pre ++ lead) tail hbefore (by simp) ?_ hblank
    rw [List.append_assoc, findSub_append_of_not_mem hpre
      (head_not_mem (head?_lead_results hrest) (by decide)), hfirst]
    simp
  | above lead tail hbefore hfirst htail hblank =>
    exact .above lead tail hbefore hfirst htail (hblank.trans (List.suffix_append pre rest).isInfix)

/-- After the status edit, the conclusion goes `j` characters into the new status text
`' ' :: (s ++ rest)`, and the part of it before that point keeps the layout. -/
theorem addConclusion_split (h : Inserts before rest) (hrest : rest.head? = some '\n')
    {s : List Char} (hs : ¬ resultsHeading <:+: s) (after : List Char) (c : String) :
    ∃ j, '\n' ∈ (' ' :: (s ++ rest)).take j ∧
      Inserts before (((' ' :: (s ++ rest)).take j).dropWhile (· != '\n')) ∧
      addConclusion
          ⟨before ++ statusMarker ++ ' ' :: (s ++ rest) ++ after⟩ (some c) =
        ⟨before ++ statusMarker ++ (' ' :: (s ++ rest)).take j ++
          (c.data ++ blankLine ++ (' ' :: (s ++ rest)).drop j ++ after)⟩ := by
  have hspace : ¬ resultsHeading <:+: ' ' :: s := not_results_cons_space hs
  cases h with
  | below lead tail hbefore hr hfirst hblank =>
    subst hr
    obtain ⟨k, hk⟩ := exists_findSub_of_infix hblank
    have hk2 := (prefix_drop_of_findSub hk).length_le
    have hlead := head?_lead_results hrest
    have hdoc : before ++ statusMarker ++ ' ' :: (s ++ (lead ++ resultsHeading ++ tail)) ++ after =
        (before ++ statusMarker ++ ' ' :: s) ++ (lead ++ resultsHeading ++ (tail ++ after)) := by
      simp
    have hq : findSub resultsHeading (before ++ statusMarker ++ ' ' :: (s ++ (lead ++ resultsHeading
        ++ tail)) ++ after) = some ((before ++ statusMarker ++ ' ' :: s).length + lead.length) := by
      rw [hdoc, findSub_append_of_not_mem (not_results_status hbefore hs)
        (head_not_mem (head?_append_of_head? hlead) (by decide)), findSub_append_right _ hfirst]
      rfl
    have hk' : findSub blankLine ((before ++ statusMarker ++ ' ' :: (s ++ (lead ++ resultsHeading
        ++ tail)) ++ after).drop ((before ++ statusMarker ++ ' ' :: s).length + lead.length)) =
        some (10 + k) := by
      rw [hdoc, List.drop_append, List.append_assoc, List.drop_left,
        findSub_append (by decide) (by decide),
        findSub_append_right _ hk]
      rfl
    have htake : (' ' :: (s ++ (lead ++ resultsHeading ++ tail))).take
        ((' ' :: (s ++ lead)).length + 10 + k + 2) =
        ' ' :: s ++ (lead ++ resultsHeading ++ tail.take (k + 2)) := by
      rw [show ' ' :: (s ++ (lead ++ resultsHeading ++ tail)) =
          (' ' :: (s ++ lead) ++ resultsHeading) ++ tail by simp,
        show (' ' :: (s ++ lead)).length + 10 + k + 2 =
          (' ' :: (s ++ lead) ++ resultsHeading).length + (k + 2) by simp; omega, List.take_append]
      simp
    have hpre : ¬ resultsHeading <:+: (' ' :: s).dropWhile (· != '\n') :=
      fun h => hspace (h.trans (List.dropWhile_suffix _).isInfix)
    refine ⟨(' ' :: (s ++ lead)).length + 10 + k + 2, ?_, ?_, addConclusion_within hq hk' ?_ ?_ c⟩
    · rw [htake]
      exact List.mem_append_right _ (List.mem_of_mem_head? (head?_append_of_head? hlead))
    · rw [htake, dropWhile_append_of_head (head?_append_of_head? hlead)]
      refine .below ((' ' :: s).dropWhile (· != '\n') ++ lead) (tail.take (k + 2)) hbefore
        (by simp) ?_ ?_
      · rw [List.append_assoc, findSub_append_of_not_mem hpre (head_not_mem hlead (by decide)),
          hfirst]
        simp
      · rw [take_blankLine (prefix_drop_of_findSub hk)]
        exact (List.suffix_append _ _).isInfix
    · simp
      omega
    · simp at hk2 ⊢
      omega
  | above lead tail hbefore hfirst htail hblank =>
    subst hbefore
    have hT : blankLine <:+: ' ' :: (s ++ rest) :=
      hblank.trans (List.suffix_append (' ' :: s) rest).isInfix
    obtain ⟨k, hk⟩ := exists_findSub_of_infix hT
    have hk2 := (prefix_drop_of_findSub hk).length_le
    have hdoc : lead ++ resultsHeading ++ tail ++ statusMarker ++ ' ' :: (s ++ rest) ++ after =
        (lead ++ resultsHeading) ++ ((tail ++ statusMarker) ++ (' ' :: (s ++ rest) ++ after)) := by
      simp
    have hq : findSub resultsHeading (lead ++ resultsHeading ++ tail ++ statusMarker ++
        ' ' :: (s ++ rest) ++ after) = some lead.length := by
      rw [hdoc, findSub_append_right _ hfirst]
    have hk' : findSub blankLine ((lead ++ resultsHeading ++ tail ++ statusMarker ++
        ' ' :: (s ++ rest) ++ after).drop lead.length) =
        some (10 + ((tail ++ statusMarker).length + k)) := by
      rw [hdoc, List.append_assoc, List.drop_left, findSub_append (by decide) (by decide),
        findSub_append_of_not_mem (not_infix_append_of_not_mem htail (by decide)
          (head_not_mem (rfl : statusMarker.head? = some '*') (by decide)))
          (head_not_mem (rfl : (' ' :: (s ++ rest) ++ after).head? = some ' ') (by decide)),
        findSub_append_right _ hk]
      rfl
    have htake := take_blankLine (prefix_drop_of_findSub hk)
    refine ⟨k + 2, ?_, ?_, addConclusion_within hq hk' ?_ ?_ c⟩
    · rw [htake]
      exact List.mem_append_right _ (by decide)
    · rw [htake, dropWhile_append_of_head (rfl : blankLine.head? = some '\n')]
      exact .above lead tail rfl hfirst htail (List.suffix_append _ _).isInfix
    · simp
      omega
    · simp at hk2 ⊢
      omega

end Inserts

/-- A document whose status line comes before the place where conclusions go: the text
`before` the first `**Status:**`, the `line` from there on, which holds the line's end and
that place, and everything `after`, where the entries and the conclusions lie. -/
structure StatusFirst where
  before : List Char
  line : List Char
  after : List Char
  first_marker : findSub statusMarker (before ++ statusMarker) = some before.length
  newline : '\n' ∈ line
  inserts : Inserts before (line.dropWhile (· != '\n'))

namespace StatusFirst

def text (L : StatusFirst) : String := ⟨L.before ++ statusMarker ++ L.line ++ L.after⟩

def log (L : StatusFirst) (entry : String) : StatusFirst := { L with after := L.after ++ entry.data }

theorem text_append (L : StatusFirst) (entry : String) : L.text ++ entry = (L.log entry).text := by
  simp [text, log, String.ext_iff]

/-- `update_status` keeps the layout and adds to `after` at its front only: the conclusion,
and what of the status text stands past the place where it goes. -/
theorem edit (L : StatusFirst) {s : String} (hs : ¬ resultsHeading <:+: s.data)
    (c : Option String) :
    ∃ L' : StatusFirst, editDocument L.text s c = L'.text ∧
      ∃ pre, L'.after = pre ++ L.after ∧ ∀ x ∈ c, x.data <:+: pre := by
  have hhead := head?_dropWhile_of_mem L.newline
  rw [editDocument, text, updateStatusLine_text L.first_marker L.newline]
  cases c with
  | none =>
    have hpre : ¬ resultsHeading <:+: (' ' :: s.data).dropWhile (· != '\n') :=
      fun h => not_results_cons_space hs (h.trans (List.dropWhile_suffix _).isInfix)
    refine ⟨⟨L.before, ' ' :: (s.data ++ L.line.dropWhile (· != '\n')), L.after, L.first_marker,
      List.mem_cons_of_mem _ (List.mem_append_right _ (List.mem_of_mem_head? hhead)), ?_⟩,
      rfl, [], rfl, fun _ hx => by cases hx⟩
    rw [← List.cons_append, dropWhile_append_of_head hhead]
    exact L.inserts.prepend hhead hpre
  | some c =>
    obtain ⟨j, hj, hins, heq⟩ := L.inserts.addConclusion_split hhead hs L.after c
    refine ⟨⟨L.before, _, _, L.first_marker, hj, hins⟩, heq, _, rfl, fun x hx => ?_⟩
    cases Option.mem_some_iff.mp hx
    exact ((List.prefix_append _ _).trans (List.prefix_append _ _)).isInfix

end StatusFirst

end StatusFirst

/-! ## A `## Results` above the status line -/

section ResultsFirst

/-- The conclusions as `update_status` stacks them, each followed by a blank line. -/
def conclusionText (conclusions : List String) : List Char :=
  (conclusions.map fun c => c.data ++ blankLine).flatten

@[simp] theorem conclusionText_nil : conclusionText [] = [] := rfl

@[simp] theorem conclusionText_cons (c : String) (cs : List String) :
    conclusionText (c :: cs) = c.data ++ blankLine ++ conclusionText cs := by
  simp [conclusionText]

theorem infix_conclusionText {cs : List String} {c : String} (h : c ∈ cs) :
    c.data <:+: conclusionText cs :=
  (List.prefix_append _ _).isInfix.trans (List.infix_of_mem_flatten (List.mem_map_of_mem _ h))

theorem not_marker_conclusionText {cs : List String}
    (h : ∀ c ∈ cs, ¬ statusMarker <:+: c.data) : ¬ statusMarker <:+: conclusionText cs := by
  induction cs with
  | nil => exact fun h => absurd (List.infix_nil.mp h) (by decide)
  | cons c cs ih =>
    rw [conclusionText_cons, List.append_assoc]
    exact not_infix_append_of_not_mem (h c (List.mem_cons_self c cs))
      (not_infix_append (by decide) (ih fun x hx => h x (List.mem_cons_of_mem c hx)) (by decide))
      (head_not_mem (head?_append_of_head? rfl) (by decide))

/-- A text that ends a line still does so after the conclusions. -/
theorem getLast?_append_conclusionText {l : List Char} (hl : l.getLast? = some '\n')
    (cs : List String) : (l ++ conclusionText cs).getLast? = some '\n' := by
  induction cs generalizing l with
  | nil => simpa using hl
  | cons c cs ih =>
    rw [conclusionText_cons, ← List.append_assoc, ← List.append_assoc]
    exact ih (getLast?_append_eq rfl)

/-- A document where a `## Results` with a blank line after it stands above the first
`**Status:**`: the `title` text up to that heading, the `gap` to the blank line, the
conclusions stacked there, the rest of the text `before` the marker, the status `line`, and
everything `after`, where the entries lie. -/
structure ResultsFirst where
  title : List Char
  gap : List Char
  conclusions : List String
  before : List Char
  line : List Char
  after : List Char
  first_results : findSub resultsHeading (title ++ resultsHeading) = some title.length
  first_blank : findSub blankLine (resultsHeading ++ gap ++ blankLine) =
    some (resultsHeading ++ gap).length
  head_plain : ¬ statusMarker <:+: title ++ resultsHeading ++ gap ++ blankLine
  conclusions_plain : ∀ c ∈ conclusions, ¬ statusMarker <:+: c.data
  first_marker : findSub statusMarker (before ++ statusMarker) = some before.length
  newline : '\n' ∈ line

namespace ResultsFirst

def head (L : ResultsFirst) : List Char := L.title ++ resultsHeading ++ L.gap ++ blankLine

def text (L : ResultsFirst) : String :=
  ⟨L.head ++ conclusionText L.conclusions ++ L.before ++ statusMarker ++ L.line ++ L.after⟩

def log (L : ResultsFirst) (entry : String) : ResultsFirst := { L with after := L.after ++ entry.data }

theorem text_append (L : ResultsFirst) (entry : String) : L.text ++ entry = (L.log entry).text := by
  simp [text, log, head, String.ext_iff]

/-- The status edit and the conclusion's place: the status replaces the rest of the status
line, and the conclusion goes on top of the stack. -/
def update (L : ResultsFirst) (s : String) (c : Option String)
    (hc : ∀ x ∈ c, ¬ statusMarker <:+: x.data) : ResultsFirst :=
  { L with
    conclusions := c.toList ++ L.conclusions
    line := ' ' :: (s.data ++ L.line.dropWhile (· != '\n'))
    conclusions_plain := fun x hx => (List.mem_append.mp hx).elim
      (fun h => hc x (Option.mem_toList.mp h)) (L.conclusions_plain x)
    newline := List.mem_cons_of_mem _ (List.mem_append_right _
      (List.mem_of_mem_head? (head?_dropWhile_of_mem L.newline))) }

theorem first_marker_text (L : ResultsFirst) :
    findSub statusMarker (L.head ++ conclusionText L.conclusions ++ L.before ++ statusMarker) =
      some (L.head ++ conclusionText L.conclusions ++ L.before).length := by
  have hhead : L.head.getLast? = some '\n' := getLast?_append_eq (rfl : blankLine.getLast? = _)
  rw [List.append_assoc _ L.before, findSub_append (a := L.head ++ conclusionText L.conclusions)
    (not_infix_append L.head_plain (not_marker_conclusionText L.conclusions_plain)
      (getLast_not_mem hhead (by decide)))
    (getLast_not_mem (getLast?_append_conclusionText hhead _) (by decide)), L.first_marker]
  simp [Nat.add_assoc]

/-- The conclusion goes right below the head, whatever follows it. -/
theorem addConclusion_head (L : ResultsFirst) (rest : List Char) (c : String) :
    addConclusion ⟨L.head ++ rest⟩ (some c) = ⟨L.head ++ (c.data ++ blankLine ++ rest)⟩ := by
  have hq : findSub resultsHeading (L.head ++ rest) = some L.title.length := by
    simpa [head] using findSub_append_right (L.gap ++ blankLine ++ rest) L.first_results
  have hk : findSub blankLine ((L.head ++ rest).drop L.title.length) =
      some (resultsHeading ++ L.gap).length := by
    simpa [head] using findSub_append_right rest L.first_blank
  have hlen : L.title.length + (resultsHeading ++ L.gap).length + 2 = L.head.length := by
    simp [head]
    omega
  rw [addConclusion_at hq hk, hlen, List.take_left, List.drop_left]

theorem edit (L : ResultsFirst) (s : String) (c : Option String)
    (hc : ∀ x ∈ c, ¬ statusMarker <:+: x.data) :
    editDocument L.text s c = (L.update s c hc).text := by
  rw [editDocument, text, updateStatusLine_text L.first_marker_text L.newline]
  cases c with
  | none => rfl
  | some c =>
    rw [show L.head ++ conclusionText L.conclusions ++ L.before ++ statusMarker ++
        ' ' :: (s.data ++ L.line.dropWhile (· != '\n')) ++ L.after = L.head ++ (conclusionText
          L.conclusions ++ L.before ++ statusMarker ++ ' ' :: (s.data ++ L.line.dropWhile
            (· != '\n')) ++ L.after) by simp, addConclusion_head]
    simp [text, update, head]

end ResultsFirst

end ResultsFirst


/-! ## Every call keeps the document in a layout -/

section Shaped

/-- The document is in one of the two layouts and holds each conclusion and entry of the
record where its layout keeps them; the second layout only under `plain`, which keeps the
conclusions free of `**Status:**`. -/
def Shaped (plain : Prop) (doc : String) (r : Record) : Prop :=
  (∃ L : StatusFirst, doc = L.text ∧ ∀ x ∈ r.conclusions ++ r.entries, x.data <:+: L.after) ∨
    plain ∧ ∃ L : ResultsFirst, doc = L.text ∧ L.conclusions = r.conclusions ∧
      ∀ x ∈ r.entries, x.data <:+: L.after

variable {plain : Prop} {doc : String} {r : Record}

theorem Shaped.append (h : Shaped plain doc r) (entry : String) :
    Shaped plain (doc ++ entry) (r.log entry) := by
  have hgrow : ∀ {l : List Char} {x : String}, x ∈ r.entries ++ [entry] →
      (∀ y ∈ r.entries, y.data <:+: l) → x.data <:+: l ++ entry.data := fun hx hl => by
    rcases List.mem_append.mp hx with hx | hx
    · exact (hl _ hx).trans (List.prefix_append _ _).isInfix
    · cases List.mem_singleton.mp hx
      exact (List.suffix_append _ _).isInfix
  rcases h with ⟨L, rfl, hL⟩ | ⟨hp, L, rfl, hc, hL⟩
  · refine .inl ⟨L.log entry, L.text_append entry, fun x hx => ?_⟩
    rcases List.mem_append.mp hx with hx | hx
    · exact (hL x (List.mem_append_left _ hx)).trans (List.prefix_append _ _).isInfix
    · exact hgrow hx fun y hy => hL y (List.mem_append_right _ hy)
  · exact .inr ⟨hp, L.log entry, L.text_append entry, hc, fun x hx => hgrow hx hL⟩

/-- `update_status` keeps the layout, given a status without `## Results` and, where
conclusions go above the status line, a conclusion without `**Status:**`. -/
theorem Shaped.edit (h : Shaped plain doc r) {s : String} (hs : ¬ resultsHeading <:+: s.data)
    (c : Option String) (hc : plain → ∀ x ∈ c, ¬ statusMarker <:+: x.data) :
    Shaped plain (editDocument doc s c) (r.update s c) := by
  rcases h with ⟨L, rfl, hL⟩ | ⟨hp, L, rfl, hcL, hL⟩
  · obtain ⟨L', heq, pre, hafter, hpre⟩ := L.edit hs c
    refine .inl ⟨L', heq, fun x hx => ?_⟩
    rw [hafter]
    simp only [Record.update, List.append_assoc, List.mem_append] at hx
    rcases hx with hx | hx
    · exact (hpre x (Option.mem_toList.mp hx)).trans (List.prefix_append _ _).isInfix
    · exact (hL x (List.mem_append.mpr hx)).trans (List.suffix_append _ _).isInfix
  · exact .inr ⟨hp, L.update s c (hc hp), L.edit s c (hc hp),
      by simp [ResultsFirst.update, Record.update, hcL], hL⟩

theorem Shaped.infix (h : Shaped plain doc r) :
    ∀ x ∈ r.conclusions ++ r.entries, x.data <:+: doc.data := by
  rcases h with ⟨L, rfl, hL⟩ | ⟨-, L, rfl, hc, hL⟩
  · exact fun x hx => (hL x hx).trans (List.suffix_append _ _).isInfix
  · intro x hx
    rcases List.mem_append.mp hx with hx | hx
    · have htext : L.text.data = L.head ++ conclusionText L.conclusions ++
          (L.before ++ statusMarker ++ L.line ++ L.after) := by
        simp [ResultsFirst.text]
      rw [htext]
      exact (infix_conclusionText (hc ▸ hx)).trans (List.infix_append _ _ _)
    · exact (hL x hx).trans (List.suffix_append _ _).isInfix

theorem experimentDocument_data (title experimentId created tags hypothesis protocol : String) :
    (experimentDocument title experimentId created tags hypothesis protocol).data =
      (documentTop title experimentId).data ++ statusMarker ++
        ' ' :: ("planning".data ++ '\n' :: ((documentMiddle created tags hypothesis protocol).data ++
          resultsHeading ++ blankLine)) ++ "_Experiment not yet completed._\n".data := by
  rw [experimentDocument_eq]
  simp [render, String.join]
  rfl

/-- What `create_experiment` writes is in a layout: the second one only when a `## Results`
with a blank line after it stands above the first `**Status:**`, which lies in the title
and ID lines. -/
theorem shaped_experimentDocument (title experimentId created tags hypothesis protocol : String)
    (hplain : resultsHeading <:+: (documentTop title experimentId).data → plain) :
    Shaped plain (experimentDocument title experimentId created tags hypothesis protocol)
      ⟨"planning", [], []⟩ := by
  set top := (documentTop title experimentId).data
  set y := ' ' :: ("planning".data ++ '\n' :: ((documentMiddle created tags hypothesis
    protocol).data ++ resultsHeading ++ blankLine))
  set after := "_Experiment not yet completed._\n".data
  -- the first `**Status:**` ends the text `before`, a prefix of the title and ID lines
  obtain ⟨before, u, htop, hbefore_top, hfirst⟩ := exists_first_prefix (p := statusMarker) top
  have hdoc : (experimentDocument title experimentId created tags hypothesis protocol).data =
      before ++ statusMarker ++ (u ++ y) ++ after := by
    rw [experimentDocument_data, htop]
    simp only [List.append_assoc, y]
  have hline : '\n' ∈ u ++ y := by simp [y]
  have hrest : (u ++ y).dropWhile (· != '\n') =
      (u ++ ' ' :: "planning".data).dropWhile (· != '\n') ++ '\n' ::
        ((documentMiddle created tags hypothesis protocol).data ++ resultsHeading ++ blankLine) := by
    rw [show u ++ y = (u ++ ' ' :: "planning".data) ++ '\n' ::
      ((documentMiddle created tags hypothesis protocol).data ++ resultsHeading ++ blankLine) by
        simp [y], dropWhile_append_of_head List.head?_cons]
  have hblank : blankLine <:+: (u ++ y).dropWhile (· != '\n') := by
    rw [hrest]
    exact ((List.suffix_append _ _).trans ((List.suffix_cons _ _).trans
      (List.suffix_append _ _))).isInfix
  by_cases hra : resultsHeading <:+: before
  · obtain ⟨i, hi⟩ := exists_findSub_of_infix hra
    obtain ⟨lead, tail, hbefore, -, hlead⟩ := findSub_split hi
    by_cases hnn : blankLine <:+: tail
    · -- a blank line follows the heading above the status line
      obtain ⟨k, hk⟩ := exists_findSub_of_infix hnn
      obtain ⟨gap, rest, htail, -, hgap⟩ := findSub_split hk
      have hsplit : before = (lead ++ resultsHeading ++ gap ++ blankLine) ++ rest := by
        rw [hbefore, htail]
        simp
      refine .inr ⟨hplain (hra.trans hbefore_top.isInfix), ⟨lead, gap, [], rest, u ++ y, after, hlead,
        ?_, ?_, by simp, ?_, hline⟩, ?_, rfl, by simp⟩
      · rw [List.append_assoc, findSub_append (by decide) (by decide), hgap]
        simp
      · exact fun h => not_infix_of_first (by decide) hfirst
          (h.trans (hsplit ▸ List.prefix_append _ _).isInfix)
      · exact findSub_of_first_suffix (hsplit ▸ hfirst)
      · rw [String.ext_iff, hdoc]
        simp only [ResultsFirst.text, ResultsFirst.head]
        rw [hsplit]
        simp
    · exact .inl ⟨⟨before, u ++ y, after, hfirst, hline, .above lead tail hbefore hlead hnn hblank⟩,
        String.ext (hdoc.trans rfl), by simp⟩
  · -- the first `## Results` lies below the status line
    have hra' : resultsHeading <:+: (u ++ y).dropWhile (· != '\n') := by
      rw [hrest]
      exact (List.infix_append _ _ _).trans
        ((List.suffix_cons _ _).trans (List.suffix_append _ _)).isInfix
    obtain ⟨j, hj⟩ := exists_findSub_of_infix hra'
    obtain ⟨lead, tail, hsplit, hlen, hlead⟩ := findSub_split hj
    have htail : blankLine <:+ tail := suffix_of_first (y := blankLine)
      (x := (u ++ ' ' :: "planning".data).dropWhile (· != '\n') ++ '\n' ::
        (documentMiddle created tags hypothesis protocol).data) hsplit (hlen ▸ hj)
      (by rw [hrest]; simp only [List.append_assoc, List.cons_append])
    exact .inl ⟨⟨before, u ++ y, after, hfirst, hline, .below lead tail hra hsplit hlead
      htail.isInfix⟩, String.ext (hdoc.trans rfl), by simp⟩

end Shaped

end Ironclaw.Tracker
