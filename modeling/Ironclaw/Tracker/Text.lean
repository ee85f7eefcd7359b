import Mathlib.Data.List.Infix

/-!
# Searching and splicing text

The tracker edits its documents with `str::find`, `String::replace_range` and
`String::insert_str`. The model works on the characters of a string: `find`
returns a character offset where Rust returns a byte offset, and the two agree
because every offset the tracker uses comes from a `find` and so lies on a
character boundary. `findSub` is specified as the least offset at which the
pattern is a prefix of the rest of the text; the lemmas below say where it
lands in a concatenation, which is all the tracker's edits need.
-/

namespace Ironclaw.Tracker

/-- The first offset at which `pat` starts in a text. -/
def findSub (pat : List Char) : List Char → Option Nat
  | [] => if pat.isPrefixOf [] then some 0 else none
  | c :: cs => if pat.isPrefixOf (c :: cs) then some 0 else (findSub pat cs).map (· + 1)

/-- `content.find(pat)`. -/
def find (content pat : String) : Option Nat := findSub pat.data content.data

/-- `&content[start..]`. -/
def sliceFrom (content : String) (start : Nat) : String := ⟨content.data.drop start⟩

/-- `content.replace_range(start..stop, text)`. -/
def replaceRange (content : String) (start stop : Nat) (text : String) : String :=
  ⟨content.data.take start ++ text.data ++ content.data.drop stop⟩

/-- `content.insert_str(at, text)`. -/
def insertStr (content : String) (at_ : Nat) (text : String) : String :=
  ⟨content.data.take at_ ++ text.data ++ content.data.drop at_⟩

variable {p a b : List Char}

theorem findSub_of_prefix (h : p <+: b) : findSub p b = some 0 := by
  cases b <;> simp [findSub, h]

theorem findSub_eq_none_iff : findSub p b = none ↔ ¬ p <:+: b := by
  induction b with
  | nil => cases p <;> simp [findSub]
  | cons c cs ih =>
    by_cases h : p <+: c :: cs
    · simp [findSub, h, h.isInfix]
    · simp [findSub, h, ih, List.infix_cons_iff]

/-- `findSub` returns the least offset at which the pattern starts. -/
theorem findSub_eq_some_iff {k : Nat} :
    findSub p b = some k ↔ p <+: b.drop k ∧ ∀ j < k, ¬ p <+: b.drop j := by
  induction b generalizing k with
  | nil =>
    cases k
    · simp [findSub]
    · simp [findSub]
      exact fun h => ⟨⟨0, Nat.zero_lt_succ _⟩, h⟩
  | cons c cs ih =>
    by_cases h : p <+: c :: cs
    · cases k
      · simp [findSub, h]
      · simp [findSub, h]
        exact fun _ => ⟨0, Nat.zero_lt_succ _, h⟩
    · cases k with
      | zero => simp [findSub, h]
      | succ k => simp [findSub, h, ih, Nat.forall_lt_succ_left]

theorem prefix_drop_of_findSub {k : Nat} (h : findSub p b = some k) : p <+: b.drop k :=
  (findSub_eq_some_iff.mp h).1

theorem findSub_le_length {k : Nat} (h : findSub p b = some k) : k ≤ b.length := by
  induction b generalizing k with
  | nil =>
    simp only [findSub] at h
    split at h <;> simp_all
  | cons c cs ih =>
    rw [findSub] at h
    split at h
    · cases h
      exact Nat.zero_le _
    · obtain ⟨k', hk', rfl⟩ := Option.map_eq_some'.mp h
      simpa using ih hk'

/-- A match found in a text is found at the same offset in any longer text. -/
theorem findSub_append_right {k : Nat} (r : List Char) (h : findSub p b = some k) :
    findSub p (b ++ r) = some k := by
  obtain ⟨hk, hmin⟩ := findSub_eq_some_iff.mp h
  have hkb := findSub_le_length h
  have hlen : p.length ≤ b.length - k := by simpa using hk.length_le
  refine findSub_eq_some_iff.mpr ⟨?_, fun j hj hp => hmin j hj ?_⟩
  · rw [List.drop_append_of_le_length hkb]
    exact hk.trans (List.prefix_append _ _)
  · rw [List.drop_append_of_le_length (by omega)] at hp
    exact List.prefix_of_prefix_length_le hp (List.prefix_append _ _) (by simp; omega)

theorem exists_findSub_of_infix (h : p <:+: b) : ∃ k, findSub p b = some k :=
  Option.ne_none_iff_exists'.mp (mt findSub_eq_none_iff.mp (not_not.mpr h))

theorem exists_findSub_le {i : Nat} (h : p <+: b.drop i) : ∃ k ≤ i, findSub p b = some k := by
  cases hf : findSub p b with
  | none =>
    exact absurd (h.isInfix.trans (List.drop_suffix i b).isInfix) (findSub_eq_none_iff.mp hf)
  | some k => exact ⟨k, Nat.not_lt.mp fun hik => (findSub_eq_some_iff.mp hf).2 i hik h, rfl⟩

/-- The first match splits a text into what stands before it, the pattern, and the rest. -/
theorem findSub_split {k : Nat} (h : findSub p b = some k) :
    ∃ a c, b = a ++ p ++ c ∧ a.length = k ∧ findSub p (a ++ p) = some a.length := by
  obtain ⟨c, hc⟩ := prefix_drop_of_findSub h
  have hb : b = b.take k ++ p ++ c := by rw [List.append_assoc, hc, List.take_append_drop]
  have hlen : (b.take k).length = k := List.length_take_of_le (findSub_le_length h)
  obtain ⟨j, hj, hf⟩ := exists_findSub_le (b := b.take k ++ p) (i := k)
    (by rw [List.drop_left' hlen])
  have hjk : j = k := by
    have := findSub_append_right c hf
    rw [← hb, h] at this
    exact (Option.some.inj this).symm
  exact ⟨b.take k, c, hb, hlen, by rw [hf, hjk, hlen]⟩

/-- The first match in `b ++ p` lies in `b` or right after it: it splits off a prefix of `b`. -/
theorem exists_first_prefix (b : List Char) :
    ∃ a c, b ++ p = a ++ p ++ c ∧ a <+: b ∧ findSub p (a ++ p) = some a.length := by
  obtain ⟨m, hmb, hm⟩ := exists_findSub_le (p := p) (b := b ++ p) (i := b.length) (by simp)
  obtain ⟨a, c, hb, hlen, hfirst⟩ := findSub_split hm
  refine ⟨a, c, hb, List.prefix_of_prefix_length_le ?_ (List.prefix_append b p) (by omega), hfirst⟩
  rw [hb, List.append_assoc]
  exact List.prefix_append _ _

/-- A pattern first found at the end of `x ++ a` is first found at the end of `a`. -/
theorem findSub_of_first_suffix {x : List Char}
    (h : findSub p (x ++ a ++ p) = some (x ++ a).length) :
    findSub p (a ++ p) = some a.length := by
  obtain ⟨j, hj, hf⟩ := exists_findSub_le (p := p) (b := a ++ p) (i := a.length) (by simp)
  have hpre : p <+: (x ++ a ++ p).drop (x.length + j) := by
    rw [List.append_assoc, List.drop_append_eq_append_drop, List.drop_eq_nil_of_le (by omega),
      List.nil_append, Nat.add_sub_cancel_left]
    exact prefix_drop_of_findSub hf
  have : ¬ x.length + j < (x ++ a).length := fun hlt => (findSub_eq_some_iff.mp h).2 _ hlt hpre
  rw [hf]
  simp only [List.length_append] at this
  congr 1
  omega

/-- Another occurrence of the pattern lies past the first: what follows it is a suffix of
what follows the first. -/
theorem suffix_of_first {l c x y : List Char} (hl : l = a ++ p ++ c)
    (hfirst : findSub p l = some a.length) (hxy : l = x ++ p ++ y) : y <:+ c := by
  obtain ⟨j, hj, hf⟩ := exists_findSub_le (p := p) (b := l) (i := x.length) (by rw [hxy]; simp)
  have hja : j = a.length := Option.some.inj (hf.symm.trans hfirst)
  have hc : c = l.drop (a.length + p.length) := by rw [hl]; simp
  have hy : y = l.drop (x.length + p.length) := by rw [hxy]; simp
  rw [hc, hy, show x.length + p.length = a.length + p.length + (x.length - a.length) by omega,
    ← List.drop_drop]
  exact List.drop_suffix _ _

theorem not_infix_of_first (hp : p ≠ []) (h : findSub p (a ++ p) = some a.length) :
    ¬ p <:+: a := fun hi => by
  obtain ⟨k, hk⟩ := exists_findSub_of_infix hi
  have heq := (findSub_append_right p hk).symm.trans h
  cases heq
  have := prefix_drop_of_findSub hk
  rw [List.drop_length, List.prefix_nil] at this
  exact hp this

/-- Past a text in which the pattern does not occur, and which ends with a character
the pattern does not contain, the search goes on in what follows. -/
theorem findSub_append (ha : ¬ p <:+: a) (hlast : ∀ c ∈ a.getLast?, c ∉ p) :
    findSub p (a ++ b) = (findSub p b).map (a.length + ·) := by
  induction a with
  | nil => simp
  | cons x a ih =>
    have hx : ¬ p <+: x :: (a ++ b) := fun h => by
      rcases List.prefix_or_prefix_of_prefix h (List.prefix_append (x :: a) b) with h' | h'
      · exact ha h'.isInfix
      · exact hlast _ (List.getLast?_eq_getLast (x :: a) (List.cons_ne_nil x a))
          (h'.subset (List.getLast_mem _))
    have ha' : ¬ p <:+: a := fun h => ha (h.trans (List.suffix_cons x a).isInfix)
    have hlast' : ∀ c ∈ a.getLast?, c ∉ p := by
      cases a with
      | nil => simp
      | cons y a => simpa [List.getLast?_cons_cons] using hlast
    rw [List.cons_append, findSub, if_neg (by simpa using hx), ih ha' hlast', Option.map_map]
    congr 1
    funext n
    simp only [Function.comp, List.length_cons]
    omega

theorem findSub_append_prefix (ha : ¬ p <:+: a) (hlast : ∀ c ∈ a.getLast?, c ∉ p)
    (h : p <+: b) : findSub p (a ++ b) = some a.length := by
  rw [findSub_append ha hlast, findSub_of_prefix h]
  rfl

/-- A character is found at its first occurrence. -/
theorem findSub_singleton_append {c : Char} (h : c ∉ a) :
    findSub [c] (a ++ c :: b) = some a.length :=
  findSub_append_prefix (fun hi => h (hi.subset (List.mem_singleton_self c)))
    (fun x hx hxc => h (List.mem_singleton.mp hxc ▸ List.mem_of_getLast?_eq_some hx)) (by simp)

/-- A pattern whose first character does not recur in it cannot start inside a text
and run on into a later occurrence, so the search stops at that occurrence once the
text before it holds none. -/
theorem findSub_append_of_head {x : Char} {rest : List Char} (hx : x ∉ rest)
    (ha : ¬ x :: rest <:+: a) (hb : x :: rest <+: b) :
    findSub (x :: rest) (a ++ b) = some a.length := by
  induction a with
  | nil => exact findSub_of_prefix hb
  | cons y a ih =>
    have hy : ¬ x :: rest <+: y :: (a ++ b) := fun h => by
      rcases List.prefix_or_prefix_of_prefix h (List.prefix_append (y :: a) b) with h' | ⟨s, hs⟩
      · exact ha h'.isInfix
      · simp only [List.cons_append, List.cons.injEq] at hs
        obtain ⟨rfl, rfl⟩ := hs
        rw [List.cons_prefix_cons, List.prefix_append_right_inj] at h
        cases s with
        | nil => exact ha (by simp)
        | cons z s =>
          obtain ⟨t, rfl⟩ := hb
          have hz : z = y := (List.cons_prefix_cons.mp h.2).1
          exact hx (by simp [hz])
    have ha' : ¬ x :: rest <:+: a := fun h => ha (h.trans (List.suffix_cons y a).isInfix)
    rw [List.cons_append, findSub, if_neg (by simpa using hy), ih ha']
    rfl

/-- Past a text in which the pattern does not occur, when what follows starts with a
character the pattern does not contain, the search goes on in what follows. -/
theorem findSub_append_of_not_mem (ha : ¬ p <:+: a) (hb : ∀ c ∈ b.head?, c ∉ p) :
    findSub p (a ++ b) = (findSub p b).map (a.length + ·) := by
  induction a with
  | nil => simp
  | cons x a ih =>
    have hx : ¬ p <+: x :: (a ++ b) := fun h => by
      rcases List.prefix_or_prefix_of_prefix h (List.prefix_append (x :: a) b) with h' | ⟨t, rfl⟩
      · exact ha h'.isInfix
      · rw [List.cons_append, List.cons_prefix_cons, List.prefix_append_right_inj] at h
        cases t with
        | nil => exact ha (by simp)
        | cons y t =>
          obtain ⟨u, rfl⟩ := h.2
          exact hb y (by simp) (by simp)
    have ha' : ¬ p <:+: a := fun h => ha (h.trans (List.suffix_cons x a).isInfix)
    rw [List.cons_append, findSub, if_neg (by simpa using hx), ih ha', Option.map_map]
    congr 1
    funext n
    simp only [Function.comp, List.length_cons]
    omega

theorem not_infix_append_of_not_mem (ha : ¬ p <:+: a) (hb : ¬ p <:+: b)
    (hhead : ∀ c ∈ b.head?, c ∉ p) : ¬ p <:+: a ++ b := by
  rw [← findSub_eq_none_iff, findSub_append_of_not_mem ha hhead, findSub_eq_none_iff.mpr hb]
  rfl

/-- Up to the first `c` of a text that goes on with `t`, where `t` starts with `c`. -/
theorem dropWhile_append_of_head {l t : List Char} {c : Char} (ht : t.head? = some c) :
    (l ++ t).dropWhile (· != c) = l.dropWhile (· != c) ++ t := by
  induction l with
  | nil =>
    obtain ⟨u, rfl⟩ : ∃ u, t = c :: u := by
      cases t with
      | nil => cases ht
      | cons d u =>
        simp only [List.head?_cons, Option.some.injEq] at ht
        exact ⟨u, by rw [ht]⟩
    simp
  | cons x l ih =>
    by_cases hx : x = c
    · subst hx
      simp
    · simp [List.dropWhile_cons, hx, ih]

theorem head?_dropWhile_of_mem {l : List Char} {c : Char} (h : c ∈ l) :
    (l.dropWhile (· != c)).head? = some c := by
  induction l with
  | nil => cases h
  | cons x l ih =>
    by_cases hx : x = c
    · simp [hx]
    · simp only [List.dropWhile_cons, bne_iff_ne, ne_eq, hx, not_false_eq_true, decide_True,
        ↓reduceIte]
      exact ih ((List.mem_cons.mp h).resolve_left (Ne.symm hx))

theorem not_infix_append (ha : ¬ p <:+: a) (hb : ¬ p <:+: b)
    (hlast : ∀ c ∈ a.getLast?, c ∉ p) : ¬ p <:+: a ++ b := by
  rw [← findSub_eq_none_iff, findSub_append ha hlast, findSub_eq_none_iff.mpr hb]
  rfl

end Ironclaw.Tracker
