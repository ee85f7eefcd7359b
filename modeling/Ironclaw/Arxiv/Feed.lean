import Mathlib.Data.List.DropRight
import Ironclaw.Json
import Ironclaw.Arxiv

/-!
# Reading the arXiv feed

`parse_arxiv_atom` splits the Atom text at every `<entry>` and drops what stands before
the first one. From each entry it reads the first `title`, `summary`, `id` and `published`
element with `extract_xml_tag`, the `name` of every `<author>` and the `term` of every
category, and drops an entry whose title comes out empty.

Two results: a feed written from plain articles reads back as those articles, and whatever
the text, every result is an article with a title, whose title and summary are single
trimmed lines and whose summary has at most 503 bytes.
-/

namespace Ironclaw.Arxiv

open Tracker

/-! ## `str::split`, `str::trim` and `str::replace` -/

/-- The scan of `str::split`: the characters of a match still to pass, the current piece
(reversed), and the text left. Matches are taken left to right without overlap. -/
def splitAux (pat : List Char) : Nat → List Char → List Char → List (List Char)
  | _, piece, [] => [piece.reverse]
  | skip + 1, piece, _ :: cs => splitAux pat skip piece cs
  | 0, piece, c :: cs =>
    if pat.isPrefixOf (c :: cs) then piece.reverse :: splitAux pat (pat.length - 1) [] cs
    else splitAux pat 0 (c :: piece) cs

/-- `text.split(pat)`, for a pattern that is not empty. -/
def splitOn (text pat : String) : List String := (splitAux pat.data 0 [] text.data).map String.mk

/-- `char::is_whitespace`: the characters of Unicode's `White_Space` property. -/
def isWhitespace (c : Char) : Bool :=
  c.val = 0x20 || (0x09 ≤ c.val && c.val ≤ 0x0D) || c.val = 0x85 || c.val = 0xA0 ||
    c.val = 0x1680 || (0x2000 ≤ c.val && c.val ≤ 0x200A) || c.val = 0x2028 || c.val = 0x2029 ||
    c.val = 0x202F || c.val = 0x205F || c.val = 0x3000

/-- `s.trim()`. -/
def trim (s : String) : String :=
  ⟨((s.data.dropWhile isWhitespace).reverse.dropWhile isWhitespace).reverse⟩

/-- `s.replace(c, to)` for a character pattern. -/
def replaceChar (s : String) (c : Char) (replacement : String) : String :=
  ⟨s.data.flatMap fun d => if d = c then replacement.data else [d]⟩

example : splitOn "a<e>b<e><e>c" "<e>" = ["a", "b", "", "c"] := by decide
example : trim " \n x y\t" = "x y" := by decide

theorem trim_data (s : String) :
    (trim s).data = (s.data.dropWhile isWhitespace).rdropWhile isWhitespace := rfl

theorem trim_data_sublist (s : String) : List.Sublist (trim s).data s.data :=
  (List.rdropWhile_prefix _ _).sublist.trans (List.dropWhile_sublist _)

theorem head?_trim (s : String) : ∀ c ∈ (trim s).data.head?, isWhitespace c = false := by
  intro c hc
  obtain ⟨t, ht⟩ := List.rdropWhile_prefix isWhitespace (s.data.dropWhile isWhitespace)
  have h := List.head?_dropWhile_not isWhitespace s.data
  rw [← ht, List.head?_append, ← trim_data, Option.mem_def.mp hc] at h
  exact h

theorem getLast?_trim (s : String) : ∀ c ∈ (trim s).data.getLast?, isWhitespace c = false := by
  intro c hc
  have h := List.head?_dropWhile_not isWhitespace (s.data.dropWhile isWhitespace).reverse
  rw [trim_data, List.rdropWhile, List.getLast?_reverse] at hc
  rw [Option.mem_def.mp hc] at h
  exact h

theorem dropWhile_eq_self {p : Char → Bool} {l : List Char} (h : ∀ c ∈ l.head?, p c = false) :
    l.dropWhile p = l := by
  cases l with
  | nil => rfl
  | cons c l => simp [h c rfl]

/-- A text with no whitespace at either end is its own trim. -/
theorem trim_eq_self {s : String} (hh : ∀ c ∈ s.data.head?, isWhitespace c = false)
    (hl : ∀ c ∈ s.data.getLast?, isWhitespace c = false) : trim s = s := by
  refine String.ext ?_
  rw [trim_data, dropWhile_eq_self hh, List.rdropWhile, dropWhile_eq_self (by simpa using hl),
    List.reverse_reverse]

theorem trim_trim (s : String) : trim (trim s) = trim s :=
  trim_eq_self (head?_trim s) (getLast?_trim s)

theorem not_mem_replaceChar {s r : String} {c : Char} (h : c ∉ r.data) :
    c ∉ (replaceChar s c r).data := by
  simp only [replaceChar, List.mem_flatMap, not_exists, not_and]
  intro d _
  split
  · exact h
  · exact fun hm => ‹¬d = c› (List.mem_singleton.mp hm).symm

/-! ## Pieces a pattern cannot start in -/

/-- No match of `pat` can start inside `l`, whatever follows `l`: at every position, `pat`
and the rest of `l` disagree before either ends. -/
def Safe (pat l : List Char) : Prop :=
  ∀ k < l.length, ¬ l.drop k <+: pat ∧ ¬ pat <+: l.drop k

instance (pat l : List Char) : Decidable (Safe pat l) :=
  inferInstanceAs (Decidable (∀ k < l.length, ¬ l.drop k <+: pat ∧ ¬ pat <+: l.drop k))

section Safe

variable {x : Char} {r pat a b : List Char}

theorem safe_nil : Safe pat [] := fun _ h => absurd h (Nat.not_lt_zero _)

/-- Text without the pattern's first character is safe. -/
theorem safe_of_not_mem (h : x ∉ a) : Safe (x :: r) a := by
  intro k hk
  obtain ⟨c, l, hl⟩ : ∃ c l, a.drop k = c :: l :=
    List.exists_cons_of_ne_nil (by simpa [List.drop_eq_nil_iff] using hk)
  have hc : c ≠ x := fun hcx => h (hcx ▸ List.mem_of_mem_drop (hl ▸ List.mem_cons_self c l))
  rw [hl, List.cons_prefix_cons, List.cons_prefix_cons]
  exact ⟨fun h' => hc h'.1, fun h' => hc h'.1.symm⟩

/-- Two lists that part ways keep doing so whatever follows the first. -/
theorem not_prefix_append_of_diverge {u v w : List Char} (h : ¬ u <+: v ∧ ¬ v <+: u) :
    ¬ u ++ w <+: v ∧ ¬ v <+: u ++ w :=
  ⟨fun h' => h.1 ((List.prefix_append u w).trans h'), fun h' =>
    (List.prefix_or_prefix_of_prefix h' (List.prefix_append u w)).elim h.2 h.1⟩

theorem Safe.append (ha : Safe pat a) (hb : Safe pat b) : Safe pat (a ++ b) := by
  intro k hk
  by_cases hka : k < a.length
  · rw [List.drop_append_of_le_length hka.le]
    exact not_prefix_append_of_diverge (ha k hka)
  · rw [List.drop_append_eq_append_drop, List.drop_eq_nil_of_le (by omega), List.nil_append]
    exact hb (k - a.length) (by simp at hk; omega)

/-- A match in a safe piece followed by more text lies in what follows. -/
theorem Safe.infix_append_iff (ha : Safe pat a) : pat <:+: a ++ b ↔ pat <:+: b := by
  refine ⟨fun ⟨s, t, h⟩ => ?_, fun h => h.trans (List.suffix_append a b).isInfix⟩
  rw [List.append_assoc, List.append_eq_append_iff] at h
  rcases h with ⟨a', rfl, h⟩ | ⟨c', rfl, rfl⟩
  · cases a' with
    | nil => exact (List.prefix_append pat t).isInfix.trans (by simpa using h ▸ List.infix_refl _)
    | cons y a' =>
      have hd := ha s.length (by simp)
      rw [List.drop_left] at hd
      exact ((List.prefix_or_prefix_of_prefix (h ▸ List.prefix_append pat t)
        (List.prefix_append _ b)).elim hd.2 hd.1).elim
  · exact ⟨c', t, by simp⟩

theorem Safe.not_isInfix (ha : Safe pat a) (hpat : pat ≠ []) : ¬ pat <:+: a := by
  simpa [hpat] using (ha.infix_append_iff (b := [])).not

theorem Safe.not_infix_append (ha : Safe pat a) (hb : ¬ pat <:+: b) : ¬ pat <:+: a ++ b :=
  ha.infix_append_iff.not.mpr hb

theorem Safe.flatten {ls : List (List Char)} (h : ∀ l ∈ ls, Safe pat l) :
    Safe pat ls.flatten := by
  induction ls with
  | nil => exact safe_nil
  | cons l ls ih =>
    exact (h l (List.mem_cons_self l ls)).append (ih fun k hk => h k (List.mem_cons_of_mem l hk))

/-- Text without the pattern, closed by a character the pattern lacks. -/
theorem safe_concat {z : Char} (hz : z ∉ pat) (ha : ¬ pat <:+: a) : Safe pat (a ++ [z]) := by
  intro k hk
  rw [List.drop_append_of_le_length (by simp at hk; omega)]
  refine ⟨fun h => hz (h.subset (by simp)), fun h => ?_⟩
  rcases List.prefix_concat_iff.mp h with rfl | h
  · exact hz (by simp)
  · exact ha (h.isInfix.trans (List.drop_suffix k a).isInfix)

/-- A pattern `w ++ [z]` with `z` only at its end, against text closed by `z`: text
without some `y` of `w` never lines up with it. -/
theorem safe_concat_of_not_mem {w : List Char} {y z : Char} (hz : z ∉ w) (hy : y ∈ w)
    (hya : y ∉ a) : Safe (w ++ [z]) (a ++ [z]) := by
  intro k hk
  rw [List.drop_append_of_le_length (by simp at hk; omega)]
  have hv : y ∉ a.drop k := fun h => hya (List.mem_of_mem_drop h)
  constructor
  · intro h
    rcases List.prefix_concat_iff.mp h with h | h
    · exact hv (List.append_cancel_right h ▸ hy)
    · exact hz (h.subset (by simp))
  · intro h
    rcases List.prefix_concat_iff.mp h with h | h
    · exact hv (List.append_cancel_right h.symm ▸ hy)
    · exact hv ((List.prefix_append w [z]).trans h |>.subset hy)

end Safe

/-! ## Splitting a text that is written piece by piece -/

section Split

variable {x : Char} {r : List Char}

theorem splitAux_skip (pat piece l b : List Char) :
    splitAux pat l.length piece (l ++ b) = splitAux pat 0 piece b := by
  induction l with
  | nil => rfl
  | cons c l ih => simpa only [List.length_cons, List.cons_append, splitAux] using ih

/-- A text without a match is one piece. -/
theorem splitAux_of_not_infix {pat a : List Char} (h : ¬ pat <:+: a) (piece : List Char) :
    splitAux pat 0 piece a = [piece.reverse ++ a] := by
  induction a generalizing piece with
  | nil => simp [splitAux]
  | cons c a ih =>
    have hc : ¬ pat <+: c :: a := fun h' => h h'.isInfix
    rw [splitAux, if_neg (by simpa [List.isPrefixOf_iff_prefix] using hc),
      ih (fun h' => h (h'.trans (List.suffix_cons c a).isInfix))]
    simp

/-- The first match ends the first piece, when the pattern's first character does not
recur in it. -/
theorem splitAux_sep (hx : x ∉ r) {a : List Char} (ha : ¬ x :: r <:+: a) (piece b : List Char) :
    splitAux (x :: r) 0 piece (a ++ (x :: r) ++ b) =
      (piece.reverse ++ a) :: splitAux (x :: r) 0 [] b := by
  induction a generalizing piece with
  | nil =>
    rw [List.nil_append, List.cons_append, splitAux, if_pos (by simp [List.isPrefixOf_iff_prefix]),
      List.length_cons, Nat.add_sub_cancel, splitAux_skip, List.append_nil]
  | cons c a ih =>
    have hfind := findSub_append_of_head hx ha (List.prefix_append (x :: r) b)
    have hc : ¬ (x :: r).isPrefixOf (c :: (a ++ (x :: r ++ b))) = true := fun h => by
      rw [List.cons_append, findSub, if_pos h] at hfind
      cases hfind
    rw [List.cons_append, List.cons_append, List.append_assoc, splitAux, if_neg hc,
      ← List.append_assoc, ih (fun h => ha (h.trans (List.suffix_cons c a).isInfix))]
    simp

variable {β γ : Type} {pre lead R : List Char} {f : β → List Char}
  {g : List Char → Option γ} {h : β → Option γ}

theorem filterMap_splitAux_pieces (hx : x ∉ r) (ns : List β)
    (hf : ∀ n ∈ ns, ∀ s ∈ [lead, R], ¬ x :: r <:+: f n ++ s ∧ g (f n ++ s) = h n)
    (n : β) (hn : ∀ s ∈ [lead, R], ¬ x :: r <:+: f n ++ s ∧ g (f n ++ s) = h n) :
    (splitAux (x :: r) 0 []
      (f n ++ (ns.map fun n => lead ++ (x :: r) ++ f n).flatten ++ R)).filterMap g =
      (n :: ns).filterMap h := by
  induction ns generalizing n with
  | nil =>
    obtain ⟨hR, hg⟩ := hn R (by simp)
    rw [List.map_nil, List.flatten_nil, List.append_nil, splitAux_of_not_infix hR]
    simp [hg, List.filterMap_cons]
  | cons m ms ih =>
    obtain ⟨hl, hg⟩ := hn lead (by simp)
    rw [List.map_cons, List.flatten_cons, show f n ++ (lead ++ (x :: r) ++ f m ++
      (ms.map fun n => lead ++ (x :: r) ++ f n).flatten) ++ R =
      (f n ++ lead) ++ (x :: r) ++ (f m ++ (ms.map fun n => lead ++ (x :: r) ++ f n).flatten ++ R)
      by simp, splitAux_sep hx hl, List.filterMap_cons,
      ih (fun k hk => hf k (List.mem_cons_of_mem m hk)) m (hf m (List.mem_cons_self m ms))]
    simp [hg, List.filterMap_cons]

/-- Pieces `lead ++ pat ++ f n` written one after another, between a text `pre` and a tail
`R`: past the first piece, the pieces of the split are the `f n`, each followed by the
`lead` of the next piece or, for the last, by `R`. When no match starts in them and `g`
reads `h n` from each, the split read with `g` is the list read with `h`. -/
theorem filterMap_splitAux_flatten (hx : x ∉ r)
    (hpre : ∀ s ∈ [lead, R], ¬ x :: r <:+: pre ++ s) (ns : List β)
    (hf : ∀ n ∈ ns, ∀ s ∈ [lead, R], ¬ x :: r <:+: f n ++ s ∧ g (f n ++ s) = h n) :
    ((splitAux (x :: r) 0 []
      (pre ++ (ns.map fun n => lead ++ (x :: r) ++ f n).flatten ++ R)).drop 1).filterMap g =
      ns.filterMap h := by
  cases ns with
  | nil =>
    rw [List.map_nil, List.flatten_nil, List.append_nil,
      splitAux_of_not_infix (hpre R (by simp))]
    rfl
  | cons n ns =>
    rw [List.map_cons, List.flatten_cons, show pre ++ (lead ++ (x :: r) ++ f n ++
      (ns.map fun n => lead ++ (x :: r) ++ f n).flatten) ++ R =
      (pre ++ lead) ++ (x :: r) ++ (f n ++ (ns.map fun n => lead ++ (x :: r) ++ f n).flatten ++ R)
      by simp, splitAux_sep hx (hpre lead (by simp)), List.drop_one, List.tail_cons]
    exact filterMap_splitAux_pieces hx ns (fun k hk => hf k (List.mem_cons_of_mem n hk)) n
      (hf n (List.mem_cons_self n ns))

/-- `filterMap_splitAux_flatten` for `str::split` on strings. -/
theorem filterMap_splitOn_join {pat pre lead R : String} {f : β → String}
    {g : String → Option γ} (hpat : pat.data = x :: r) (hx : x ∉ r)
    (hpre : ∀ s ∈ [lead, R], ¬ pat.data <:+: (pre ++ s).data) (ns : List β)
    (hf : ∀ n ∈ ns, ∀ s ∈ [lead, R],
      ¬ pat.data <:+: (f n ++ s).data ∧ g (f n ++ s) = h n) :
    ((splitOn (pre ++ String.join (ns.map fun n => lead ++ pat ++ f n) ++ R) pat).drop 1).filterMap
      g = ns.filterMap h := by
  have e : (pre ++ String.join (ns.map fun n => lead ++ pat ++ f n) ++ R).data =
      pre.data ++ (ns.map fun n => lead.data ++ (x :: r) ++ (f n).data).flatten ++ R.data := by
    simp [← hpat, Function.comp_def]
  rw [splitOn, e, hpat, ← List.map_drop, List.filterMap_map]
  refine filterMap_splitAux_flatten (f := fun n => (f n).data) hx ?_ ns ?_
  · simpa [hpat] using hpre
  · simpa [hpat] using hf

/-- The first piece of a split, when the pattern's first character does not recur in it. -/
theorem head?_splitOn_append {pat c s : String} (hpat : pat.data = x :: r) (hx : x ∉ r)
    (hc : ¬ pat.data <:+: c.data) : (splitOn (c ++ pat ++ s) pat).head? = some c := by
  rw [hpat] at hc
  simp only [splitOn, String.data_append, hpat, splitAux_sep hx hc, List.map_cons,
    List.head?_cons, List.reverse_nil, List.nil_append]

end Split

/-! ## Reading one element -/

/-- `extract_xml_tag` on an element `<t>c</t>` with no `<t` before it, as characters. -/
theorem extractXmlTag_mk {p t c q : List Char} (ht : '<' ∉ t) (ht' : '>' ∉ t) (hc : '<' ∉ c)
    (hp : ¬ '<' :: t <:+: p) :
    extractXmlTag ⟨p ++ '<' :: (t ++ '>' :: (c ++ '<' :: '/' :: (t ++ '>' :: q)))⟩ ⟨t⟩ =
      some ⟨c⟩ := by
  set close := '<' :: '/' :: (t ++ '>' :: q)
  have hstart : findSub ('<' :: t) (p ++ '<' :: (t ++ '>' :: (c ++ close))) = some p.length :=
    findSub_append_of_head ht hp (by simp)
  have hgt : findSub ['>'] ('<' :: (t ++ '>' :: (c ++ close))) = some (t.length + 1) := by
    simpa using findSub_singleton_append (b := c ++ close)
      (show '>' ∉ '<' :: t by simp [ht'])
  have hend : findSub ('<' :: '/' :: (t ++ ['>'])) (c ++ close) = some c.length :=
    findSub_append_of_head (by simp [ht]) (fun h => hc (h.subset (List.mem_cons_self _ _)))
      (by simp [close])
  have hdrop : (p ++ '<' :: (t ++ '>' :: (c ++ close))).drop (t.length + 1 + p.length + 1) =
      c ++ close := by
    rw [show p ++ '<' :: (t ++ '>' :: (c ++ close)) = (p ++ '<' :: (t ++ ['>'])) ++ (c ++ close)
      by simp]
    exact List.drop_left' (by simp; omega)
  simp only [extractXmlTag, find, sliceFrom, slice, String.data_append, List.singleton_append,
    List.cons_append, List.nil_append, hstart, List.drop_left, hgt, hdrop, hend, Option.pure_def,
    Option.bind_eq_bind, Option.some_bind, Nat.add_sub_cancel, List.take_left]

/-! ## The parser -/

/-- A title or a summary as the parser keeps it: line breaks become spaces, then the ends
are trimmed. -/
def normalize (s : String) : String := trim (replaceChar s '\n' " ")

section Parser

variable {α : Type}

/-- The body of the loop of `parse_arxiv_atom`, on one entry. -/
def parseEntry (entry : String) : Option (Json α) :=
  let title := ((extractXmlTag entry "title").map normalize).getD ""
  let summary := ((extractXmlTag entry "summary").map normalize).getD ""
  let id := (extractXmlTag entry "id").getD ""
  let published := (extractXmlTag entry "published").getD ""
  let authors := ((splitOn entry "<author>").drop 1).filterMap fun a => extractXmlTag a "name"
  let categories := ((splitOn entry "term=\"").drop 1).filterMap fun c => (splitOn c "\"").head?
  if title.isEmpty then none
  else some (.object [("title", .string title), ("authors", .array (authors.map .string)),
    ("summary", .string (truncateStr summary 500)), ("url", .string id),
    ("published", .string published), ("categories", .array (categories.map .string))])

def parseArxivAtom (xml : String) : List (Json α) :=
  ((splitOn xml "<entry>").drop 1).filterMap parseEntry

end Parser

/-! ## Feeds written from articles -/

/-- What an entry of the feed says about one article. -/
structure Article where
  id : String
  published : String
  title : String
  summary : String
  authors : List String
  categories : List String

def openTag (name : String) : String := "<" ++ name ++ ">"

def closeTag (name : String) : String := "</" ++ name ++ ">"

def element (name content : String) : String := openTag name ++ content ++ closeTag name

def authorElement (name : String) : String :=
  openTag "author" ++ element "name" name ++ closeTag "author"

def categoryElement (term : String) : String := "<category " ++ "term=\"" ++ term ++ "\"/>"

/-- The elements an entry opens with, in the order the arXiv API writes them. -/
def Article.head (a : Article) : String :=
  element "id" a.id ++ element "published" a.published ++ element "title" a.title ++
    element "summary" a.summary

/-- An entry without its `<entry>`: the elements `parse_arxiv_atom` reads and the end tag. -/
def Article.body (a : Article) : String :=
  a.head ++ String.join (a.authors.map authorElement) ++
    String.join (a.categories.map categoryElement) ++ closeTag "entry"

/-- A feed: a header, one entry per article, and a trailer. -/
def feed (header : String) (articles : List Article) (trailer : String) : String :=
  header ++ String.join (articles.map fun a => openTag "entry" ++ a.body) ++ trailer

/-- The article as the parser reports it: title and summary normalised, the summary cut
to 500 bytes. -/
def Article.read (a : Article) : Article :=
  { a with title := normalize a.title, summary := truncateStr (normalize a.summary) 500 }

@[simp] theorem Article.read_title (a : Article) : a.read.title = normalize a.title := rfl

def Article.toJson {α : Type} (a : Article) : Json α :=
  .object [("title", .string a.title), ("authors", .array (a.authors.map .string)),
    ("summary", .string a.summary), ("url", .string a.id), ("published", .string a.published),
    ("categories", .array (a.categories.map .string))]

/-- Texts an entry can carry and be read back from: no markup in any of them, no `term="`
outside the categories, and neither a quote nor `=` in a category. -/
structure Article.Plain (a : Article) : Prop where
  texts : ∀ s ∈ a.id :: a.published :: a.title :: a.summary :: a.authors,
    '<' ∉ s.data ∧ ¬ "term=\"".data <:+: s.data
  categories : ∀ c ∈ a.categories, '<' ∉ c.data ∧ '"' ∉ c.data ∧ '=' ∉ c.data

@[simp] theorem openTag_data (name : String) :
    (openTag name).data = '<' :: (name.data ++ ['>']) := by
  simp [openTag]

@[simp] theorem closeTag_data (name : String) :
    (closeTag name).data = '<' :: '/' :: (name.data ++ ['>']) := by
  simp [closeTag]

section Markup

variable {r pat : List Char} {t c : String}

/-- An element is safe for a pattern that starts with `'<'` when its two tags are and its
content holds no `'<'`. -/
theorem safe_element_of_not_mem (hc : '<' ∉ c.data) (ho : Safe ('<' :: r) (openTag t).data)
    (hcl : Safe ('<' :: r) (closeTag t).data) : Safe ('<' :: r) (element t c).data :=
  (ho.append (safe_of_not_mem hc)).append hcl

/-- An element is safe for a pattern without `'<'` when its start tag is, the rest of its
end tag is, and its content does not hold the pattern: the `'<'` of the end tag cuts off
any match begun in the content. -/
theorem safe_element_of_not_infix (hpat : '<' ∉ pat) (hc : ¬ pat <:+: c.data)
    (ho : Safe pat (openTag t).data) (hcl : Safe pat ('/' :: (t.data ++ ['>']))) :
    Safe pat (element t c).data := by
  have := ho.append ((safe_concat hpat hc).append hcl)
  simpa [element] using this

theorem safe_join_map {β : Type} {l : List β} {f : β → String}
    (h : ∀ x ∈ l, Safe pat (f x).data) : Safe pat (String.join (l.map f)).data := by
  rw [String.data_join]
  exact Safe.flatten (by simpa using h)

end Markup

/-- `extract_xml_tag` on a text that begins with text `p` and an element `<t>c</t>`. -/
theorem extractXmlTag_of_isPrefix {xml p t c : String} (ht : '<' ∉ t.data) (ht' : '>' ∉ t.data)
    (hc : '<' ∉ c.data) (hp : ¬ '<' :: t.data <:+: p.data)
    (hxml : (p ++ element t c).data <+: xml.data) : extractXmlTag xml t = some c := by
  obtain ⟨q, hq⟩ := hxml
  have e : xml =
      ⟨p.data ++ '<' :: (t.data ++ '>' :: (c.data ++ '<' :: '/' :: (t.data ++ '>' :: q)))⟩ :=
    String.ext (by rw [← hq]; simp [element])
  rw [e]
  exact extractXmlTag_mk ht ht' hc hp

/-! ## Reading an entry back -/

section Entry

variable {α : Type} {a : Article} {r : List Char} {tail : String}

theorem Article.Plain.safe_head (ha : a.Plain)
    (htags : ∀ t ∈ ["id", "published", "title", "summary"],
      Safe ('<' :: r) (openTag t).data ∧ Safe ('<' :: r) (closeTag t).data) :
    Safe ('<' :: r) a.head.data := by
  have hel : ∀ t ∈ ["id", "published", "title", "summary"],
      ∀ c ∈ [a.id, a.published, a.title, a.summary], Safe ('<' :: r) (element t c).data :=
    fun t ht c hc => safe_element_of_not_mem (ha.texts c (List.mem_append_left a.authors hc)).1
      (htags t ht).1 (htags t ht).2
  exact (((hel _ (by simp) _ (by simp)).append (hel _ (by simp) _ (by simp))).append
    (hel _ (by simp) _ (by simp))).append (hel _ (by simp) _ (by simp))

/-- The four elements an entry opens with are read back by `extract_xml_tag`, whatever
follows them. -/
theorem Article.Plain.extractXmlTag_head (ha : a.Plain) (tail : String) :
    extractXmlTag (a.head ++ tail) "id" = some a.id ∧
      extractXmlTag (a.head ++ tail) "published" = some a.published ∧
      extractXmlTag (a.head ++ tail) "title" = some a.title ∧
      extractXmlTag (a.head ++ tail) "summary" = some a.summary := by
  have hc : ∀ c ∈ [a.id, a.published, a.title, a.summary], '<' ∉ c.data := fun c hc =>
    (ha.texts c (List.mem_append_left a.authors hc)).1
  have hel : ∀ {r : List Char} {t c : String}, c ∈ [a.id, a.published, a.title, a.summary] →
      Safe ('<' :: r) (openTag t).data → Safe ('<' :: r) (closeTag t).data →
      Safe ('<' :: r) (element t c).data := fun h => safe_element_of_not_mem (hc _ h)
  refine ⟨extractXmlTag_of_isPrefix (p := "") (by decide) (by decide) (hc _ (by simp)) (by simp)
    (by simp [Article.head]), ?_, ?_, ?_⟩
  · exact extractXmlTag_of_isPrefix (p := element "id" a.id) (by decide) (by decide)
      (hc _ (by simp)) ((hel (by simp) (by decide) (by decide)).not_isInfix (List.cons_ne_nil _ _))
      (by simp [Article.head])
  · exact extractXmlTag_of_isPrefix (p := element "id" a.id ++ element "published" a.published)
      (by decide) (by decide) (hc _ (by simp))
      (((hel (by simp) (by decide) (by decide)).append
        (hel (by simp) (by decide) (by decide))).not_isInfix (List.cons_ne_nil _ _))
      (by simp [Article.head])
  · exact extractXmlTag_of_isPrefix
      (p := element "id" a.id ++ element "published" a.published ++ element "title" a.title)
      (by decide) (by decide) (hc _ (by simp))
      ((((hel (by simp) (by decide) (by decide)).append
        (hel (by simp) (by decide) (by decide))).append
        (hel (by simp) (by decide) (by decide))).not_isInfix (List.cons_ne_nil _ _))
      (by simp [Article.head])

/-- The names of the authors, read from the pieces of the split at `<author>`. -/
theorem Article.Plain.authors_body (ha : a.Plain) (htail : ¬ "<author>".data <:+: tail.data) :
    ((splitOn (a.body ++ tail) "<author>").drop 1).filterMap (fun s => extractXmlTag s "name") =
      a.authors := by
  have hcat : Safe "<author>".data
      (String.join (a.categories.map categoryElement) ++ closeTag "entry").data :=
    Safe.append (safe_join_map fun c hc => ((by decide : Safe "<author>".data ("<category " ++
      "term=\"").data).append (safe_of_not_mem (ha.categories c hc).1)).append (by decide))
      (by decide)
  have hR := hcat.not_infix_append htail
  rw [show a.body ++ tail = a.head ++ String.join (a.authors.map fun n => "" ++ "<author>" ++
    (element "name" n ++ closeTag "author")) ++
    (String.join (a.categories.map categoryElement) ++ closeTag "entry" ++ tail) from
    String.ext (by simp [Article.body, authorElement, Function.comp_def])]
  refine (filterMap_splitOn_join (x := '<') (r := "author>".data) (h := some) rfl (by decide) ?_
    a.authors ?_).trans (List.filterMap_some _)
  · have hhead := ha.safe_head (r := "author>".data) (by decide)
    intro s hs
    rcases List.mem_pair.mp hs with rfl | rfl
    · simpa using hhead.not_isInfix (List.cons_ne_nil _ _)
    · exact hhead.not_infix_append hR
  · intro n hn s hs
    have hnm : '<' ∉ n.data := (ha.texts n (by simp [hn])).1
    have hsafe : Safe "<author>".data (element "name" n ++ closeTag "author").data :=
      (safe_element_of_not_mem hnm (by decide) (by decide)).append (by decide)
    refine ⟨hsafe.not_infix_append ?_, extractXmlTag_of_isPrefix (p := "") (by decide) (by decide)
      hnm (by simp) (by simp)⟩
    rcases List.mem_pair.mp hs with rfl | rfl
    · simp
    · exact hR

/-- The terms of the categories, read from the pieces of the split at `term="`, each up
to its closing quote. -/
theorem Article.Plain.categories_body (ha : a.Plain) (htail : ¬ "term=\"".data <:+: tail.data) :
    ((splitOn (a.body ++ tail) "term=\"").drop 1).filterMap (fun c => (splitOn c "\"").head?) =
      a.categories := by
  have hel : ∀ {t c : String}, c ∈ a.id :: a.published :: a.title :: a.summary :: a.authors →
      Safe "term=\"".data (openTag t).data → Safe "term=\"".data ('/' :: (t.data ++ ['>'])) →
      Safe "term=\"".data (element t c).data := fun hc =>
    safe_element_of_not_infix (by decide) (ha.texts _ hc).2
  have hpre : Safe "term=\"".data (a.head ++ String.join (a.authors.map authorElement)).data :=
    ((((hel (by simp) (by decide) (by decide)).append
      (hel (by simp) (by decide) (by decide))).append
      (hel (by simp) (by decide) (by decide))).append
      (hel (by simp) (by decide) (by decide))).append
      (safe_join_map fun n hn => ((by decide : Safe _ (openTag "author").data).append
        (hel (by simp [hn]) (by decide) (by decide))).append (by decide))
  have hR : ¬ "term=\"".data <:+: (closeTag "entry" ++ tail).data :=
    (by decide : Safe "term=\"".data (closeTag "entry").data).not_infix_append htail
  rw [show a.body ++ tail = (a.head ++ String.join (a.authors.map authorElement)) ++
    String.join (a.categories.map fun c => "<category " ++ "term=\"" ++ (c ++ "\"" ++ "/>")) ++
    (closeTag "entry" ++ tail) from
    String.ext (by simp [Article.body, categoryElement, Function.comp_def])]
  refine (filterMap_splitOn_join (x := 't') (r := "erm=\"".data) (h := some) rfl (by decide) ?_
    a.categories ?_).trans (List.filterMap_some _)
  · intro s hs
    rcases List.mem_pair.mp hs with rfl | rfl
    · exact hpre.not_infix_append (by decide)
    · exact hpre.not_infix_append hR
  · intro c hc s hs
    obtain ⟨-, hq, he⟩ := ha.categories c hc
    have hsafe : Safe "term=\"".data (c ++ "\"" ++ "/>").data :=
      (safe_concat_of_not_mem (w := "term=".data) (by decide) (by decide) he).append (by decide)
    refine ⟨hsafe.not_infix_append ?_, ?_⟩
    · rcases List.mem_pair.mp hs with rfl | rfl
      · decide
      · exact hR
    · rw [String.append_assoc]
      exact head?_splitOn_append (x := '"') (r := []) rfl (List.not_mem_nil _)
        fun h => hq (h.subset (List.mem_singleton_self _))

/-- No `<entry>` starts inside an entry written from a plain article. -/
theorem Article.Plain.safe_body (ha : a.Plain) : Safe "<entry>".data a.body.data := by
  have hauthors : Safe "<entry>".data (String.join (a.authors.map authorElement)).data :=
    safe_join_map fun n hn => ((by decide : Safe _ (openTag "author").data).append
      (safe_element_of_not_mem (ha.texts n (by simp [hn])).1 (by decide) (by decide))).append
      (by decide)
  have hcats : Safe "<entry>".data (String.join (a.categories.map categoryElement)).data :=
    safe_join_map fun c hc => ((by decide : Safe _ ("<category " ++ "term=\"").data).append
      (safe_of_not_mem (ha.categories c hc).1)).append (by decide)
  exact (((ha.safe_head (by decide)).append hauthors).append hcats).append (by decide)

/-- An entry written from a plain article is read as the article, unless its title
normalises to nothing. -/
theorem Article.Plain.parseEntry_body (ha : a.Plain) (hauthor : ¬ "<author>".data <:+: tail.data)
    (hterm : ¬ "term=\"".data <:+: tail.data) :
    parseEntry (α := α) (a.body ++ tail) =
      if (normalize a.title).isEmpty then none else some a.read.toJson := by
  have e : a.body ++ tail = a.head ++ (String.join (a.authors.map authorElement) ++
      String.join (a.categories.map categoryElement) ++ closeTag "entry" ++ tail) :=
    String.ext (by simp [Article.body])
  obtain ⟨hid, hpub, htitle, hsum⟩ := ha.extractXmlTag_head
    (String.join (a.authors.map authorElement) ++ String.join (a.categories.map categoryElement) ++
      closeTag "entry" ++ tail)
  rw [← e] at hid hpub htitle hsum
  simp only [parseEntry, hid, hpub, htitle, hsum, ha.authors_body hauthor, ha.categories_body hterm,
    Option.map_some', Option.getD_some]
  rfl

end Entry

section Feed

variable {α : Type}

theorem filterMap_read (articles : List Article) :
    articles.filterMap (fun a =>
      if (normalize a.title).isEmpty then none else some (a.read.toJson (α := α))) =
      ((articles.map Article.read).filter fun a => !a.title.isEmpty).map Article.toJson := by
  induction articles with
  | nil => rfl
  | cons a as ih =>
    by_cases h : (normalize a.title).isEmpty <;> simp [List.filterMap_cons, List.filter_cons, h, ih]

/-- A feed written from plain articles is read back as those articles, title and summary
normalised and the summary cut to 500 bytes, less those whose title normalises to
nothing; the header and the trailer may hold anything but an entry, and the trailer
neither an author nor a category. -/
theorem parseArxivAtom_feed {header trailer : String} {articles : List Article}
    (ha : ∀ a ∈ articles, a.Plain) (hentry : ¬ "<entry>".data <:+: (header ++ trailer).data)
    (hauthor : ¬ "<author>".data <:+: trailer.data) (hterm : ¬ "term=\"".data <:+: trailer.data) :
    parseArxivAtom (α := α) (feed header articles trailer) =
      ((articles.map Article.read).filter fun a => !a.title.isEmpty).map Article.toJson := by
  rw [parseArxivAtom, feed, show String.join (articles.map fun a => openTag "entry" ++ a.body) =
    String.join (articles.map fun a => "" ++ "<entry>" ++ a.body) from
    String.ext (by simp [Function.comp_def]), ← filterMap_read]
  refine filterMap_splitOn_join (x := '<') (r := "entry>".data) (g := parseEntry)
    (f := Article.body) rfl (by decide) ?_ articles ?_
  · intro s hs
    rcases List.mem_pair.mp hs with rfl | rfl
    · rw [String.append_empty]
      exact fun h => hentry (h.trans (List.prefix_append _ _).isInfix)
    · exact hentry
  · intro a h s hs
    rcases List.mem_pair.mp hs with rfl | rfl
    · exact ⟨(ha a h).safe_body.not_infix_append (by decide),
        (ha a h).parseEntry_body (by decide) (by decide)⟩
    · exact ⟨(ha a h).safe_body.not_infix_append fun h' =>
        hentry (h'.trans (List.suffix_append _ _).isInfix),
        (ha a h).parseEntry_body hauthor hterm⟩

theorem parseArxivAtom_feed_two :
    let articles := [Article.mk "2401.00001" "2024-01-01" " Attention\n is enough " "We show."
      ["Ada", "Alan"] ["cs.LG", "stat.ML"], Article.mk "2401.00002" "2024-01-02" "\n" "Empty." [] []]
    ((∀ a ∈ articles, a.Plain) ∧ ¬ "<entry>".data <:+: ("<feed><title>arXiv</title>" ++ "</feed>").data ∧
      ¬ "<author>".data <:+: "</feed>".data ∧ ¬ "term=\"".data <:+: "</feed>".data) ∧
    parseArxivAtom (α := ℚ) (feed "<feed><title>arXiv</title>" articles "</feed>") =
      ((articles.map Article.read).filter fun a => !a.title.isEmpty).map Article.toJson := by
  intro articles
  have ha : ∀ a ∈ articles, a.Plain := by
    simp only [articles, List.mem_cons, List.mem_singleton, List.not_mem_nil, or_false]
    rintro a (rfl | rfl) <;> exact ⟨by decide, by decide⟩
  exact ⟨⟨ha, by decide, by decide, by decide⟩,
    parseArxivAtom_feed ha (by decide) (by decide) (by decide)⟩

end Feed

/-! ## What the parser returns from any text -/

/-- A text on one line, with no whitespace at either end. -/
def OneLine (s : String) : Prop := '\n' ∉ s.data ∧ trim s = s

theorem oneLine_normalize (s : String) : OneLine (normalize s) :=
  ⟨fun h => not_mem_replaceChar (s := s) (r := " ") (by decide) ((trim_data_sublist _).subset h),
    trim_trim _⟩

/-- Cutting a text keeps it on one line with no whitespace at either end: the cut keeps the
first character and ends in a dot. -/
theorem OneLine.truncateStr {s : String} (hs : OneLine s) (maxLen : Nat) :
    OneLine (truncateStr s maxLen) := by
  rcases truncateStr_cases s maxLen with ⟨h, -⟩ | h
  · rwa [h]
  rw [h]
  obtain ⟨t, ht⟩ := startsBefore_isPrefix (maxLen - 3) 0 s.data
  generalize startsBefore (maxLen - 3) 0 s.data = p at ht
  show OneLine ⟨p ++ ['.', '.', '.']⟩
  have hdot : isWhitespace '.' = false := by decide
  refine ⟨?_, trim_eq_self ?_ (by simp [hdot])⟩
  · simpa using fun hp => hs.1 (ht ▸ List.mem_append_left t hp)
  · cases p with
    | nil => simp [hdot]
    | cons d p =>
      have := hs.2 ▸ head?_trim s
      rw [← ht] at this
      simpa using this

theorem getD_map_normalize (o : Option String) :
    (o.map normalize).getD "" = normalize (o.getD "") := by
  cases o <;> rfl

/-- The first piece of a split at one character holds no copy of it. -/
theorem not_mem_head?_splitAux {x : Char} (l piece : List Char) (hp : x ∉ piece) :
    ∀ c ∈ (splitAux [x] 0 piece l).head?, x ∉ c := by
  induction l generalizing piece with
  | nil => simpa [splitAux] using hp
  | cons d l ih =>
    by_cases hd : d = x
    · subst hd
      simpa [splitAux] using hp
    · rw [splitAux, if_neg (by simp [List.isPrefixOf, Ne.symm hd])]
      exact ih _ (by simp [Ne.symm hd, hp])

/-- What every article read from a feed looks like, whatever the text: a title that is not
empty, a title and a summary each on one line with no whitespace at either end, a summary of
at most 503 bytes, and categories without a double quote. -/
structure Article.Tidy (a : Article) : Prop where
  title_ne : a.title ≠ ""
  title : OneLine a.title
  summary : OneLine a.summary
  summary_bytes : a.summary.utf8ByteSize ≤ 503
  categories : ∀ c ∈ a.categories, '"' ∉ c.data

section Tidy

variable {α : Type}

theorem parseEntry_tidy {entry : String} {j : Json α} (h : parseEntry entry = some j) :
    ∃ a : Article, a.Tidy ∧ j = a.toJson := by
  unfold parseEntry at h
  dsimp only at h
  split at h
  · cases h
  rename_i hne
  obtain rfl := Option.some.inj h
  refine ⟨⟨_, _, ((extractXmlTag entry "title").map normalize).getD "",
    truncateStr (((extractXmlTag entry "summary").map normalize).getD "") 500, _,
    ((splitOn entry "term=\"").drop 1).filterMap fun c => (splitOn c "\"").head?⟩,
    ⟨?_, ?_, ?_, ?_, ?_⟩, rfl⟩ <;> dsimp only
  · exact fun h => hne (by rw [h]; rfl)
  · rw [getD_map_normalize]
    exact oneLine_normalize _
  · rw [getD_map_normalize]
    exact (oneLine_normalize _).truncateStr 500
  · exact truncateStr_bytes_le _ (by norm_num)
  · intro c hc
    obtain ⟨a, -, hc⟩ := List.mem_filterMap.mp hc
    obtain ⟨d, hd, rfl⟩ := Option.map_eq_some'.mp ((List.head?_map _ _).symm.trans hc)
    exact not_mem_head?_splitAux a.data [] (List.not_mem_nil _) d hd

/-- Whatever text the arXiv API sends, every result the parser returns is the JSON of a
tidy article. -/
theorem parseArxivAtom_tidy (xml : String) :
    ∀ j ∈ parseArxivAtom (α := α) xml, ∃ a : Article, a.Tidy ∧ j = a.toJson := by
  intro j hj
  obtain ⟨entry, -, h⟩ := List.mem_filterMap.mp hj
  exact parseEntry_tidy h

theorem parseArxivAtom_tidy_entry :
    let xml := "<feed><entry><id>1</id><title> A\nB </title><summary>S</summary></entry></feed>"
    let j : Json ℚ := Article.toJson ⟨"1", "", "A B", "S", [], []⟩
    j ∈ parseArxivAtom xml ∧ ∃ a : Article, a.Tidy ∧ j = a.toJson := by
  intro xml j
  have hj : j ∈ parseArxivAtom xml := by
    rw [show parseArxivAtom xml = [j] from rfl]
    exact List.mem_singleton_self j
  exact ⟨hj, parseArxivAtom_tidy xml j hj⟩

end Tidy

end Ironclaw.Arxiv
