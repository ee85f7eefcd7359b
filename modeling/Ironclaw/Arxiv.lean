import Mathlib.Data.String.Basic
import Ironclaw.Tracker.Text

/-!
# The arXiv helpers

`parse_arxiv_atom` reads each entry of an Atom feed with `extract_xml_tag`, a substring
search rather than an XML parser, and shortens the summary with `truncate_str`.
`extract_xml_tag` is modelled on characters with `Ironclaw.Tracker.find`: its offsets all
come from a search and lie on character boundaries, and the `+ 1` past a `'>'` is one
character as it is one byte. `truncate_str` counts bytes, so its model keeps the byte size
of every character (`String.utf8Len`).
-/

namespace Ironclaw.Arxiv

open Tracker

/-- `&xml[start..stop]`. -/
def slice (xml : String) (start stop : Nat) : String :=
  ⟨(xml.data.drop start).take (stop - start)⟩

def extractXmlTag (xml tag : String) : Option String := do
  let open_ := "<" ++ tag
  let close := "</" ++ tag ++ ">"
  let start ← find xml open_
  let contentStart := (← find (sliceFrom xml start) ">") + start + 1
  let end_ := (← find (sliceFrom xml contentStart) close) + contentStart
  return slice xml contentStart end_

/-- Without `<tag` in the text there is nothing to extract. -/
theorem extractXmlTag_of_not_infix {xml tag : String} (h : ¬ ("<" ++ tag).data <:+: xml.data) :
    extractXmlTag xml tag = none := by
  simp only [extractXmlTag, find, findSub_eq_none_iff.mpr h]
  rfl

example : extractXmlTag "<root>no match</root>" "title" = none := by decide

theorem element_data (p t a c q : String) :
    (p ++ "<" ++ t ++ a ++ ">" ++ c ++ "</" ++ t ++ ">" ++ q).data = p.data ++
      '<' :: (t.data ++ a.data ++ '>' :: (c.data ++ '<' :: '/' :: (t.data ++ '>' :: q.data))) := by
  simp

/-- The element a title or a summary is read from: text `p` before it, the start tag
`<t a>`, the content `c`, the end tag and text `q` after it. The three searches land on
the start tag, on its `'>'` and on the end tag, so the content comes back, when no `<t`
occurs in `p` (not even as the start of a longer tag name), the tag name holds no angle
bracket, the attributes no `'>'` and the content no `'<'`. -/
theorem extractXmlTag_element (p t a c q : String) (ht : '<' ∉ t.data) (ht' : '>' ∉ t.data)
    (ha : '>' ∉ a.data) (hc : '<' ∉ c.data) (hp : ¬ '<' :: t.data <:+: p.data) :
    extractXmlTag (p ++ "<" ++ t ++ a ++ ">" ++ c ++ "</" ++ t ++ ">" ++ q) t = some c := by
  set close := '<' :: '/' :: (t.data ++ '>' :: q.data)
  have hstart : findSub ("<" ++ t).data
      (p.data ++ '<' :: (t.data ++ a.data ++ '>' :: (c.data ++ close))) = some p.data.length :=
    findSub_append_of_head ht hp (by simp)
  have hgt : findSub ['>'] ('<' :: (t.data ++ a.data ++ '>' :: (c.data ++ close))) =
      some (t.data.length + a.data.length + 1) := by
    simpa using findSub_singleton_append (b := c.data ++ close)
      (show '>' ∉ '<' :: (t.data ++ a.data) by simp [ht', ha])
  have hend : findSub ("</" ++ t ++ ">").data (c.data ++ close) = some c.data.length := by
    simp only [String.data_append]
    exact findSub_append_of_head (by simp [ht])
      (fun h => hc (h.subset (List.mem_cons_self _ _))) (by simp [close])
  have hdrop : (p.data ++ '<' :: (t.data ++ a.data ++ '>' :: (c.data ++ close))).drop
      (t.data.length + a.data.length + 1 + p.data.length + 1) = c.data ++ close := by
    rw [show p.data ++ '<' :: (t.data ++ a.data ++ '>' :: (c.data ++ close)) =
      (p.data ++ '<' :: (t.data ++ a.data ++ ['>'])) ++ (c.data ++ close) by simp]
    exact List.drop_left' (by simp; omega)
  simp only [extractXmlTag, find, sliceFrom, slice, element_data, hstart, List.drop_left, hgt,
    hdrop, hend, Option.pure_def, Option.bind_eq_bind, Option.some_bind, Nat.add_sub_cancel,
    List.take_left]

theorem extractXmlTag_element_entry :
    ('<' ∉ "title".data ∧ '>' ∉ "title".data ∧ '>' ∉ " type=text".data ∧ '<' ∉ "Hi".data ∧
      ¬ '<' :: "title".data <:+: "<entry><id>1</id>".data) ∧
    extractXmlTag ("<entry><id>1</id>" ++ "<" ++ "title" ++ " type=text" ++ ">" ++ "Hi" ++ "</" ++
      "title" ++ ">" ++ "</entry>") "title" = some "Hi" :=
  ⟨by decide, extractXmlTag_element _ _ _ _ _ (by decide) (by decide) (by decide) (by decide)
    (by decide)⟩

example : extractXmlTag "<title>Hello</title>" "title" = some "Hello" := by decide

/-- A start tag whose name only begins with the tag name is taken for it: every `<title`
in `<titles>` goes on with `s`, so it holds no start tag of an element named exactly
`title`, and the search for `<title` still stops there. -/
theorem extractXmlTag_longer_name :
    (∀ d : Char, '<' :: "title".data ++ [d] <:+: "<titles>".data → d = 's') ∧
    extractXmlTag ("<titles>" ++ "<" ++ "title" ++ "" ++ ">" ++ "Hi" ++ "</" ++ "title" ++ ">" ++ "")
      "title" = some "<title>Hi" := by
  refine ⟨fun d ⟨s, u, h⟩ => ?_, by decide⟩
  change s ++ ['<', 't', 'i', 't', 'l', 'e', d] ++ u = ['<', 't', 'i', 't', 'l', 'e', 's', '>'] at h
  have hl := congrArg List.length h
  simp only [List.length_append, List.length_cons, List.length_nil] at hl
  rcases s with _ | ⟨x, _ | ⟨y, s⟩⟩
  · simp at h
    exact h.1
  · simp at h
  · simp at hl
    omega

/-! ## Truncating the summary -/

/-- `s.char_indices()` from byte offset `i`: every character with the offset it starts at. -/
def charIndices (i : Nat) : List Char → List (Nat × Char)
  | [] => []
  | c :: cs => (i, c) :: charIndices (i + c.utf8Size) cs

/-- `&s[..boundary]` for a `boundary` on a character boundary: the characters that end
by byte `boundary`. -/
def takeBytes (boundary : Nat) : List Char → List Char
  | [] => []
  | c :: cs => if c.utf8Size ≤ boundary then c :: takeBytes (boundary - c.utf8Size) cs else []

def truncateStr (s : String) (maxLen : Nat) : String :=
  if s.utf8ByteSize ≤ maxLen then s
  else
    let boundary := (((charIndices 0 s.data).takeWhile fun (i, _) => i < maxLen - 3).getLast?.map
      fun (i, c) => i + c.utf8Size).getD 0
    ⟨takeBytes boundary s.data⟩ ++ "..."

/-- The characters of a text read from byte offset `i` that start before byte `n`: what
the `take_while` of `truncate_str` keeps. -/
def startsBefore (n i : Nat) : List Char → List Char
  | [] => []
  | c :: cs => if i < n then c :: startsBefore n (i + c.utf8Size) cs else []

theorem utf8Size_pos (c : Char) : 0 < c.utf8Size := by
  rcases Char.utf8Size_eq c with h | h | h | h <;> omega

theorem utf8Size_le_four (c : Char) : c.utf8Size ≤ 4 := by
  rcases Char.utf8Size_eq c with h | h | h | h <;> omega

theorem takeWhile_charIndices (n i : Nat) (cs : List Char) :
    (charIndices i cs).takeWhile (fun (j, _) => j < n) = charIndices i (startsBefore n i cs) := by
  induction cs generalizing i with
  | nil => rfl
  | cons c cs ih => by_cases h : i < n <;> simp [charIndices, startsBefore, h, ih]

theorem charIndices_append (i : Nat) (p q : List Char) :
    charIndices i (p ++ q) = charIndices i p ++ charIndices (i + String.utf8Len p) q := by
  induction p generalizing i with
  | nil => simp [charIndices]
  | cons c p ih => simp [charIndices, ih, Nat.add_assoc, Nat.add_comm c.utf8Size]

/-- The end of the last character is the byte length of the text. -/
theorem charIndices_end (p : List Char) :
    (((charIndices 0 p).getLast?.map fun (i, c) => i + c.utf8Size).getD 0) = String.utf8Len p := by
  induction p using List.reverseRecOn with
  | nil => rfl
  | append_singleton p c _ => simp [charIndices_append, charIndices]

/-- Cut at the end of a prefix, `&s[..boundary]` is that prefix. -/
theorem takeBytes_of_isPrefix {p cs : List Char} (h : p <+: cs) :
    takeBytes (String.utf8Len p) cs = p := by
  obtain ⟨rest, rfl⟩ := h
  induction p with
  | nil => cases rest <;> simp [takeBytes, (utf8Size_pos _).ne']
  | cons c p ih => simp [takeBytes, ih]

theorem startsBefore_isPrefix (n i : Nat) (cs : List Char) : startsBefore n i cs <+: cs := by
  induction cs generalizing i with
  | nil => exact List.prefix_refl []
  | cons c cs ih =>
    unfold startsBefore
    split
    · exact List.cons_prefix_cons.mpr ⟨rfl, ih _⟩
    · exact List.nil_prefix

/-- What `truncate_str` returns for a text over the limit. -/
theorem truncateStr_of_lt {s : String} {maxLen : Nat} (h : maxLen < s.utf8ByteSize) :
    truncateStr s maxLen = ⟨startsBefore (maxLen - 3) 0 s.data⟩ ++ "..." := by
  rw [truncateStr, if_neg (by omega), takeWhile_charIndices, charIndices_end]
  dsimp only
  rw [takeBytes_of_isPrefix (startsBefore_isPrefix _ _ _)]

/-- The last kept character starts before the cut and is at most four bytes long. -/
theorem startsBefore_bytes_le (n i : Nat) (cs : List Char) :
    String.utf8Len (startsBefore n i cs) ≤ n + 3 - i := by
  induction cs generalizing i with
  | nil => simp [startsBefore]
  | cons c cs ih =>
    by_cases h : i < n
    · have := ih (i + c.utf8Size)
      have := utf8Size_le_four c
      simp only [startsBefore, if_pos h, String.utf8Len_cons]
      omega
    · simp [startsBefore, h]

theorem utf8ByteSize_ellipsis (p : List Char) :
    (⟨p⟩ ++ "..." : String).utf8ByteSize = String.utf8Len p + 3 := by
  show String.utf8Len (p ++ "...".data) = _
  rw [String.utf8Len_append]
  rfl

/-- `truncate_str` returns the text, or the characters that start before `max_len - 3`
followed by `"..."`. -/
theorem truncateStr_cases (s : String) (maxLen : Nat) :
    truncateStr s maxLen = s ∧ s.utf8ByteSize ≤ maxLen ∨
      truncateStr s maxLen = ⟨startsBefore (maxLen - 3) 0 s.data⟩ ++ "..." := by
  by_cases h : s.utf8ByteSize ≤ maxLen
  · exact .inl ⟨if_pos h, h⟩
  · exact .inr (truncateStr_of_lt (by omega))

theorem truncateStr_bytes_le (s : String) {maxLen : Nat} (h3 : 3 ≤ maxLen) :
    (truncateStr s maxLen).utf8ByteSize ≤ maxLen + 3 := by
  rcases truncateStr_cases s maxLen with ⟨h, hs⟩ | h
  · rw [h]
    omega
  · rw [h, utf8ByteSize_ellipsis]
    have := startsBefore_bytes_le (maxLen - 3) 0 s.data
    omega

example : truncateStr "hello" 10 = "hello" := by decide
example : truncateStr "hello world" 8 = "hello..." := by decide

/-- A character that starts before the cut and ends past it is kept whole: with
`max_len = 4` the cut is byte 1, the first `'é'` runs to byte 2, and the result has five
bytes. -/
theorem truncateStr_over_limit :
    truncateStr "éééé" 4 = "é..." ∧ (truncateStr "éééé" 4).utf8ByteSize = 5 := by
  decide

end Ironclaw.Arxiv
