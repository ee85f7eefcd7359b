import Ironclaw.Arxiv.Feed

/-!
# Literature search

`ScienceSearchTool` asks PubMed, arXiv and CrossRef over HTTP and maps their answers to
JSON. The services are inputs of the model: for each URL, what the GET returns once its
body is decoded as JSON or read as text, or how the request failed. So are the library
functions the tool calls: `urlencoding::encode`, the `Display` of a JSON value and of a
`ToolError`, and `Number::as_u64`.

With one source the call fails when that source fails; with `all` it never fails once
the query is a string, and reports a failed source as `{"error": text}` beside the others.
-/

namespace Ironclaw.Search

open Json
open Arxiv (parseArxivAtom trim)

/-- How a request fails: sending it, or decoding its body. -/
inductive FetchError
  | send (message : String)
  | decode (message : String)

/-- What the tool takes from outside: the services' answers by URL, and the library
functions it calls. -/
structure Env (α : Type) where
  json : String → Except FetchError (Json α)
  text : String → Except FetchError String
  encode : String → String
  display : Json α → String
  errorText : ToolError → String
  toU64 : α → Option Nat

section Search

variable {α : Type} [NatCast α] (env : Env α)

/-- `value[key]`: the field of an object, `Null` for a missing key or any other value. -/
def index (j : Json α) (key : String) : Json α := (j.get key).getD .null

/-- `value[key].as_str().unwrap_or("")`. -/
def strField (j : Json α) (key : String) : String := ((index j key).asStr).getD ""

/-- `value.as_array().and_then(|a| a.first()).and_then(|v| v.as_str()).unwrap_or("")`. -/
def firstString (j : Json α) : String := ((j.asArray.bind List.head?).bind asStr).getD ""

def asU64 : Json α → Option Nat
  | .number x => env.toU64 x
  | _ => none

/-- `s.parse::<u64>()`: an optional `+`, then one or more ASCII digits, below `2 ^ 64`. -/
def parseU64 (s : String) : Option Nat :=
  let digits := match s.data with
    | '+' :: rest => rest
    | cs => cs
  if digits ≠ [] ∧ digits.all Char.isDigit then
    let n := digits.foldl (fun n c => 10 * n + (c.toNat - '0'.toNat)) 0
    if n < 2 ^ 64 then some n else none
  else none

/-- The `ExternalService` error of a failed request, by the stage that failed. -/
def serviceError (sendFailed decodeFailed : String) : FetchError → ToolError
  | .send e => .externalService (sendFailed ++ ": " ++ e)
  | .decode e => .externalService (decodeFailed ++ ": " ++ e)

def pubmedArticle (id : String) (article : Json α) : Json α :=
  let authors := ((index article "authors").asArray.map fun a =>
    a.filterMap fun au => (index au "name").asStr).getD []
  .object [("pmid", .string id), ("title", .string (strField article "title")),
    ("authors", .array (authors.map .string)),
    ("journal", .string (strField article "fulljournalname")),
    ("pub_date", .string (strField article "pubdate")),
    ("doi", .string (strField article "elocationid")),
    ("url", .string ("https://pubmed.ncbi.nlm.nih.gov/" ++ id ++ "/"))]

def searchPubmed (query : String) (maxResults : Nat) : Except ToolError (Json α) := do
  let searchUrl := "https://eutils.ncbi.nlm.nih.gov/entrez/eutils/esearch.fcgi?db=pubmed&term=" ++
    env.encode query ++ "&retmax=" ++ toString maxResults ++ "&retmode=json"
  let searchJson ← (env.json searchUrl).mapError
    (serviceError "PubMed search failed" "PubMed parse failed")
  let ids := ((index (index searchJson "esearchresult") "idlist").asArray.map
    (·.filterMap asStr)).getD []
  if ids.isEmpty then
    return .object [("source", .string "pubmed"), ("results", .array []),
      ("total", .number ((0 : Nat) : α))]
  let summaryUrl := "https://eutils.ncbi.nlm.nih.gov/entrez/eutils/esummary.fcgi?db=pubmed&id=" ++
    ",".intercalate ids ++ "&retmode=json"
  let summaryJson ← (env.json summaryUrl).mapError
    (serviceError "PubMed summary failed" "PubMed summary parse failed")
  let articles := match summaryJson.get "result" with
    | some result => ids.filterMap fun id => (result.get id).map (pubmedArticle id)
    | none => []
  let total := (((index (index searchJson "esearchresult") "count").asStr).bind parseU64).getD 0
  return .object [("source", .string "pubmed"), ("results", .array articles),
    ("total", .number total), ("returned", .number articles.length)]

def searchArxiv (query : String) (maxResults : Nat) : Except ToolError (Json α) := do
  let url := "https://export.arxiv.org/api/query?search_query=all:" ++ env.encode query ++
    "&start=0&max_results=" ++ toString maxResults
  let body ← (env.text url).mapError (serviceError "arXiv search failed" "arXiv read failed")
  let articles : List (Json α) := parseArxivAtom body
  return .object [("source", .string "arxiv"), ("results", .array articles),
    ("returned", .number articles.length)]

/-- An author of CrossRef: `format!("{} {}", given, family).trim()`. -/
def crossrefAuthor (au : Json α) : String :=
  trim (strField au "given" ++ " " ++ strField au "family")

def crossrefArticle (item : Json α) : Json α :=
  let authors := ((index item "author").asArray.map (·.map crossrefAuthor)).getD []
  let published := ((((index (index item "published-print") "date-parts").asArray.or
    (index (index item "published-online") "date-parts").asArray).bind List.head?).map
      env.display).getD ""
  .object [("doi", .string (strField item "DOI")),
    ("title", .string (firstString (index item "title"))),
    ("authors", .array (authors.map .string)),
    ("journal", .string (firstString (index item "container-title"))),
    ("published", .string published), ("url", .string (strField item "URL")),
    ("type", .string (strField item "type")),
    ("citations", .number ((asU64 env (index item "is-referenced-by-count")).getD 0))]

def searchCrossref (query : String) (maxResults : Nat) : Except ToolError (Json α) := do
  let url := "https://api.crossref.org/works?query=" ++ env.encode query ++ "&rows=" ++
    toString maxResults
  let data ← (env.json url).mapError
    (serviceError "CrossRef search failed" "CrossRef parse failed")
  let articles :=
    (((index (index data "message") "items").asArray).getD []).map (crossrefArticle env)
  let total := (asU64 env (index (index data "message") "total-results")).getD 0
  return .object [("source", .string "crossref"), ("results", .array articles),
    ("total", .number total), ("returned", .number articles.length)]

/-- A source's result, or its error as `{"error": text}`. -/
def orError : Except ToolError (Json α) → Json α
  | .ok v => v
  | .error e => .object [("error", .string (env.errorText e))]

def unknownSource (source : String) : ToolError :=
  .invalidParameters ("unknown source: '" ++ source ++
    "'. Use 'pubmed', 'arxiv', 'crossref', or 'all'")

/-- The number of results asked of each source: `max_results` as a `u64`, 5 without one,
at most 20. -/
def maxResultsOf (params : Json α) : Nat :=
  min (((params.get "max_results").bind (asU64 env)).getD 5) 20

/-- `ScienceSearchTool::execute`, less the elapsed time it reports. -/
def execute (params : Json α) : Except ToolError (Json α) := do
  let query ← requireStr params "query"
  let source := ((params.get "source").bind asStr).getD "all"
  let maxResults := maxResultsOf env params
  let results ← match source with
    | "pubmed" => return .object [("pubmed", ← searchPubmed env query maxResults)]
    | "arxiv" => return .object [("arxiv", ← searchArxiv env query maxResults)]
    | "crossref" => return .object [("crossref", ← searchCrossref env query maxResults)]
    | "all" => return .object [("pubmed", orError env (searchPubmed env query maxResults)),
        ("arxiv", orError env (searchArxiv env query maxResults)),
        ("crossref", orError env (searchCrossref env query maxResults))]
    | _ => throw (unknownSource source)
  return .object [("query", .string query), ("results", results)]

end Search

end Ironclaw.Search
