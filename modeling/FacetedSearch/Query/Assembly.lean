import FacetedSearch.Query.Facets
import FacetedSearch.Query.Params
import FacetedSearch.Query.Report

/-!
# The query of a request

A query is a list of parameters in a fixed order of groups:

```text q  fq...  sort  facet.field...  f.<field>.facet.sort... rows  start  cursorMark  facet.limit
facet.sort  facet=on  <format> ```

`Request.parameters` is that list and `Request.query` its text. Each group is a definition of its
own.
-/

namespace FacetedSearch

/-- The query that documents have to match in any case. With `suppress` they also need an
attachment. -/
def Config.base (config : Config) (suppress : Bool) : String :=
  if suppress then config.baseQuery ++ " AND " ++ config.attachmentField ++ ":*"
  else config.baseQuery

/-- A text that counts as absent when it is empty. -/
def nonEmptyOr (text : Option String) (default : String) : String :=
  match text with
  | some text => if text = "" then default else text
  | none => default

namespace Request

/-- The mark of a cursor that has not moved. -/
def firstMark : String := "*"

/-- The order of counts that is used when none is asked for. -/
def defaultFacetSort : String := "index"

/-- The limit that is none. -/
def noFacetLimit : Int64 := -1

variable (request : Request) (config : Config)

/-- What becomes of the fields. -/
def contributions : List Contribution := (request.explain config).map (·.contribution)

def sortKeys : List SortKey :=
  SortKey.order request.selectors config.defaultSort request.paging.idField?

def facetFields : List String :=
  Facets.declared request.searchFields (request.contributions config)

/-- The limit on the number of counts; zero counts as absent. -/
def effectiveFacetLimit : Int64 :=
  match request.facetLimit with
  | some limit => if limit = 0 then noFacetLimit else limit
  | none => noFacetLimit

/-- A parameter with a number. -/
def numberParameter (key : String) (n : Int) : Parameter := ⟨key, String.ofList (signedNumeral n)⟩

def clauseParameters : List Parameter :=
  (Report.clauses (request.explain config)).map fun clause => ⟨"fq", clause.text⟩

def sortParameter : Parameter :=
  ⟨"sort", String.intercalate "," ((request.sortKeys config).map SortKey.text)⟩

def facetParameters : List Parameter :=
  (request.facetFields config).map fun name => ⟨"facet.field", name⟩

def overrideParameters : List Parameter :=
  (Facets.overrides request.searchFields).map fun override =>
    ⟨"f." ++ override.1 ++ ".facet.sort", override.2⟩

def startParameters : List Parameter :=
  (request.start.map fun start => numberParameter "start" start.toNat).toList

def cursorParameters : List Parameter :=
  match request.paging with
  | .pages => []
  | .cursor mark _ => [⟨"cursorMark", nonEmptyOr mark firstMark⟩]

def countParameters : List Parameter :=
  [numberParameter "facet.limit" request.effectiveFacetLimit.toInt,
    ⟨"facet.sort", nonEmptyOr request.facetSort defaultFacetSort⟩,
    ⟨"facet", "on"⟩]

def formatParameters (format : Format) : List Parameter :=
  format.entries.map fun entry => ⟨entry.1, entry.2⟩

/-- The parameters of the query, in order. -/
def parameters (format : Format) (suppress : Bool) : List Parameter :=
  ⟨"q", config.base suppress⟩ :: request.clauseParameters config ++
    request.sortParameter config :: request.facetParameters config ++
    request.overrideParameters ++
    numberParameter "rows" request.rows.toNat :: request.startParameters ++
    request.cursorParameters ++ request.countParameters ++ formatParameters format

/-- The parameters as they are written. -/
def params (format : Format) (suppress : Bool) : Params :=
  .ofParameters (request.parameters config format suppress)

/-- The query string. -/
def query (format : Format) (suppress : Bool) : String :=
  (request.params config format suppress).text

end Request

end FacetedSearch
