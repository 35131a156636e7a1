import FacetedSearch.Query.Assembly
import FacetedSearch.Service.Counters
import FacetedSearch.Service.MediaType

/-!
# The search service

Clients post requests to the service and get the query back, or a report that explains it. `answer`
is what one call is answered and which events it causes; `serve` answers calls one after the other
and keeps the counters.
-/

namespace FacetedSearch.Service

open Json (Codec Record Slot)

/-! ## Calls and replies -/

/-- A call to the service. -/
structure Call where
  method : String
  target : String
  contentType : Option String
  body : String

/-- What a call is answered, but for its headers. -/
structure Reply where
  status : Nat
  body : String
  deriving DecidableEq

/-- The characters of the scheme that a target may begin with: ASCII letters, digits and four marks.
-/
def isSchemeChar (c : Char) : Bool :=
  c.isAlphanum || c == '+' || c == '-' || c == '.' || c == '~'

/-- The path of a call's target, which may name a scheme and a host in front and have a query behind
it. -/
def pathOf (target : String) : String :=
  let s := target.toList
  let isEnd (c : Char) : Bool := c == '?' || c == '#'
  let origin :=
    match s.dropWhile (· != ':') with
    | ':' :: '/' :: '/' :: rest =>
      if s.takeWhile (· != ':') |>.all isSchemeChar then
        match rest.dropWhile fun c => c != '/' && !isEnd c with
        | '/' :: path => '/' :: path
        | rest => '/' :: rest
      else s
    | _ => s
  String.ofList (origin.takeWhile fun c => !isEnd c)

/-- What the service offers. -/
inductive Route where
  | health
  | query
  | explain
  | metrics
  deriving DecidableEq

namespace Route

def ofPath? (path : String) : Option Route :=
  [("/health", health), ("/v1/query", query), ("/v1/query/explain", explain),
    ("/metrics", metrics)].lookup path

/-- Requests are posted; the rest is fetched, or asked for without its body. -/
def allows (route : Route) (method : String) : Bool :=
  match route with
  | .query => method == "POST"
  | .explain => method == "POST"
  | .health => method == "GET" || method == "HEAD"
  | .metrics => method == "GET" || method == "HEAD"

end Route

/-! ## Bodies -/

/-- A request as it is posted: the form, the output format, and whether documents need an
attachment. -/
structure Posted where
  form : RequestForm
  format : Option Format
  suppress : Bool

namespace Posted

def record : Record Posted where
  name := "Posted"
  blank := ⟨RequestForm.record.blank, none, true⟩
  slots := [
    (Slot.field "spec" RequestForm.codec (·.form) fun x posted => { posted with form := x }).needed,
    Slot.field "format" Format.codec.optional (·.format) fun x posted =>
      { posted with format := x },
    Slot.field "suppressAttachmentless" .boolean (·.suppress) fun x posted =>
      { posted with suppress := x }]

def codec : Codec Posted := .record record

end Posted

/-- Why a posted request is refused. -/
inductive Rejection where
  | notJson
  | unreadable (fault : Fault)
  | invalid (cause : Request.Error)

/-- The words in which a client learns of a refusal. Of a body that cannot be read they tell whether
its syntax or its values are at fault; the words for the fault itself, which a client is told behind
them, are left out. -/
def Rejection.message : Rejection → String
  | .notJson => "Expected request with `Content-Type: application/json`"
  | .unreadable (.malformed _) => "Failed to parse the request body as JSON"
  | .unreadable (.mismatch _) => "Failed to deserialize the JSON body into the target type"
  | .invalid cause => cause.message

/-- A posted request that can be answered. -/
structure Accepted where
  request : Request
  format : Format
  suppress : Bool

/-- What a call posts. Nothing is asked of the text behind the value that it posts. The limit on the
size of a body is left out: a body over it is refused unread, with words of its own. -/
def accept (call : Call) : Except Rejection Accepted :=
  if call.contentType.any MediaType.isJson then
    match Posted.codec.decodeHead call.body with
    | .error fault => .error (.unreadable fault)
    | .ok posted =>
      match Request.ofForm posted.form with
      | .error cause => .error (.invalid cause)
      | .ok request => .ok ⟨request, posted.format.getD .json, posted.suppress⟩
  else .error .notJson

/-! ## Replies -/

def reject (rejection : Rejection) : Reply × List Event :=
  (⟨400, (Json.object [("error", .text rejection.message)]).compact⟩, [.refused])

/-- The query of an accepted request. -/
def Accepted.query (accepted : Accepted) (config : Config) : String :=
  accepted.request.query config accepted.format accepted.suppress

/-- The skipped fields of a request, by reason. -/
def skippedEvents (request : Request) (config : Config) : List Event :=
  (request.contributions config).filterMap fun contribution =>
    contribution.skipReason?.map fun reason => .skipped reason.label

/-- The query of a posted request. -/
def replyQuery (config : Config) (call : Call) : Reply × List Event :=
  match accept call with
  | .error rejection => reject rejection
  | .ok accepted =>
    (⟨200, (Json.object [("query", .text (accepted.query config))]).compact⟩,
      skippedEvents accepted.request config ++ [.timed, .answered])

/-- The report on a posted request. Only refusals are counted. -/
def replyExplain (config : Config) (call : Call) : Reply × List Event :=
  match accept call with
  | .error rejection => reject rejection
  | .ok accepted =>
    (⟨200, (Report.json (accepted.request.explain config) (accepted.query config)).compact⟩, [])

/-- The reply of a route to a call that it allows. -/
def Route.reply (route : Route) (config : Config) (counters : Counters) (call : Call) :
    Reply × List Event :=
  match route with
  | .health => (⟨200, "ok"⟩, [])
  | .metrics => (⟨200, counters.text⟩, [])
  | .query => replyQuery config call
  | .explain => replyExplain config call

/-- What a call is answered, and what is counted. Browsers may ask anywhere which calls are allowed.
-/
def answer (config : Config) (counters : Counters) (call : Call) : Reply × List Event :=
  if call.method = "OPTIONS" then (⟨200, ""⟩, [])
  else
    match Route.ofPath? (pathOf call.target) with
    | none => (⟨404, ""⟩, [])
    | some route =>
      if route.allows call.method then
        let (reply, events) := route.reply config counters call
        (if call.method = "HEAD" then { reply with body := "" } else reply, events)
      else (⟨405, ""⟩, [])

/-- Answers calls one after the other. -/
def serve (config : Config) (counters : Counters) : List Call → Counters × List Reply
  | [] => (counters, [])
  | call :: rest =>
    let (reply, events) := answer config counters call
    let (counters, replies) := serve config (counters.countAll events) rest
    (counters, reply :: replies)

end FacetedSearch.Service
