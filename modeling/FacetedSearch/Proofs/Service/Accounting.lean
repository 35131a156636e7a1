import FacetedSearch.Proofs.Entries
import FacetedSearch.Proofs.Query.Leading
import FacetedSearch.Service.Handler
import Mathlib.Algebra.BigOperators.Group.List.Basic
import Mathlib.Algebra.GroupWithZero.Nat

/-!
# The counters account for the history of the service

`serve_accounts` relates the counters of a service to the calls it has answered: how many queries
were given, how many requests were refused, and how many fields were skipped for which reason.

What a call adds to a counter can be read off the call and its reply (`count_events_answer`), so a
counter is the sum over the turns of a run (`get_serve`). The fields that are skipped are those
without a clause in the query, because each contribution has either a clause or one label.
-/

namespace FacetedSearch

/-! ## Reasons -/

/-- The labels of the reasons to skip a field. -/
def SkipReason.labels : List String :=
  ["empty_value", "too_few_bounds", "shape_mismatch", "missing_bound_field", "unrecognized_kind"]

namespace Contribution

/-- A contribution is skipped for a reason with the label. -/
def isSkippedAs (contribution : Contribution) (label : String) : Bool :=
  contribution.skipReason?.any (·.label == label)

/-- A contribution has a clause, or one label. -/
theorem sum_isSkippedAs_add_clause (contribution : Contribution) :
    (SkipReason.labels.map fun label => if contribution.isSkippedAs label then 1 else 0).sum +
      contribution.clause?.toList.length = 1 := by
  cases contribution with
  | filter clause | path facetField clause => rfl
  | skipped reason => cases reason <;> rfl

/-- Of several contributions, those skipped for each label and the clauses make up all. -/
theorem sum_countP_isSkippedAs_add_clauses (contributions : List Contribution) :
    (SkipReason.labels.map fun label => contributions.countP (·.isSkippedAs label)).sum +
      (contributions.filterMap clause?).length = contributions.length := by
  induction contributions with
  | nil => rfl
  | cons contribution rest ih =>
    have hone := contribution.sum_isSkippedAs_add_clause
    have hlength : ((contribution :: rest).filterMap clause?).length =
        contribution.clause?.toList.length + (rest.filterMap clause?).length := by
      cases h : contribution.clause? <;> simp [h, Nat.add_comm]
    simp only [List.countP_cons, List.sum_map_add, hlength, List.length_cons]
    omega

end Contribution

namespace Service

/-! ## Counting events -/

namespace Event

/-- The name of a counter for skipped fields holds its label between two fixed parts. -/
theorem sample_skipped (label : String) :
    (skipped label).sample = "filters_skipped_total\x7breason=\"" ++ label ++ "\"\x7d" := rfl

/-- The name of a counter for skipped fields begins like no other name. -/
theorem head?_sample_skipped (label : String) :
    (skipped label).sample.toList.head? = some 'f' := by
  have hfirst : "filters_skipped_total\x7breason=\"".toList.head? = some 'f' := by decide
  rw [sample_skipped, String.toList_append, String.toList_append, List.append_assoc,
    List.head?_append, hfirst, Option.some_or]

/-- A counter whose name begins otherwise is not one for skipped fields. -/
theorem sample_ne_skipped {event : Event} (h : event.sample.toList.head? = some 'q')
    (label : String) : event.sample ≠ (skipped label).sample := by
  intro heq
  rw [heq, head?_sample_skipped] at h
  revert h
  decide

/-- No two events are counted under one name. -/
theorem sample_injective {event event' : Event} (h : event.sample = event'.sample) :
    event = event' := by
  cases event with
  | skipped label =>
    cases event' with
    | skipped label' =>
      rw [sample_skipped, sample_skipped, String.append_left_inj, String.append_right_inj] at h
      rw [h]
    | answered | refused | timed => exact absurd h.symm (sample_ne_skipped (by decide) label)
  | answered =>
    cases event' with
    | skipped label' => exact absurd h (sample_ne_skipped (by decide) label')
    | answered => rfl
    | refused | timed => exact absurd h (by decide)
  | refused =>
    cases event' with
    | skipped label' => exact absurd h (sample_ne_skipped (by decide) label')
    | refused => rfl
    | answered | timed => exact absurd h (by decide)
  | timed =>
    cases event' with
    | skipped label' => exact absurd h (sample_ne_skipped (by decide) label')
    | timed => rfl
    | answered | refused => exact absurd h (by decide)

end Event

namespace Counters

variable (counters : Counters)

/-- Counting an event adds one to its own counter and nothing to any other. -/
theorem get_count (event event' : Event) :
    (counters.count event).get event'.sample =
      counters.get event'.sample + if event = event' then 1 else 0 := by
  rw [count, get, Keyed.lookup_put]
  by_cases h : event = event'
  · rw [if_pos (congrArg Event.sample h.symm), if_pos h, h]
    rfl
  · rw [if_neg fun hsample => h (Event.sample_injective hsample).symm, if_neg h]
    rfl

/-- Counting several events adds to each counter how often its event is among them. -/
theorem get_countAll (events : List Event) (event : Event) :
    (counters.countAll events).get event.sample = counters.get event.sample + events.count event := by
  induction events generalizing counters with
  | nil => rfl
  | cons first rest ih =>
    rw [countAll, List.foldl_cons, ← countAll, ih, get_count, List.count_cons]
    simp only [beq_iff_eq]
    omega

end Counters

/-! ## One call -/

/-- A call that posts a request to a path. -/
def Call.posts (call : Call) (path : String) : Bool :=
  call.method == "POST" && pathOf call.target == path

/-- The paths of the routes, one for each. -/
theorem Route.ofPath?_eq_some_iff {path : String} {route : Route} :
    Route.ofPath? path = some route ↔
      (path = "/health" ∧ route = .health) ∨ (path = "/v1/query" ∧ route = .query) ∨
        (path = "/v1/query/explain" ∧ route = .explain) ∨ (path = "/metrics" ∧ route = .metrics) := by
  simp only [Route.ofPath?, Keyed.lookup_cons_eq_ite, List.lookup_nil]
  grind

variable (config : Config) (counters : Counters) {call : Call}

/-- A request that is posted for its query is answered as such. -/
theorem answer_of_posts_query (h : call.posts "/v1/query" = true) :
    answer config counters call = replyQuery config call := by
  simp only [Call.posts, Bool.and_eq_true, beq_iff_eq] at h
  have hroute : Route.ofPath? "/v1/query" = some .query := by decide
  rw [answer, h.1, h.2, hroute]
  rfl

/-- A request that is posted for its report is answered as such. -/
theorem answer_of_posts_explain (h : call.posts "/v1/query/explain" = true) :
    answer config counters call = replyExplain config call := by
  simp only [Call.posts, Bool.and_eq_true, beq_iff_eq] at h
  have hroute : Route.ofPath? "/v1/query/explain" = some .explain := by decide
  rw [answer, h.1, h.2, hroute]
  rfl

/-- Only posted requests are counted. -/
theorem events_of_not_posts (hquery : call.posts "/v1/query" = false)
    (hexplain : call.posts "/v1/query/explain" = false) :
    (answer config counters call).2 = [] := by
  simp only [Call.posts, Bool.and_eq_false_iff, beq_eq_false_iff_ne] at hquery hexplain
  rw [answer]
  split
  · rfl
  cases hroute : Route.ofPath? (pathOf call.target) with
  | none => rfl
  | some route =>
    have hpath := Route.ofPath?_eq_some_iff.mp hroute
    cases route with
    | health | metrics =>
      dsimp only
      split <;> rfl
    | query =>
      have hmethod : call.method ≠ "POST" := by
        simp only [reduceCtorEq, and_false, and_true, or_false, false_or] at hpath
        simpa [hpath] using hquery
      simp [Route.allows, hmethod]
    | explain =>
      have hmethod : call.method ≠ "POST" := by
        simp only [reduceCtorEq, and_false, and_true, or_false, false_or] at hpath
        simpa [hpath] using hexplain
      simp [Route.allows, hmethod]

/-- A call that posts to the query is answered with it, or refused. -/
theorem replyQuery_cases (call : Call) :
    (∃ accepted, accept call = .ok accepted ∧ (replyQuery config call).1.status = 200 ∧
      (replyQuery config call).2 = skippedEvents accepted.request config ++ [.timed, .answered]) ∨
    ((∃ rejection, accept call = .error rejection) ∧ (replyQuery config call).1.status = 400 ∧
      (replyQuery config call).2 = [.refused]) := by
  rw [replyQuery]
  cases accept call with
  | ok accepted => exact .inl ⟨accepted, rfl, rfl, rfl⟩
  | error rejection => exact .inr ⟨⟨rejection, rfl⟩, rfl, rfl⟩

/-- A call that posts to the report is answered with it, or refused. -/
theorem replyExplain_cases (call : Call) :
    ((∃ accepted, accept call = .ok accepted) ∧ (replyExplain config call).1.status = 200 ∧
      (replyExplain config call).2 = []) ∨
    ((∃ rejection, accept call = .error rejection) ∧ (replyExplain config call).1.status = 400 ∧
      (replyExplain config call).2 = [.refused]) := by
  rw [replyExplain]
  cases accept call with
  | ok accepted => exact .inl ⟨⟨accepted, rfl⟩, rfl, rfl⟩
  | error rejection => exact .inr ⟨⟨rejection, rfl⟩, rfl, rfl⟩

/-! ## What a turn adds -/

/-- A call and its reply. -/
abbrev Turn := Call × Reply

namespace Turn

/-- A query that was asked for and given. -/
def isAnswered (turn : Turn) : Bool := turn.1.posts "/v1/query" && turn.2.status == 200

/-- A request that was posted, for its query or for its report. -/
def isPosted (turn : Turn) : Bool :=
  turn.1.posts "/v1/query" || turn.1.posts "/v1/query/explain"

/-- A request that was posted and refused. -/
def isRefused (turn : Turn) : Bool := turn.isPosted && turn.2.status == 400

/-- The request whose query was given. -/
def accepted? (turn : Turn) : Option Accepted :=
  if turn.isAnswered then (accept turn.1).toOption else none

end Turn

/-- The fields of an accepted request that are skipped for a reason with a label. -/
def Accepted.skippedAs (accepted : Accepted) (config : Config) (label : String) : Nat :=
  (accepted.request.contributions config).countP (·.isSkippedAs label)

/-- A label is counted once for every contribution that is skipped for it. -/
theorem count_skippedEvents (request : Request) (label : String) :
    (skippedEvents request config).count (.skipped label) =
      (request.contributions config).countP (·.isSkippedAs label) := by
  rw [skippedEvents]
  induction request.contributions config with
  | nil => rfl
  | cons contribution rest ih =>
    cases hreason : contribution.skipReason? with
    | none => simpa [Contribution.isSkippedAs, hreason] using ih
    | some reason => simp [Contribution.isSkippedAs, hreason, ih, List.count_cons, List.countP_cons]

/-- Nothing but labels is counted for the skipped fields of a request. -/
theorem count_skippedEvents_of_ne {event : Event} (h : ∀ label, event ≠ .skipped label)
    (request : Request) : (skippedEvents request config).count event = 0 := by
  rw [List.count_eq_zero, skippedEvents, List.mem_filterMap]
  rintro ⟨contribution, _, hevent⟩
  obtain ⟨reason, _, rfl⟩ := Option.map_eq_some_iff.mp hevent
  exact h _ rfl

/-- What a turn adds to a counter. -/
def weight (config : Config) (event : Event) (turn : Turn) : Nat :=
  match event with
  | .answered | .timed => if turn.isAnswered then 1 else 0
  | .refused => if turn.isRefused then 1 else 0
  | .skipped label => (turn.accepted?.map (·.skippedAs config label)).getD 0

/-- The events of a call are those that its reply accounts for. -/
theorem count_events_answer (call : Call) (event : Event) :
    (answer config counters call).2.count event =
      weight config event (call, (answer config counters call).1) := by
  by_cases hquery : call.posts "/v1/query" = true
  · rw [answer_of_posts_query config counters hquery]
    rcases replyQuery_cases config call with ⟨accepted, haccept, hstatus, hevents⟩ |
      ⟨⟨rejection, haccept⟩, hstatus, hevents⟩
    · rw [hevents, List.count_append]
      cases event with
      | skipped label =>
        simp [weight, Turn.accepted?, Turn.isAnswered, hquery, hstatus, haccept, Except.toOption,
          count_skippedEvents, Accepted.skippedAs]
      | answered | timed | refused =>
        rw [count_skippedEvents_of_ne config (by simp)]
        simp [weight, Turn.isAnswered, Turn.isRefused, hquery, hstatus]
    · rw [hevents]
      cases event <;>
        simp [weight, Turn.accepted?, Turn.isAnswered, Turn.isRefused, Turn.isPosted, hquery,
          hstatus]
  by_cases hexplain : call.posts "/v1/query/explain" = true
  · rw [answer_of_posts_explain config counters hexplain]
    rcases replyExplain_cases config call with ⟨_, hstatus, hevents⟩ | ⟨_, hstatus, hevents⟩ <;>
      rw [hevents] <;>
      cases event <;>
        simp [weight, Turn.accepted?, Turn.isAnswered, Turn.isRefused, Turn.isPosted, hquery,
          hexplain, hstatus]
  · rw [Bool.not_eq_true] at hquery hexplain
    rw [events_of_not_posts config counters hquery hexplain]
    cases event <;>
      simp [weight, Turn.accepted?, Turn.isAnswered, Turn.isRefused, Turn.isPosted, hquery, hexplain]

/-! ## A whole history -/

theorem serve_cons (call : Call) (calls : List Call) :
    serve config counters (call :: calls) =
      ((serve config (counters.countAll (answer config counters call).2) calls).1,
        (answer config counters call).1 ::
          (serve config (counters.countAll (answer config counters call).2) calls).2) := rfl

/-- A counter has grown by what each turn of a run adds to it. -/
theorem get_serve (event : Event) (counters : Counters) (calls : List Call) :
    (serve config counters calls).1.get event.sample = counters.get event.sample +
      ((calls.zip (serve config counters calls).2).map (weight config event)).sum := by
  induction calls generalizing counters with
  | nil => simp [serve]
  | cons call calls ih =>
    rw [serve_cons]
    simp only [List.zip_cons_cons, List.map_cons, List.sum_cons, ih, Counters.get_countAll,
      count_events_answer]
    omega

theorem length_serve (counters : Counters) (calls : List Call) :
    (serve config counters calls).2.length = calls.length := by
  induction calls generalizing counters with
  | nil => rfl
  | cons call calls ih => exact congrArg (· + 1) (ih _)

/-- Every turn of a run is a call and what it is answered in some state of the counters. -/
theorem exists_answer_of_mem_zip {counters : Counters} {calls : List Call} {turn : Turn}
    (h : turn ∈ calls.zip (serve config counters calls).2) :
    ∃ counters, turn = (turn.1, (answer config counters turn.1).1) := by
  induction calls generalizing counters with
  | nil => simp [serve] at h
  | cons call calls ih =>
    rcases List.mem_cons.mp h with rfl | h
    · exact ⟨counters, rfl⟩
    · exact ih h

/-- A posted request is answered or refused. -/
theorem status_answer (h : Turn.isPosted (call, (answer config counters call).1) = true) :
    (answer config counters call).1.status = 200 ∨
      (answer config counters call).1.status = 400 := by
  rw [Turn.isPosted, Bool.or_eq_true] at h
  rcases h with hquery | hexplain
  · rw [answer_of_posts_query config counters hquery]
    rcases replyQuery_cases config call with ⟨_, _, hstatus, _⟩ | ⟨_, hstatus, _⟩
    · exact .inl hstatus
    · exact .inr hstatus
  · rw [answer_of_posts_explain config counters hexplain]
    rcases replyExplain_cases config call with ⟨_, hstatus, _⟩ | ⟨_, hstatus, _⟩
    · exact .inl hstatus
    · exact .inr hstatus

/-- A query that was given is the query of an accepted request. -/
theorem isSome_accepted? (h : Turn.isAnswered (call, (answer config counters call).1) = true) :
    (Turn.accepted? (call, (answer config counters call).1)).isSome = true := by
  rw [Turn.accepted?, if_pos h]
  simp only [Turn.isAnswered, Bool.and_eq_true, beq_iff_eq] at h
  rw [answer_of_posts_query config counters h.1] at h
  rcases replyQuery_cases config call with ⟨accepted, haccept, _, _⟩ | ⟨_, hstatus, _⟩
  · rw [haccept]
    rfl
  · rw [hstatus] at h
    simp at h

/-- One for each turn of a sort, summed over the turns, is the number of those turns. -/
theorem sum_map_indicator (p : Turn → Bool) (turns : List Turn) :
    (turns.map fun turn => if p turn then 1 else 0).sum = turns.countP p := by
  induction turns with
  | nil => rfl
  | cons turn turns ih =>
    rw [List.map_cons, List.sum_cons, ih, List.countP_cons]
    omega

/-- A turn that is not an answered query adds to no counter but that of refusals. -/
theorem weight_eq_zero {turn : Turn} (h : turn.isAnswered = false) {event : Event}
    (hevent : event ≠ .refused) : weight config event turn = 0 := by
  cases event with
  | refused => exact absurd rfl hevent
  | answered | timed => simp [weight, h]
  | skipped label => simp [weight, Turn.accepted?, h]

/-- A label is added to by the accepted requests, as often as each has skipped a field for it. -/
theorem sum_weight_skipped (label : String) (turns : List Turn) :
    (turns.map (weight config (.skipped label))).sum =
      ((turns.filterMap Turn.accepted?).map (·.skippedAs config label)).sum := by
  induction turns with
  | nil => rfl
  | cons turn turns ih => cases h : turn.accepted? <;> simp [weight, h, ih]

/-- The clauses of an accepted request, as they stand in its query. -/
def Accepted.clauseValues (accepted : Accepted) (config : Config) : List String :=
  (accepted.request.leadingParams config accepted.format accepted.suppress).getAll "fq"

/-- The clauses in a query are those of the contributions that are not skipped. -/
theorem length_clauseValues (accepted : Accepted) :
    (accepted.clauseValues config).length =
      ((accepted.request.contributions config).filterMap Contribution.clause?).length := by
  have hkey : Text.Percent.encode "fq" = "fq" := by decide
  have hdecoded := accepted.request.map_decode?_getAll_leadingParams config accepted.format
    accepted.suppress hkey
  rw [accepted.request.valuesAt_leadingParameters config accepted.suppress (by decide)] at hdecoded
  have hlength := congrArg List.length hdecoded
  simpa [Accepted.clauseValues, Request.countParameters, Request.numberParameter,
    Request.clauseParameters, Report.clauses, Request.contributions, List.filterMap_map,
    Function.comp_def] using hlength

/-- The skipped fields of an accepted request and the clauses in its query make up its fields. -/
theorem sum_skippedAs_add_clauseValues (accepted : Accepted) :
    (SkipReason.labels.map (accepted.skippedAs config)).sum +
        (accepted.clauseValues config).length =
      (accepted.request.searchFields ++ accepted.request.filters).length := by
  have htotal := Contribution.sum_countP_isSkippedAs_add_clauses
    (accepted.request.contributions config)
  have hfields : (accepted.request.contributions config).length =
      (accepted.request.searchFields ++ accepted.request.filters).length := by
    rw [Request.contributions, Request.explain, Request.fields, List.length_map, List.length_map]
  rw [length_clauseValues, ← hfields, ← htotal]
  rfl

/-- Summing over the labels and then the requests or the other way round is the same. -/
theorem sum_sum_skippedAs (labels : List String) (requests : List Accepted) :
    (labels.map fun label => (requests.map (·.skippedAs config label)).sum).sum =
      (requests.map fun accepted => (labels.map (accepted.skippedAs config)).sum).sum := by
  induction requests with
  | nil => simp
  | cons accepted requests ih => simp only [List.map_cons, List.sum_cons, List.sum_map_add, ih]

/-- The counters of a service that began with none account for its history. The answered and the
refused requests are each counted once, and a posted request is one or the other. Each label has
been counted as often as a field of a request whose query was given was skipped for it, so that all
labels together and the clauses in those queries make up the fields of those requests. A call that
is refused or that asks for a report changes no count but that of refusals. -/
theorem serve_accounts (config : Config) (calls : List Call) :
    let counters := (serve config .zero calls).1
    let replies := (serve config .zero calls).2
    let turns : List Turn := calls.zip replies
    let requests := turns.filterMap Turn.accepted?
    replies.length = calls.length ∧
    counters.get Event.answered.sample = turns.countP Turn.isAnswered ∧
    counters.get Event.refused.sample = turns.countP Turn.isRefused ∧
    (∀ turn ∈ turns, turn.isPosted = true → turn.2.status = 200 ∨ turn.2.status = 400) ∧
    requests.length = turns.countP Turn.isAnswered ∧
    (∀ label, counters.get (Event.skipped label).sample =
      (requests.map (·.skippedAs config label)).sum) ∧
    (SkipReason.labels.map fun label => counters.get (Event.skipped label).sample).sum +
        (requests.map fun accepted => (accepted.clauseValues config).length).sum =
      (requests.map fun accepted =>
        (accepted.request.searchFields ++ accepted.request.filters).length).sum ∧
    ∀ (before : Counters) (call : Call),
      ((answer config before call).1.status = 400 ∨ call.posts "/v1/query/explain" = true) →
      ∀ event, event ≠ Event.refused →
        (before.countAll (answer config before call).2).get event.sample =
          before.get event.sample := by
  intro counters replies turns requests
  have hget : ∀ event, counters.get event.sample = (turns.map (weight config event)).sum := by
    intro event
    have hrun := get_serve config event .zero calls
    have hzero : Counters.zero.get event.sample = 0 := rfl
    rwa [hzero, Nat.zero_add] at hrun
  have hskipped : ∀ label, counters.get (Event.skipped label).sample =
      (requests.map (·.skippedAs config label)).sum := by
    intro label
    rw [hget, sum_weight_skipped]
  refine ⟨length_serve config .zero calls, ?_, ?_, ?_, ?_, hskipped, ?_, ?_⟩
  · rw [hget]
    exact sum_map_indicator _ _
  · rw [hget]
    exact sum_map_indicator _ _
  · intro turn hturn hposted
    obtain ⟨before, hanswer⟩ := exists_answer_of_mem_zip config hturn
    rw [hanswer] at hposted ⊢
    exact status_answer config before hposted
  · rw [List.length_filterMap_eq_countP]
    refine List.countP_congr fun turn hturn => ?_
    obtain ⟨before, hanswer⟩ := exists_answer_of_mem_zip config hturn
    rw [hanswer]
    refine ⟨fun h => ?_, isSome_accepted? config before⟩
    rw [Turn.accepted?] at h
    split at h
    · assumption
    · cases h
  · simp only [hskipped, sum_sum_skippedAs]
    rw [← List.sum_map_add]
    simp only [sum_skippedAs_add_clauseValues]
  · intro before call hquiet event hevent
    have hanswered : Turn.isAnswered (call, (answer config before call).1) = false := by
      rcases hquiet with hstatus | hexplain
      · simp [Turn.isAnswered, hstatus]
      · simp only [Call.posts, Bool.and_eq_true, beq_iff_eq] at hexplain
        simp [Turn.isAnswered, Call.posts, hexplain.2]
    rw [Counters.get_countAll, count_events_answer, weight_eq_zero config hanswered hevent,
      Nat.add_zero]

/-- One field is skipped, and one request refused for want of an identifier. -/
theorem serve_accounts_skipped_and_refused :
    let skipping : Call := ⟨"POST", "/v1/query", some "application/json",
      "\x7b\"spec\":\x7b\"rows\":5,\"filters\":[\x7b\"field\":\"year_i\",\"type\":\"range\"," ++
        "\"value\":[2001]\x7d,\x7b\"field\":\"title_t\",\"value\":\"budget\"\x7d]\x7d\x7d"⟩
    let refused : Call := ⟨"POST", "/v1/query/explain", some "application/json",
      "\x7b\"spec\":\x7b\"rows\":5,\"pageStrategy\":\"cursor\"\x7d\x7d"⟩
    let counters := (serve .standard .zero [skipping, refused]).1
    let turn : Turn := (skipping, (answer .standard .zero skipping).1)
    counters.get Event.answered.sample = 1 ∧ counters.get Event.refused.sample = 1 ∧
      (turn ∈ [skipping, refused].zip (serve .standard .zero [skipping, refused]).2 ∧
        turn.isPosted = true ∧ (turn.2.status = 200 ∨ turn.2.status = 400)) ∧
      (answer .standard counters refused).1.status = 400 ∧
      (counters.countAll (answer .standard counters refused).2).get Event.answered.sample = 1 := by
  intro skipping refused counters turn
  obtain ⟨_, hanswered, hrefused, hposted, _, _, _, hquiet⟩ :=
    serve_accounts .standard [skipping, refused]
  have hone : counters.get Event.answered.sample = 1 := by
    rw [hanswered]
    decide +kernel
  have hstatus : (answer .standard counters refused).1.status = 400 := by decide +kernel
  have hturn : turn ∈ [skipping, refused].zip (serve .standard .zero [skipping, refused]).2 := by
    rw [serve_cons, List.zip_cons_cons]
    exact List.mem_cons_self
  have hisPosted : turn.isPosted = true := by decide +kernel
  refine ⟨hone, ?_, ⟨hturn, hisPosted, hposted _ hturn hisPosted⟩, hstatus, ?_⟩
  · rw [hrefused]
    decide +kernel
  · rw [hquiet counters refused (.inl hstatus) .answered (by decide), hone]

end Service

end FacetedSearch
