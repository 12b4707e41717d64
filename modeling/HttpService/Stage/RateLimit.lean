import HttpService.Stage.Basic

/-!
# Rate limits on requests

Each client has its share of requests; one that has used it up is told when to come back.
-/

namespace HttpService.Stage

def limitHeader : String := "x-ratelimit-limit"
def remainingHeader : String := "x-ratelimit-remaining"
def retryAfterHeader : String := "retry-after"

def withShare (r : Response) (limit remaining : Nat) : Response :=
  (r.withHeader limitHeader (toString limit)).withHeader remainingHeader (toString remaining)

/-- The stage of a running limiter, by its number and its rate. -/
def rateLimit (limiter : Nat) (rate : RateLimit) : Stage where
  name := "rate_limit"
  process request next := do
    let c ← Flow.current
    let key := clientKey request.headers c.remote
    match ← Flow.onSite (Site.decide limiter key) with
    | .limited retryAfter =>
        Flow.onSite (Act.modify fun s => { s with meters := s.meters.recordRateLimited })
        Flow.report .warn "rate limit exceeded"
          [("request_id", Flow.shownId c), ("client", key), ("retry_after", toString retryAfter)]
        let f := (Failure.rateLimited "rate limit exceeded").withField "retry_after"
          (.text (toString retryAfter))
        let refusal := Response.ofFailure f c.requestId
        let dated := refusal.withHeader retryAfterHeader (toString retryAfter)
        Act.pure (withShare dated rate.limit 0)
    | .overflow => Act.panic (.text "attempt to add with overflow")
    | .allowed remaining =>
        let response ← next.run request
        Act.pure (withShare response rate.limit remaining)

end HttpService.Stage
