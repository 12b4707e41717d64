import HttpService.Scenario.Setup
import HttpService.Text.Natural

/-!
# Running a scenario

Plays the steps of a description, one after the other, and reports what each has done.
-/

namespace HttpService.Scenario

/-- What the steps of a scenario share. -/
structure Scene where
  site : Site
  /-- The tokens that were issued, the first one first. -/
  tokens : List String := []
  /-- How many transaction calls have been reported. -/
  reported : Nat := 0

/-! ## References in texts -/

def referenced? (s : Scene) (name : String) : Option String :=
  match Text.stripStart? "tok:" name with
  | some n => (Text.natural? n.toList).bind fun i => s.tokens[i]?
  | none =>
      match Text.stripStart? "id:" name with
      | some username => (s.site.directory.byName? username).map fun a => a.user.id
      | none => none

/-- Replaces references to tokens and users; unknown ones stay. The first argument is at least the
length of the text. -/
def fillChars (s : Scene) : Nat → List Char → List Char
  | 0, cs => cs
  | _, [] => []
  | n + 1, '$' :: '\x7b' :: rest =>
      let name := rest.takeWhile (· != '\x7d')
      match referenced? s (String.ofList name), rest.drop name.length with
      | some value, _ :: after => value.toList ++ fillChars s n after
      | _, _ => '$' :: '\x7b' :: fillChars s n rest
  | n + 1, c :: rest => c :: fillChars s n rest

def fill (s : Scene) (text : String) : String :=
  String.ofList (fillChars s text.length text.toList)

/-! ## Requests -/

def requestOf (s : Scene) (j : Json) : Request where
  method := Method.ofName ((asText? (field j "method")).getD "GET")
  target := Target.parse (fill s ((asText? (field j "uri")).getD "/"))
  headers := Headers.ofList ((pairs (field j "headers")).map fun (k, v) => (k, fill s v))
  body := fill s (asText (field j "body"))

/-- The context that a description prepares. -/
def contextOf (s : Site) (j : Json) : Site × Context :=
  let (signals, id) := s.signals.create
  let c := Context.withSignal id
  let c := match (asText? (field j "remote")).bind SocketAddress.parse? with
    | some a => c.withRemote a
    | none => c
  let c := match asText? (field j "ctx_request_id") with
    | some id => c.setRequestId id
    | none => c
  let c := if has j "deadline_ms" then
      c.setDeadline ((s.steady : Int) + asInt (field j "deadline_ms") * 1000000).toNat
    else c
  let signals := if asBool (field j "cancelled") then signals.cancel id else signals
  ({ s with signals := signals, steady := s.steady + 1 }, c)

def viewContext (s : Site) (c : Context) : Json :=
  object
    [("request_id", Json.ofText? c.requestId), ("user", Json.ofOption User.toJson c.user),
     ("transaction_id", Json.ofText? c.transactionId), ("params", viewParams c.params),
     ("cancelled", .bool (s.signals.isCancelled c.signal)),
     ("deadline", .bool c.deadline.isSome)]

/-- The token in a response's data, if there is one. -/
def issuedToken? (r : Response) : Option String :=
  match Json.parse r.body with
  | .ok j => asText? (field (field j "data") "token")
  | .error _ => none

/-- Sends a request on its way and reports how it ended. -/
def request (serve : Request → Act Flow Response) (s : Scene) (j : Json) :
    Scene × List (String × Json) :=
  let asked := requestOf s j
  let (site, c) := contextOf s.site j
  let patience := (asNat? (field j "drop_after_ms")).getD 3600000
  let site := { site with limit := some (site.now + (Span.ofMillis patience).nanos) }
  let (ending, flow) := serve asked { context := c, site := site }
  let site := { flow.site with limit := none }.settle
  let shown := ("ctx", viewContext site flow.context)
  match ending with
  | .done r =>
      match issuedToken? r with
      | some token =>
          ({ s with site := site, tokens := s.tokens ++ [token] },
            shown :: ("issued", object (tokenMembers token)) :: responseMembers r)
      | none => ({ s with site := site }, shown :: responseMembers r)
  | .panicked _ => ({ s with site := site }, [shown, ("error", .text "panic")])
  | .dropped => ({ s with site := site }, [shown, ("error", .text "dropped")])

/-! ## Steps -/

def viewSummary (c : Collector) : List (String × Json) :=
  let sum := c.summary
  [("requests", Json.ofNat sum.requests), ("server_errors", Json.ofNat sum.serverErrors),
   ("client_errors", Json.ofNat sum.clientErrors),
   ("rows", .array (c.httpMetrics.map fun m =>
      .array [.text m.method, .text m.path, Json.ofNat m.status]))]

def play (serve : Request → Act Flow Response) (s : Scene) (j : Json) :
    Scene × List (String × Json) :=
  let (name, a) := step j
  match name with
  | "req" => request serve s a
  | "advance" => ({ s with site := s.site.advance (asNat a) }, [])
  | "sleep" => ({ s with site := (Site.wait (asNat a) s.site).2.settle }, [])
  | "sweep" =>
      let (removed, l) := (s.site.limiter (asNat a)).sweep s.site.now
      ({ s with site := s.site.setLimiter (asNat a) l }, [("swept", Json.ofNat removed)])
  | "limits" =>
      let l := s.site.limiter (asNat a)
      (s, [("limit", Json.ofNat l.rate.limit), ("window", ofSpan l.rate.window),
        ("debug", .text l.describe)])
  | "summary" => (s, viewSummary s.site.collector)
  | _ =>
      let (site, r) := addUser s.site a
      let members := match viewResult User.toJson r with
        | .object members => members
        | _ => []
      ({ s with site := site }, members)

/-- Adds what a step has left behind, and forgets it. -/
def withTraces (logs : Bool) (s : Scene) (members : List (String × Json)) : Scene × Json :=
  let site := s.site
  let calls := TransactionManager.callTexts 0 site.transactions.made
  let list (name : String) (items : List Json) : List (String × Json) :=
    if items.isEmpty then [] else [(name, .array items)]
  let extra :=
    list "tracked" (site.limiters.map fun l => Json.ofNat l.tracked) ++
    list "trace" (site.trace.map .text) ++
    list "tx" ((calls.drop s.reported).map .text) ++
    (if logs then [("logs", viewEvents site.events)] else [])
  ({ s with site := { site with trace := [], events := [] }, reported := calls.length },
    object (members ++ extra))

def playAll (serve : Request → Act Flow Response) (logs : Bool) (s : Scene) (steps : List Json) :
    Scene × List Json :=
  let (s, out) := steps.foldl (fun (s, out) j =>
    let (s, members) := play serve s j
    let (s, shown) := withTraces logs s members
    (s, shown :: out)) (s, [])
  (s, out.reverse)

/-- Issues the tokens of a description; nothing if the calendar does not reach an expiry. -/
def mint (maker : TokenMaker) (s : Scene) : List Json → Option Scene
  | [] => some s
  | j :: rest => do
      let id := Uuid.ofSeed s.site.seed
      let (token, _) ← maker.create? id (textAt j 0) (fill s (textAt j 1))
        (asInt (item j 2) * Instant.nanosPerSecond) s.site.today
      let site := { s.site with seed := s.site.seed + 1 }
      mint maker { s with site := site, tokens := s.tokens ++ [token] } rest

/-- Plays a whole description of a service. -/
def run (j : Json) : Json :=
  match collaborators j with
  | .error f => viewFailure f
  | .ok (cast, site) =>
      match mint cast.maker { site := site } (asList (field j "mint")) with
      | none => panicked
      | some s =>
          let logs := asBool (field j "logs")
          let (s, serve, setup) : Scene × (Request → Act Flow Response) × (String × Json) :=
            if has j "chain" then
              let (site, c) := chainOf cast s.site (field j "chain")
              let (site, more) := chainOf cast site (field j "extend")
              let c := c.extend more
              ({ s with site := site }, c.run (handler (field j "handler")),
                ("chain", .array [.array (c.names.map .text), Json.ofNat c.size,
                  .bool c.isEmpty, .text c.describe]))
            else
              let setup := Setup.addAll cast { site := s.site } (field j "items")
              ({ s with site := setup.site }, setup.router.dispatch, ("setup", setup.report))
          let (s, out) := playAll serve logs s (asList (field j "steps"))
          let metrics := if asBool (field j "metrics") then
              [("metrics", viewMeters s.site.meters)]
            else []
          object ([setup, ("steps", .array out)] ++ metrics)

/-- Starts a request whose next step never ends, and drops it. -/
def abandon (j : Json) : Json :=
  let inside := asBool (field j "inside")
  let manager := TransactionManager.inMemory (texts (field j "tx_fail"))
  let s : Scene := { site := emptySite }
  let (site, c) := contextOf s.site j
  let never : Next :=
    { label := none
      run := fun _ => do
        Flow.onSite (Act.modify fun s => { s with running := inside })
        Act.resume .dropped }
  let (_, flow) :=
    (Stage.transaction manager).process (requestOf s j) never { context := c, site := site }
  let site := flow.site.settle
  object
    [("tx", .array ((TransactionManager.callTexts 0 site.transactions.made).map .text)),
     ("logs", viewEvents site.events),
     ("transaction_id", Json.ofText? flow.context.transactionId)]

/-- Registers the routes of a description and matches requests against them. -/
def routes (j : Json) : Json :=
  match collaborators j with
  | .error f => viewFailure f
  | .ok (cast, site) =>
      let setup := Setup.addAll cast { site := site } (field j "items")
      let r := setup.router
      let matched (q : Json) : Json :=
        Json.ofOption (fun (m : RouteMatch) =>
          object [("pattern", .text m.pattern), ("params", viewParams m.params),
            ("param", .bool true)])
          (r.matchRoute (Method.ofName (textAt q 0)) (textAt q 1))
      object
        [("setup", setup.report),
         ("router", object
           [("routes", .array (r.listing.map fun (m, p) => .array [.text m.name, .text p])),
            ("len", Json.ofNat r.routes.length), ("empty", .bool r.routes.isEmpty),
            ("debug", .text r.describe)]),
         ("match", .array ((asList (field j "match")).map matched))]

/-- Compiles a pattern and matches paths against it. -/
def pattern (j : Json) : Json :=
  match Pattern.compile (asText (field j "pattern")) with
  | .error f => viewFailure f
  | .ok p =>
      let captured (path : String) : Json :=
        Json.ofOption (fun (t : Table String) =>
          .array (p.names.map fun n => Json.ofText? (t.find? n))) (p.captures path)
      object
        [("names", .array (p.names.map .text)),
         ("paths", .array ((texts (field j "paths")).map captured))]

/-- Calls a described handler on an empty request. -/
def response (j : Json) : Json :=
  let (site, c) := contextOf emptySite .null
  let site := { site with limit := some (Nat.pow 10 16) }
  let request : Request :=
    { method := .get, target := ⟨"/", none⟩, headers := [], body := "" }
  match (handler (field j "handler") c request site).1 with
  | .done (.ok r) => viewResponse r
  | .done (.error f) => viewFailure f
  | .panicked _ => panicked
  | .dropped => object [("error", .text "dropped")]

end HttpService.Scenario
