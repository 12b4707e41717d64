import HttpService.Encoding.Form
import HttpService.Files.Store
import HttpService.Route.Router

/-!
# Files over HTTP

The store is only ever asked about absolute paths. A path is the one `path` parameter of the query,
or the field of that name in the body.
-/

namespace HttpService.Endpoint

/-- A path that begins with a slash. -/
def absolute (path : String) : Except Failure String :=
  if Text.startsWith path "/" then .ok path
  else .error ((Failure.invalidArgument "path must be absolute").withField "path" (.text path))

/-- The path in a query, given exactly once. -/
def queryPath (request : Request) : Except Failure String :=
  let given := (Encoding.Form.pairs (request.target.query.getD "")).filter fun p => p.1 == "path"
  match given with
  | [(_, path)] => absolute path
  | _ => .error (.invalidArgument "query parameter 'path' is required")

def pathReader : Json.Reader String :=
  Json.Reader.record ["path"] false fun f => f.required "path" Json.Reader.string

/-- The path in a body. -/
def bodyPath (request : Request) : Except Failure String := do
  absolute (← Request.jsonBody pathReader request)

def stat (store : FileStore) : Handler :=
  fun _ request =>
    Act.attempt (Act.pure (queryPath request)) fun path =>
      Act.attempt (store.stat path) fun f => Act.pure (.ok (Response.ok f.toJson))

def list (store : FileStore) : Handler :=
  fun _ request =>
    Act.attempt (Act.pure (queryPath request)) fun path =>
      Act.attempt (store.list path) fun fs =>
        Act.pure (.ok (Response.ok (.array (fs.map FileInfo.toJson))))

def makeDirectory (store : FileStore) : Handler :=
  fun _ request =>
    Act.attempt (Act.pure (bodyPath request)) fun path =>
      Act.attempt (store.makeDirectory path) fun f =>
        Act.pure (.ok (Response.created f.toJson))

def remove (store : FileStore) : Handler :=
  fun _ request =>
    Act.attempt (Act.pure (queryPath request)) fun path =>
      Act.attempt (store.remove path) fun _ => Act.pure (.ok Response.noContent)

def addFiles (r : Router) (store : FileStore) : Router × Except Failure Unit :=
  r.install "/api/v1/files"
    [(.get, "", stat store), (.get, "/list", list store), (.post, "/mkdir", makeDirectory store),
     (.delete, "", remove store)]

end HttpService.Endpoint
