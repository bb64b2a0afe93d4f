import BuildScripts.Server.Body
import BuildScripts.Server.Upload
import BuildScripts.Text.Basic

namespace BuildScripts.Server

open BuildScripts.Text

variable {σ : Type}

inductive Route
  | health
  | upload
  | page
  deriving DecidableEq, Repr

def Route.paths : Route → List String
  | .health => ["/api/health"]
  | .upload => ["/api/scripts/upload"]
  | .page => ["/openapi.json", "/docs", "/docs/oauth2-redirect", "/redoc"]

def Route.methods : Route → List String
  | .health => ["GET"]
  | .upload => ["POST"]
  | .page => ["GET", "HEAD"]

def routeOf? (path : String) : Option Route :=
  [Route.health, Route.upload, Route.page].find? fun r => r.paths.contains path

def health (s : Server σ) : Response :=
  .ofJson 200 (.object [("status", .text "ok"), ("service", .text "scriptforge-build-server"),
    ("scripts_dir", .text s.scriptsDir.toText)])

def follow (s : Server σ) (r : Request) : Route → Attempt (Workshop σ) Response
  | .health => pure s.health
  | .upload =>
    match readBody r with
    | .ok u => s.upload (r.header? "authorization") u
    | .error answer => pure answer
  | .page => pure (.ofText 200 "")

def elsewhere (r : Request) : Response :=
  let path := withoutEnd '/' r.path
  if (routeOf? path).isSome then .moved { r.url with path }
  else .withDetail 404 (.text "Not Found")

def answer (s : Server σ) (r : Request) : Attempt (Workshop σ) Response :=
  match routeOf? r.path with
  | some route =>
    if route.methods.contains r.method then s.follow r route
    else pure (.withDetail 405 (.text "Method Not Allowed"))
  | none => pure (elsewhere r)

def shownTo (r : Request) (a : Response) : Response :=
  if r.method = "HEAD" then a.withoutBody else a

def handle (s : Server σ) (r : Request) (w : Workshop σ) : Response × Workshop σ :=
  match s.answer r w with
  | .ok a w' => (shownTo r a, w')
  | .error _ w' => (shownTo r .internalError, w')

def transport (s : Server σ) : Transport (Workshop σ) := fun r w =>
  let (a, w') := s.handle r w
  .ok a w'

/-- The server in the process of its client, which meets the server's faults as its own. -/
def sharedTransport (s : Server σ) : Transport (Workshop σ) := fun r => do
  return shownTo r (← s.answer r)

end BuildScripts.Server
