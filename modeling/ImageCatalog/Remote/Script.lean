import ImageCatalog.Config.Value

/-!
# Scripted platform

A platform played from a script, so that the catalog layer can be run
without a network. Each request is looked up by its method and address
(`"GET https://…"`):

* a fixed answer answers every time;
* answers in turn answer one after the other, and the last one answers every
  further request; no answers count as no route;
* a request with no route gets status 404, an empty body and the reason
  "Not Found".

An answer is a reply (status, body, reason) or a refused connection with a
message. A successful delete (status below 400) removes the route that reads
the same address, so the resource is gone afterwards.
-/

namespace ImageCatalog.Remote

/-- A reply to a request. -/
structure Reply where
  status : Int := 200
  body : String := ""
  reason : String := ""
  deriving Repr, Inhabited, BEq

/-- What the platform does with a request. -/
inductive Answer where
  | reply (r : Reply)
  | refuse (message : String)
  deriving Repr, Inhabited, BEq

/-- How a route answers. -/
inductive Route where
  | fixed (a : Answer)
  | turns (answers : List Answer)
  deriving Repr, Inhabited, BEq

/-- The reply to a request without a route. -/
def unrouted : Answer := .reply { status := 404, reason := "Not Found" }

/-- The routes of a script, by `"METHOD address"`. -/
abbrev Routes := List (String × Route)

namespace Routes

/-- The route of a key. -/
def find? (rs : Routes) (key : String) : Option Route := (List.find? (·.1 == key) rs).map (·.2)

/-- Sets or replaces the route of a key; a new key goes last. -/
def put (rs : Routes) (key : String) (r : Route) : Routes :=
  if rs.any (·.1 == key) then rs.map fun kv => if kv.1 == key then (key, r) else kv
  else rs ++ [(key, r)]

/-- Removes the route of a key. -/
def erase (rs : Routes) (key : String) : Routes := rs.filter (·.1 != key)

/-- The answer to a request with a key, and the routes after it. -/
def answer (rs : Routes) (key : String) : Answer × Routes :=
  match rs.find? key with
  | none => (unrouted, rs)
  | some (.fixed a) => (a, rs)
  | some (.turns []) => (unrouted, rs)
  | some (.turns [a]) => (a, rs)
  | some (.turns (a :: rest)) => (a, rs.put key (.turns rest))

/-- The number of answers a script holds, a bound on how often its answers
can change. -/
def size (rs : Routes) : Nat :=
  rs.foldl (fun n (_, r) => n + match r with
    | .fixed _ => 1
    | .turns as => as.length) 0

end Routes

/-- A request as the platform saw it: method, address, content type and
body (for posts), and the timeout and certificate check it was sent with. -/
structure Call where
  method : String
  url : String
  contentType : Option String
  body : Option String
  timeout : Config.Value
  verify : Config.Value
  deriving Repr, Inhabited

end ImageCatalog.Remote
