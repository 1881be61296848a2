import ImageCatalog.Remote.Script
import ImageCatalog.Fault
import ImageCatalog.Catalog
import ImageCatalog.Image

/-!
# The remote world

Everything a session with the platform can change or observe: the scripted
routes, the clock (in seconds), the named caches, the requests made so far
and the headers every request carries. Operations of the library run in
`Session`: they may fail with a `Fault`, and the world keeps what happened
before the failure.

Caches are named and shared by every session: each holds one entry per scope
key, stamped with the clock when it was stored. An entry older than the
cache's lifetime is dropped when read. Asking for a cache sets its lifetime,
so the last lifetime asked for is the one in force.
-/

namespace ImageCatalog.Remote

/-- A cached value: a list of catalogs, a list of images, or the mutex that
serialises the refreshes of a scope's image list. -/
inductive Cached where
  | catalogs (cs : List Catalog)
  | images (is : List Image)
  | refreshLock
  deriving Repr, DecidableEq, Inhabited

/-- A cached value with the time it was stored. -/
structure Entry where
  value : Cached
  stamp : Int
  deriving Repr, Inhabited

/-- A named cache: a lifetime in seconds and entries by scope key. -/
structure NamedCache where
  ttl : Int
  entries : List (String × Entry) := []
  deriving Repr, Inhabited

/-- The world a session runs in. -/
structure World where
  routes : Routes := []
  clock : Int := 0
  caches : List (String × NamedCache) := []
  calls : Array Call := #[]
  headers : List (String × String) := []
  deriving Repr, Inhabited

/-- Operations of a session against the platform. -/
abbrev Session := ExceptT Fault (StateM World)

/-- Fails with a platform fault. -/
def cloudFault {α : Type} (message : String) : Session α := throw (.cloud message)

/-- Lifts a computation that may fail into `Session`. -/
def orFail {α : Type} (x : Except Fault α) : Session α :=
  match x with
  | .ok a => pure a
  | .error e => throw e

/-- The clock, in seconds. -/
def now : Session Int := return (← get).clock

/-- Waits: moves the clock forward. -/
def sleep (seconds : Int) : Session Unit :=
  modify fun w => { w with clock := w.clock + seconds }

/-- Puts headers on every later request: a header already set keeps its
place and takes the new value. -/
def setHeaders (hs : List (String × String)) : Session Unit :=
  modify fun w => { w with headers := hs.foldl (fun acc (k, v) =>
    if acc.any (·.1 == k) then acc.map (fun kv => if kv.1 == k then (k, v) else kv) else acc ++ [(k, v)]) w.headers }

/-- Sends a request: records it and takes the script's answer. -/
def exchange (call : Call) : Session Answer := do
  let w ← get
  let (a, routes) := w.routes.answer (call.method ++ " " ++ call.url)
  let routes := match call.method, a with
    | "DELETE", .reply r => if r.status < 400 then routes.erase ("GET " ++ call.url) else routes
    | _, _ => routes
  set { w with routes := routes, calls := w.calls.push call }
  return a

/-! ## Named caches -/

/-- Sets the lifetime of a named cache, creating it if needed. -/
def touchCache (name : String) (ttl : Int) : Session Unit :=
  modify fun w =>
    let caches := match w.caches.find? (·.1 == name) with
      | some _ => w.caches.map fun (n, c) => if n == name then (n, { c with ttl := ttl }) else (n, c)
      | none => w.caches ++ [(name, { ttl := ttl })]
    { w with caches := caches }

/-- Changes the entries of a named cache. -/
def editCache (name : String) (f : List (String × Entry) → List (String × Entry)) : Session Unit :=
  modify fun w =>
    { w with caches := w.caches.map fun (n, c) => if n == name then (n, { c with entries := f c.entries }) else (n, c) }

/-- The live entry of a scope in a named cache; an expired entry is dropped. -/
def cacheGet (name : String) (ttl : Int) (key : String) : Session (Option Cached) := do
  touchCache name ttl
  let w ← get
  match (w.caches.find? (·.1 == name)).bind fun (_, c) => c.entries.find? (·.1 == key) with
  | none => return none
  | some (_, e) =>
    if w.clock - e.stamp > ttl then
      editCache name (·.filter (·.1 != key))
      return none
    else return some e.value

/-- Stores a value for a scope in a named cache. -/
def cachePut (name : String) (ttl : Int) (key : String) (v : Cached) : Session Unit := do
  touchCache name ttl
  let t ← now
  editCache name fun es =>
    let e : Entry := { value := v, stamp := t }
    if es.any (·.1 == key) then es.map fun kv => if kv.1 == key then (key, e) else kv
    else es ++ [(key, e)]

/-- The live entry of a scope in a named cache; when there is none, `v` is
stored and returned. -/
def cacheGetOrCreate (name : String) (ttl : Int) (key : String) (v : Cached) : Session Cached := do
  match ← cacheGet name ttl key with
  | some c => return c
  | none =>
    cachePut name ttl key v
    return v

/-- Drops the entry of a scope from a named cache. -/
def cacheDrop (name : String) (ttl : Int) (key : String) : Session Unit := do
  touchCache name ttl
  editCache name (·.filter (·.1 != key))

end ImageCatalog.Remote
