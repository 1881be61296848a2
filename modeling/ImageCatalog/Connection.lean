import ImageCatalog.Remote.Client

/-!
# Connections

A connection is what every operation on the platform needs to know: the
client that sends requests, the scope (account and organization) it acts
in, and the lifetimes and periods its settings choose. `Connection.open`
checks the settings first, so every connection has an endpoint and an
organization.
-/

namespace ImageCatalog

open ImageCatalog.Config ImageCatalog.Remote

/-- A connection to the platform for one scope. -/
structure Connection where
  client : Client
  scope : Scope
  catalogTtl : Int
  imageListTtl : Int
  captureTimeout : Int
  capturePoll : Int
  deriving Repr, Inhabited

/-- The connection that a set of settings describes. -/
def Connection.open (s : Settings) : Except Fault Connection := do
  s.validate
  pure { client := Client.ofSettings s,
         scope := { account := s.accountNumber.render, region := (s.get .orgId).render },
         catalogTtl := (s.get .catalogTtlMinutes).intD 30 * 60,
         imageListTtl := (s.get .imageListTtlMinutes).intD 6 * 60,
         captureTimeout := (s.get .captureTimeoutMinutes).intD 10 * 60,
         capturePoll := (s.get .capturePollSeconds).intD 15 }

/-- The headers a connection puts on every request: the accepted documents,
with the protocol version, and the session token when there is one. -/
def requestHeaders (s : Settings) (token : Option String) : List (String × String) :=
  [("Accept", "application/*+xml;version=" ++ (s.get .apiVersion).render)] ++
    match token with
    | some t => if t.isEmpty then [] else [("x-vcloud-authorization", t)]
    | none => []

/-- Opens a connection for a set of settings and puts its headers on every
later request. -/
def Connection.start (s : Settings) (token : Option String) : Session Connection := do
  let cn ← orFail (Connection.open s)
  setHeaders (requestHeaders s token)
  pure cn

end ImageCatalog
