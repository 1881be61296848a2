import ImageCatalog.Proofs.Remote.Alike
import Mathlib.Control.Monad.Basic

/-!
# What a fault quotes of a failed exchange

A fault built from an exchange with the platform should carry no secret. The
text of a refused connection goes through `Redact.redact`, and a failed reply
whose body reports no error is quoted through `Redact.shorten`, redacted and
cut. A body that reports an `Error` element is quoted differently: the
element's message and codes stand in the fault as the platform wrote them.

`Reply.reported` is that report and `Reply.detail` the text a failed reply
contributes to its fault; `Client.checkStatus_eq` states the status check
through them. Two platforms whose answers differ only in secrets
(`Answer.Redacted`) have refusals whose texts redact alike, failed replies
alike up to their bodies' redaction and with the same report, and the same
successful replies; this is a likeness (`redactedLikeness`), so the client's
operations run alike on them.

Main results:

* `Client.checkStatus_redacted`: two replies with the same status line, bodies
  with the same redaction (both empty or both not) and the same reported error
  fail alike; and on platforms whose answers differ only in secrets, a request,
  a read, a post, a deletion and the wait for a task give the same value or
  fail with the same fault.
* `get_fault_keeps_reported_password`: two error documents whose texts redact
  alike, as they differ only in a password inside the message, make a read fail
  with two different messages, each holding its password.
-/

namespace ImageCatalog

namespace Redact

/-- A shortened text depends on the text only through its redaction. -/
theorem shorten_congr {a b : String} (h : redact a = redact b) (limit : Int) :
    shorten a limit = shorten b limit := by
  simp only [shorten, h]

end Redact

namespace Remote

/-- The error a reply reports: the message of the first `Error` element of its
body, when the body is a document that holds one. -/
def Reply.reported (r : Reply) : Option String :=
  if r.body.isEmpty then none
  else match parseDocument r.body with
    | .ok root => errorMessage root
    | .error _ => none

/-- What a failed reply says in its fault: the error it reports, or else its
body (its reason when the body is empty), redacted and shortened. -/
def Reply.detail (r : Reply) : String :=
  let fallback := if !r.body.isEmpty then r.body else r.reason
  match r.reported with
  | some m => if m.isEmpty then Redact.shorten fallback else m
  | none => Redact.shorten fallback

/-- Two replies that differ at most in what their bodies say outside an error
report: the same status and reason, bodies that are both empty or both not and
have the same redaction, and the same reported error. -/
structure Reply.SameRedacted (r r' : Reply) : Prop where
  status : r.status = r'.status
  reason : r.reason = r'.reason
  empty : r.body.isEmpty = r'.body.isEmpty
  redacted : Redact.redact r.body = Redact.redact r'.body
  reported : r.reported = r'.reported

theorem Reply.SameRedacted.refl (r : Reply) : r.SameRedacted r := ⟨rfl, rfl, rfl, rfl, rfl⟩

/-- Two answers that differ only in secrets: failed replies that differ at
most in what their bodies say outside an error report, successful replies that
are the same, and refused connections whose texts redact alike. -/
def Answer.Redacted : Answer → Answer → Prop
  | .reply r, .reply r' => r.SameRedacted r' ∧ (r.status < 400 → r = r')
  | .refuse m, .refuse m' => Redact.redact m = Redact.redact m'
  | _, _ => False

namespace Client

/-- The status check: a reply below 400 passes, any other fails with its
detail. -/
theorem checkStatus_eq (r : Reply) (what : String) :
    checkStatus r what = if r.status < 400 then pure ()
      else cloudFault (what ++ " failed with HTTP " ++ toString r.status ++ ": " ++ r.detail) := by
  unfold checkStatus
  split <;> rfl

end Client

/-- Replies that differ at most in what their bodies say outside an error
report pass or fail the status check alike: a body reaches the fault only
through its redaction and the error it reports. -/
theorem Reply.SameRedacted.checkStatus {r r' : Reply} (h : r.SameRedacted r') (what : String) :
    Client.checkStatus r what = Client.checkStatus r' what := by
  have hdetail : r.detail = r'.detail := by
    -- the fallback text is the body or the reason, alike on both sides once redacted
    have hfallback : Redact.shorten (if !r.body.isEmpty then r.body else r.reason) =
        Redact.shorten (if !r'.body.isEmpty then r'.body else r'.reason) := by
      rw [← h.empty, ← h.reason]
      cases r.body.isEmpty
      · exact Redact.shorten_congr h.redacted 500
      · rfl
    simp only [Reply.detail, ← h.reported, hfallback]
  rw [Client.checkStatus_eq, Client.checkStatus_eq, hdetail, h.status]

/-- Answers that differ only in secrets are a likeness: the client reads such
platforms alike. -/
theorem redactedLikeness : Likeness Answer.Redacted Eq Eq where
  unrouted := ⟨Reply.SameRedacted.refl _, fun _ => rfl⟩
  status h := h.1.status
  reply_refuse h := h
  refuse_reply h := h
  refuse h := h
  checkStatus h := h.1.checkStatus
  body h hs := congrArg Reply.body (h.2 hs)
  isEmpty h := congrArg String.isEmpty h
  parse h := h ▸ SameOutcome.refl _
  findTask h := h ▸ option_rel_eq_refl _
  task h := h ▸ ⟨rfl, rfl, rfl⟩

namespace Client

/-- Replies that differ at most in what their bodies say outside an error
report fail with the same message. On platforms whose answers differ only in
secrets, a request answers such replies or fails with the same fault, a refused
connection being quoted redacted; and a read, a post, a deletion and the wait
for a task give the same value or fail with the same fault. -/
theorem checkStatus_redacted {r r' : Reply} (h : r.SameRedacted r') (what : String) (w : World) :
    (checkStatus r what).run.run w = (checkStatus r' what).run.run w ∧
      ∀ c : Client,
        (∀ method url body mediaType,
          AgreeOn Answer.Redacted (fun q q' => Answer.Redacted (.reply q) (.reply q'))
            (c.request method url body mediaType) (c.request method url body mediaType)) ∧
        (∀ url, AgreeOn Answer.Redacted Eq (c.getUrl url) (c.getUrl url)) ∧
        (∀ resource id, AgreeOn Answer.Redacted Eq (c.get resource id) (c.get resource id)) ∧
        (∀ action url mediaType body,
          AgreeOn Answer.Redacted Eq (c.post action url mediaType body) (c.post action url mediaType body)) ∧
        (∀ resource id, AgreeOn Answer.Redacted Eq (c.delete resource id) (c.delete resource id)) ∧
        ∀ response, AgreeOn Answer.Redacted Eq (c.waitFor response) (c.waitFor response) := by
  refine ⟨by rw [h.checkStatus], fun c => ⟨AgreeOn.request redactedLikeness c, fun url => ?_,
    fun resource id => ?_, AgreeOn.post redactedLikeness c, AgreeOn.delete redactedLikeness c,
    fun response => AgreeOn.waitFor redactedLikeness c (option_rel_eq_refl response)⟩⟩
  -- a read answers related bodies, that is the same one
  · exact (AgreeOn.getUrl redactedLikeness c url).mono fun _ _ => option_rel_eq
  · exact (AgreeOn.get redactedLikeness c resource id).mono fun _ _ => option_rel_eq

end Client

/-- Two bodies that redact alike, a password in the second replaced by another,
both without an error report: the reads fail with one message, the password
redacted; and two platforms that refuse a read with texts that differ in the
same way fail it with one fault. -/
theorem checkStatus_redacted_password :
    Reply.SameRedacted { status := 500, body := "password=a" } { status := 500, body := "password=b" } ∧
      (Client.checkStatus { status := 500, body := "password=a" } "GET /catalog/c1").run.run {} =
        (Client.checkStatus { status := 500, body := "password=b" } "GET /catalog/c1").run.run {} ∧
      World.Alike Answer.Redacted { routes := [("GET /catalog/c1", .fixed (.refuse "password=a"))] }
        { routes := [("GET /catalog/c1", .fixed (.refuse "password=b"))] } ∧
      SameOutcome Eq
        (((default : Client).get "catalog" "c1").run.run
          { routes := [("GET /catalog/c1", .fixed (.refuse "password=a"))] }).1
        (((default : Client).get "catalog" "c1").run.run
          { routes := [("GET /catalog/c1", .fixed (.refuse "password=b"))] }).1 :=
  have hred : Redact.redact "password=a" = Redact.redact "password=b" := by decide +kernel
  have h : Reply.SameRedacted { status := 500, body := "password=a" }
      { status := 500, body := "password=b" } := ⟨rfl, rfl, rfl, hred, rfl⟩
  have hw : World.Alike Answer.Redacted { routes := [("GET /catalog/c1", .fixed (.refuse "password=a"))] }
      { routes := [("GET /catalog/c1", .fixed (.refuse "password=b"))] } :=
    ⟨.cons ⟨rfl, hred⟩ .nil, rfl, rfl, rfl, rfl⟩
  have hc := Client.checkStatus_redacted h "GET /catalog/c1" {}
  ⟨h, hc.1, hw, ((hc.2 default).2.2.1 "catalog" "c1" _ _ hw).1⟩

end Remote

open Remote

/-- Two error documents that differ only in a password inside the message
redact alike. -/
theorem redact_error_password :
    Redact.redact "<Error message=\"password=a\"/>" = Redact.redact "<Error message=\"password=b\"/>" := by
  decide +kernel

/-- Two error documents that differ only in a password inside the message
redact alike, yet a read answered with either fails with a message that holds
its own password. -/
theorem get_fault_keeps_reported_password :
    Redact.redact "<Error message=\"password=a\"/>" = Redact.redact "<Error message=\"password=b\"/>" ∧
      (((default : Client).get "catalog" "c1").run.run
          { routes := [("GET /catalog/c1",
              .fixed (.reply { status := 500, body := "<Error message=\"password=a\"/>" }))] }).1 =
        .error (.cloud "GET /catalog/c1 failed with HTTP 500: password=a") ∧
      (((default : Client).get "catalog" "c1").run.run
          { routes := [("GET /catalog/c1",
              .fixed (.reply { status := 500, body := "<Error message=\"password=b\"/>" }))] }).1 =
        .error (.cloud "GET /catalog/c1 failed with HTTP 500: password=b") :=
  ⟨redact_error_password, by decide +kernel, by decide +kernel⟩

end ImageCatalog
