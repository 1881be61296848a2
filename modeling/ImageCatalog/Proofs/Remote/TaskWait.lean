import ImageCatalog.Proofs.Remote.Reads
import ImageCatalog.Proofs.Remote.Deadline

/-!
# Waiting for a task

A reply that starts work on the platform holds a `Task`; `Client.waitFor`
follows it until it ends. Each task examined is looked at in turn: its status
(trimmed, in lower case) `success` ends the wait, `error`, `canceled` and
`aborted` are a fault that names the task and its status, and a task without
an address cannot be followed, so the wait returns. A task still running is
read again from its address one poll period later, unless the deadline has
passed; the first task of the document read is the next one examined.

Results:

* `Client.Follows c n t w r w'`: the ways a wait can go from task `t` in world
  `w`, with `n` polls left, to outcome `r` in world `w'`. A wait times out only
  with no poll left (`Follows.timedOut`).
* `Client.followTask_follows`: with at least as much fuel as polls left, every
  wait follows `Follows`; the fuel never ends it.
* `Follows.clock`, `Follows.clock_of_timedOut`: a wait polls at most as often
  as it has polls left, one period apart, and one that times out has used them
  all.
* `Client.waitFor_follows`: with a poll period `p > 0` and a task timeout of
  `T` seconds, a wait has `⌊T / p⌋ + 1` polls: it follows `Follows` with that
  many, polls at most that often, and times out only after that many polls.
-/

namespace ImageCatalog.Remote

open ImageCatalog.Xml

/-- The world after a sleep of `d` seconds. -/
def World.slept (w : World) (d : Int) : World := { w with clock := w.clock + d }

namespace Client

/-- How the fault of a failed task names it: by its address, or `(unknown)`
when it has none. -/
def taskLabel (t : Element) : String :=
  match t.attrValue "href" with
  | some h => if h.isEmpty then "(unknown)" else h
  | none => "(unknown)"

/-- The statuses that end a task in failure. -/
def failedStatuses : List String := ["error", "canceled", "aborted"]

/-- A task that has neither succeeded nor failed. -/
def Running (t : Element) : Prop := taskStatus t ≠ "success" ∧ taskStatus t ∉ failedStatuses

variable (c : Client) (deadline : Int)

theorem followTask_succeeded (fuel : Nat) {t : Element} (hs : taskStatus t = "success") (w : World) :
    (c.followTask deadline fuel (some t)).run.run w = (.ok (), w) := by
  rw [followTask.eq_2, hs]
  rfl

theorem followTask_ended (fuel : Nat) {t : Element} (hs : taskStatus t ∈ failedStatuses) (w : World) :
    (c.followTask deadline fuel (some t)).run.run w =
      (.error (.cloud ("Task " ++ taskLabel t ++ " ended with status " ++ taskStatus t ++ failureDetail t)), w) := by
  have hne : taskStatus t ≠ "success" := by
    intro h; rw [h] at hs; simp [failedStatuses] at hs
  rw [followTask.eq_2]
  simp only [failedStatuses, List.mem_cons, List.not_mem_nil, or_false] at hs
  rw [if_neg (by simpa using hne), if_pos (by rcases hs with h | h | h <;> simp [h])]
  rfl

theorem followTask_untracked (fuel : Nat) {t : Element} (hs : Running t) (hh : t.attrValue "href" = none) (w : World) :
    (c.followTask deadline fuel (some t)).run.run w = (.ok (), w) := by
  obtain ⟨hne, hnf⟩ := hs
  simp only [failedStatuses, List.mem_cons, List.not_mem_nil, or_false, not_or] at hnf
  rw [followTask.eq_2, if_neg (by simpa using hne), if_neg (by simp [hnf.1, hnf.2.1, hnf.2.2])]
  dsimp only
  rw [hh]
  rfl

theorem followTask_tracked (fuel : Nat) {t : Element} (hs : Running t) {h : String} (hh : t.attrValue "href" = some h)
    (w : World) :
    (c.followTask deadline fuel (some t)).run.run w =
      if w.clock > deadline then (.error (.cloud ("Timed out waiting for task " ++ h)), w)
      else match fuel with
        | 0 => (.error (.cloud ("Timed out waiting for task " ++ h)), w)
        | fuel + 1 =>
          match (c.getUrl h).run.run (w.slept c.taskPollSeconds) with
          | (.ok none, w') => (.error (.cloud ("Task " ++ h ++ " disappeared")), w')
          | (.ok (some xml), w') =>
            match parseDocument xml with
            | .ok root => (c.followTask deadline fuel (root.findFirst "Task")).run.run w'
            | .error e => (.error e, w')
          | (.error e, w') => (.error e, w') := by
  obtain ⟨hne, hnf⟩ := hs
  simp only [failedStatuses, List.mem_cons, List.not_mem_nil, or_false, not_or] at hnf
  rw [followTask.eq_2, if_neg (by simpa using hne), if_neg (by simp [hnf.1, hnf.2.1, hnf.2.2])]
  dsimp only
  rw [hh]
  dsimp only
  rw [run_bind, show now.run.run w = (.ok w.clock, w) from rfl]
  dsimp only
  by_cases hlate : w.clock > deadline
  · rw [if_pos hlate, if_pos hlate]
    rfl
  rw [if_neg hlate, if_neg hlate]
  cases fuel with
  | zero => rfl
  | succ fuel =>
    -- one period passes, then the task is read again
    dsimp only
    rw [run_bind, show (sleep c.taskPollSeconds).run.run w = (.ok (), w.slept c.taskPollSeconds) from rfl]
    dsimp only
    rw [run_bind]
    generalize (c.getUrl h).run.run (w.slept c.taskPollSeconds) = out
    rcases out with ⟨r, w'⟩
    cases r with
    | error e => rfl
    | ok found =>
      cases found with
      | none => rfl
      | some xml =>
        dsimp only
        rw [run_bind]
        cases parseDocument xml <;> rfl

/-- A read leaves the clock where it was. -/
theorem getUrl_clock (url : String) (w : World) : ((c.getUrl url).run.run w).2.clock = w.clock :=
  (getUrl_browsed (T := fun _ => False) c url w).1

/-- Every fault of a read names the read: it is a platform fault whose message
starts with `GET `. -/
theorem getUrl_fault {url : String} {w : World} {e : Fault} (h : ((c.getUrl url).run.run w).1 = .error e) :
    ∃ m, e = .cloud ("GET " ++ m) := by
  unfold getUrl at h
  rw [run_bind] at h
  rcases hreq : (c.request "GET" url).run.run w with ⟨rr, w1⟩
  rw [hreq] at h
  cases rr with
  | error e' =>
    -- a refused connection
    cases h
    unfold request at hreq
    rw [run_bind, run_exchange] at hreq
    dsimp only at hreq
    cases hans : (w.routes.answer ("GET" ++ " " ++ url)).1 with
    | refuse msg =>
      rw [hans] at hreq
      cases hreq
      exact ⟨url ++ " failed: " ++ Redact.redact msg, by simp only [String.append_assoc]; rfl⟩
    | reply r =>
      rw [hans] at hreq
      cases hreq
  | ok r =>
    -- a reply with an error status
    dsimp only at h
    split at h
    · cases h
    rw [run_bind, checkStatus_eq] at h
    by_cases hs : r.status < 400
    · rw [if_pos hs] at h
      cases h
    · rw [if_neg hs] at h
      cases h
      exact ⟨url ++ " failed with HTTP " ++ toString r.status ++ ": " ++ r.detail, by simp only [String.append_assoc]⟩

/-- The ways a wait for a task can go, with the outcome and the world each
ends with, when `n` polls are left before the deadline. No task, a task that
succeeded, and a running task without an address end the wait; a failed task
is a fault that names it and its status; a running task with no poll left
times out. Otherwise, one period later, the task's address is read: a read
that fails is the wait's fault, no document means the task disappeared, an
unreadable document is a fault, and the first task of the document read is
followed with one poll less. -/
inductive Follows (c : Client) : Nat → Option Element → World → Except Fault Unit → World → Prop
  | noTask {n : Nat} {w : World} : Follows c n none w (.ok ()) w
  | succeeded {n : Nat} {t : Element} {w : World} (hs : taskStatus t = "success") :
      Follows c n (some t) w (.ok ()) w
  | ended {n : Nat} {t : Element} {w : World} (hs : taskStatus t ∈ failedStatuses) :
      Follows c n (some t) w
        (.error (.cloud ("Task " ++ taskLabel t ++ " ended with status " ++ taskStatus t ++ failureDetail t))) w
  | untracked {n : Nat} {t : Element} {w : World} (hs : Running t) (hh : t.attrValue "href" = none) :
      Follows c n (some t) w (.ok ()) w
  | timedOut {t : Element} {w : World} {h : String} (hs : Running t) (hh : t.attrValue "href" = some h) :
      Follows c 0 (some t) w (.error (.cloud ("Timed out waiting for task " ++ h))) w
  | polled {n : Nat} {t : Element} {w : World} {h xml : String} {root : Element} {r : Except Fault Unit}
      {w' w'' : World} (hs : Running t) (hh : t.attrValue "href" = some h)
      (hget : (c.getUrl h).run.run (w.slept c.taskPollSeconds) = (.ok (some xml), w'))
      (hroot : parseDocument xml = .ok root) (hrest : Follows c n (root.findFirst "Task") w' r w'') :
      Follows c (n + 1) (some t) w r w''
  | disappeared {n : Nat} {t : Element} {w : World} {h : String} {w' : World} (hs : Running t)
      (hh : t.attrValue "href" = some h)
      (hget : (c.getUrl h).run.run (w.slept c.taskPollSeconds) = (.ok none, w')) :
      Follows c (n + 1) (some t) w (.error (.cloud ("Task " ++ h ++ " disappeared"))) w'
  | pollFailed {n : Nat} {t : Element} {w : World} {h : String} {e : Fault} {w' : World} (hs : Running t)
      (hh : t.attrValue "href" = some h)
      (hget : (c.getUrl h).run.run (w.slept c.taskPollSeconds) = (.error e, w')) :
      Follows c (n + 1) (some t) w (.error e) w'
  | unreadable {n : Nat} {t : Element} {w : World} {h xml : String} {e : Fault} {w' : World} (hs : Running t)
      (hh : t.attrValue "href" = some h)
      (hget : (c.getUrl h).run.run (w.slept c.taskPollSeconds) = (.ok (some xml), w'))
      (hroot : parseDocument xml = .error e) :
      Follows c (n + 1) (some t) w (.error e) w'

/-- Following a task, with at least as much fuel as polls left before the
deadline, goes one of the ways of `Follows`: its fuel never ends it, its
deadline does. -/
theorem followTask_follows (hp : 0 < c.taskPollSeconds) (fuel : Nat) :
    ∀ (n : Nat) (t : Option Element) (w : World), pollsBefore c.taskPollSeconds (deadline - w.clock) = n →
      n ≤ fuel → Follows c n t w ((c.followTask deadline fuel t).run.run w).1 ((c.followTask deadline fuel t).run.run w).2 := by
  induction fuel using Nat.strongRecOn with
  | _ fuel ih =>
    intro n t w hn hfuel
    cases t with
    | none =>
      rw [followTask.eq_1]
      exact .noTask
    | some t =>
      by_cases hsucc : taskStatus t = "success"
      · rw [followTask_succeeded c deadline fuel hsucc]
        exact .succeeded hsucc
      by_cases hfail : taskStatus t ∈ failedStatuses
      · rw [followTask_ended c deadline fuel hfail]
        exact .ended hfail
      have hrun : Running t := ⟨hsucc, hfail⟩
      cases hh : t.attrValue "href" with
      | none =>
        rw [followTask_untracked c deadline fuel hrun hh]
        exact .untracked hrun hh
      | some h =>
        rw [followTask_tracked c deadline fuel hrun hh]
        by_cases hlate : w.clock > deadline
        · -- past the deadline no poll is left
          have hzero : n = 0 := hn ▸ (pollsBefore_eq_zero_iff hp _).mpr (by omega)
          subst hzero
          rw [if_pos hlate]
          exact .timedOut hrun hh
        rw [if_neg hlate]
        obtain ⟨m, rfl⟩ : ∃ m, n = m + 1 :=
          ⟨n - 1, by have := (pollsBefore_eq_zero_iff hp (deadline - w.clock)).not.mpr (by omega); omega⟩
        obtain ⟨f, rfl⟩ : ∃ f, fuel = f + 1 := ⟨fuel - 1, by omega⟩
        dsimp only
        -- the read of the task keeps the clock one period later
        have hclock := (getUrl_browsed (T := fun _ => False) c h (w.slept c.taskPollSeconds)).1
        generalize hget : (c.getUrl h).run.run (w.slept c.taskPollSeconds) = out at hclock ⊢
        rcases out with ⟨r, w'⟩
        have hleft : pollsBefore c.taskPollSeconds (deadline - w'.clock) = m := by
          rw [show w'.clock = w.clock + c.taskPollSeconds from hclock]
          rw [show deadline - (w.clock + c.taskPollSeconds) = deadline - w.clock - c.taskPollSeconds by ring]
          exact pollsBefore_sub hp hn
        cases r with
        | error e => exact .pollFailed hrun hh hget
        | ok found =>
          cases found with
          | none => exact .disappeared hrun hh hget
          | some xml =>
            dsimp only
            cases hroot : parseDocument xml with
            | error e => exact .unreadable hrun hh hget hroot
            | ok root => exact .polled hrun hh hget hroot (ih f (by omega) m _ w' hleft (by omega))

namespace Follows

variable {c : Client} {n : Nat} {t : Option Element} {w w' : World} {r : Except Fault Unit}

/-- A wait polls at most as often as it has polls left, and each poll comes one
period after the one before: the clock ends a whole number of periods later. -/
theorem clock (h : Follows c n t w r w') : ∃ k ≤ n, w'.clock = w.clock + k * c.taskPollSeconds := by
  induction h with
  | noTask | succeeded | ended | untracked | timedOut => exact ⟨0, by omega, by simp⟩
  | polled _ _ hget _ _ ih =>
    obtain ⟨k, hk, hclock⟩ := ih
    have hread := congrArg (fun out => out.2.clock) hget
    simp only [getUrl_clock] at hread
    refine ⟨k + 1, by omega, ?_⟩
    rw [hclock, ← hread]
    simp only [World.slept]
    push_cast
    ring
  | disappeared _ _ hget | pollFailed _ _ hget | unreadable _ _ hget =>
    have hread := congrArg (fun out => out.2.clock) hget
    simp only [getUrl_clock] at hread
    exact ⟨1, by omega, by simp [← hread, World.slept]⟩

/-- The fault of a wait that timed out is told apart from every other: only a
wait with no poll left ends with it, after its last poll. -/
theorem clock_of_timedOut (h : Follows c n t w r w') {h0 : String}
    (hr : r = .error (.cloud ("Timed out waiting for task " ++ h0))) :
    w'.clock = w.clock + n * c.taskPollSeconds := by
  induction h with
  | noTask | succeeded | untracked => cases hr
  | timedOut => simp
  | ended =>
    have hne := congrArg String.toList (Fault.cloud.inj (Except.error.inj hr))
    simp [String.toList_append] at hne
  | disappeared =>
    have hne := congrArg String.toList (Fault.cloud.inj (Except.error.inj hr))
    simp [String.toList_append] at hne
  | pollFailed _ _ hget =>
    -- a read fails with a fault that names the read
    obtain ⟨m, hm⟩ := getUrl_fault c (congrArg Prod.fst hget)
    rw [hm] at hr
    have hne := congrArg String.toList (Fault.cloud.inj (Except.error.inj hr))
    simp [String.toList_append] at hne
  | unreadable _ _ _ hroot =>
    rw [parseDocument] at hroot
    split at hroot <;> cases hroot
    cases hr
  | polled _ _ hget _ _ ih =>
    have hread := congrArg (fun out => out.2.clock) hget
    simp only [getUrl_clock] at hread
    rw [ih hr, ← hread]
    simp only [World.slept]
    push_cast
    ring

end Follows

/-- For a positive poll period `p` and a task timeout of `T` seconds, waiting
for the task of a reply goes this way. An absent or empty reply is no task: the
wait returns at once, the world untouched. A reply that is no document is its
fault. Otherwise the first task of the document is followed as `Follows` says,
with `⌊T / p⌋ + 1` polls left: the clock ends a whole number of periods later,
at most that many, and a wait that timed out has polled exactly that many
times. -/
theorem waitFor_follows (hp : 0 < c.taskPollSeconds) (response : Option String) (w : World) :
    let out := (c.waitFor response).run.run w
    let n := pollsBefore c.taskPollSeconds (c.taskTimeoutMinutes * 60)
    (response.getD "" = "" → out = (.ok (), w)) ∧
    ∀ body, response = some body → body ≠ "" →
      (∀ e, parseDocument body = .error e → out = (.error e, w)) ∧
      ∀ root, parseDocument body = .ok root →
        Follows c n (root.findFirst "Task") w out.1 out.2 ∧
        (∃ k ≤ n, out.2.clock = w.clock + k * c.taskPollSeconds) ∧
        ∀ h, out.1 = .error (.cloud ("Timed out waiting for task " ++ h)) →
          out.2.clock = w.clock + n * c.taskPollSeconds := by
  intro out n
  refine ⟨fun hempty => ?_, fun body hbody hne => ?_⟩
  · cases response with
    | none => rfl
    | some body =>
      -- an empty reply is read as no task
      have hb : body = "" := hempty
      subst hb
      rfl
  · subst hbody
    have hrun : out = (match parseDocument body with
        | .ok root => (c.followTask (w.clock + c.taskTimeoutMinutes * 60)
            (pollBudget (c.taskTimeoutMinutes * 60) c.taskPollSeconds w.routes.size) (root.findFirst "Task")).run.run w
        | .error e => (.error e, w)) := by
      show (c.waitFor (some body)).run.run w = _
      unfold waitFor
      dsimp only
      rw [if_neg (by simpa using hne)]
      rw [run_bind]
      cases parseDocument body <;> rfl
    refine ⟨fun e he => by rw [hrun, he], fun root hroot => ?_⟩
    rw [hroot] at hrun
    dsimp only at hrun
    have hfollows := followTask_follows c (w.clock + c.taskTimeoutMinutes * 60) hp
      (pollBudget (c.taskTimeoutMinutes * 60) c.taskPollSeconds w.routes.size) n (root.findFirst "Task") w
      (by rw [add_sub_cancel_left]) (pollsBefore_le_pollBudget hp _ _)
    rw [← hrun] at hfollows
    exact ⟨hfollows, hfollows.clock, fun h hr => hfollows.clock_of_timedOut hr⟩

/-- A client that checks its tasks every five seconds for an hour. -/
def hourlyTasks : Client := { (default : Client) with taskPollSeconds := 5, taskTimeoutMinutes := 60 }

/-- A reply that starts a task, still running, at the address `/task/1`. -/
def runningTaskText : String := "<Task status=\"running\" href=\"/task/1\"/>"

def runningTask : Element :=
  .mk ⟨none, "Task"⟩ [(⟨none, "status"⟩, "running"), (⟨none, "href"⟩, "/task/1")] none [] none

/-- A platform that reports the task of `/task/1` done. -/
def taskDoneWorld : World :=
  { routes := [("GET /task/1", .fixed (.reply { body := "<Task status=\"success\"/>" }))] }

set_option maxRecDepth 20000 in
theorem runningTaskText_parses : parseDocument runningTaskText = .ok runningTask := by
  with_unfolding_all rfl

theorem waitFor_running_taskDone :
    ((hourlyTasks.waitFor (some runningTaskText)).run.run taskDoneWorld).1 = .ok () ∧
      ((hourlyTasks.waitFor (some runningTaskText)).run.run taskDoneWorld).2.clock = 5 := by
  constructor <;> decide +kernel

/-- A running task found done at the first poll: the wait ends well one poll
period later, within the polls the hour allows. -/
theorem waitFor_follows_running :
    0 < hourlyTasks.taskPollSeconds ∧ parseDocument runningTaskText = .ok runningTask ∧
      let out := (hourlyTasks.waitFor (some runningTaskText)).run.run taskDoneWorld
      let n := pollsBefore hourlyTasks.taskPollSeconds (hourlyTasks.taskTimeoutMinutes * 60)
      out.1 = .ok () ∧ out.2.clock = 5 ∧
        Follows hourlyTasks n (runningTask.findFirst "Task") taskDoneWorld out.1 out.2 ∧
        ∃ k ≤ n, out.2.clock = taskDoneWorld.clock + k * hourlyTasks.taskPollSeconds := by
  have hp : 0 < hourlyTasks.taskPollSeconds := by decide
  have hrun := ((waitFor_follows hourlyTasks hp (some runningTaskText) taskDoneWorld).2 runningTaskText rfl
    (by decide)).2 runningTask runningTaskText_parses
  exact ⟨hp, runningTaskText_parses, waitFor_running_taskDone.1, waitFor_running_taskDone.2, hrun.1, hrun.2.1⟩

end Client

end ImageCatalog.Remote
