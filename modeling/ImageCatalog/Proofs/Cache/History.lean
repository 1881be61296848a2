import ImageCatalog.Proofs.Cache.Entries
import ImageCatalog.Listing
import Mathlib

/-!
# What a read of a named cache answers after a history of calls

Components reach the named caches through `cacheGet`, `cachePut`,
`cacheGetOrCreate` and `cacheDrop`, each with the lifetime it is configured
with, and components with different lifetimes share one cache. A `CacheCall`
is one such call, or time passing; `runCalls` makes a list of them in order.

Calls that write and invalidate nothing for a scope, and whose reads of it find
it live, keep its entry (`Keeps`): a read after them answers the value exactly
while the time since the write is within its own lifetime. A read is not free
of effects, though: one that finds the entry older than the lifetime it asks
for drops it, and until the next write every read answers nothing, also one
that asks for a longer lifetime under which the value would still be live.

Main results:

* `CacheCall.run_step`: every call succeeds, lets its own time pass, changes
  the entry it is about by its `effect` and leaves every other entry alone.
* `runCalls_keeps`: calls that keep an entry leave it in place.
* `runCalls_forgets`: calls that store nothing for a scope leave a forgotten
  entry forgotten.
* `cache_read_after_calls`: what a read answers after a write, a
  get-or-create, an invalidation or an expiring read, followed by any calls.
* `cache_read_hidden_by_expired_read`: a read under a short lifetime hides a
  value from a later read under a longer one.
-/

namespace ImageCatalog.Remote

/-- A call on the named caches: a read, a write, a get-or-create or an
invalidation of one scope of one cache, with the lifetime the caller asks
for; or time passing. -/
inductive CacheCall where
  | get (name key : String) (ttl : Int)
  | put (name key : String) (ttl : Int) (v : Cached)
  | getOrCreate (name key : String) (ttl : Int) (v : Cached)
  | drop (name key : String) (ttl : Int)
  | wait (seconds : Nat)
  deriving Repr

namespace CacheCall

/-- Makes the call; what it answers is not kept. -/
def run : CacheCall → Session Unit
  | .get name key ttl => do let _ ← cacheGet name ttl key
  | .put name key ttl v => cachePut name ttl key v
  | .getOrCreate name key ttl v => do let _ ← cacheGetOrCreate name ttl key v
  | .drop name key ttl => cacheDrop name ttl key
  | .wait seconds => sleep seconds

/-- The time the call lets pass. -/
def elapsed : CacheCall → Nat
  | .wait seconds => seconds
  | _ => 0

/-- The cache and the scope the call is about. -/
def slot : CacheCall → Option (String × String)
  | .get name key _ | .put name key _ _ | .getOrCreate name key _ _ | .drop name key _ =>
    some (name, key)
  | .wait _ => none

/-- The call keeps an entry of `key` in `name` stamped `stamp`, made at clock
`now`: it writes and invalidates no such entry, and a read of it comes while
the entry is live under the lifetime the read asks for. -/
def keeps (name key : String) (stamp now : Int) : CacheCall → Prop
  | .get n k ttl | .getOrCreate n k ttl _ => n = name → k = key → now - stamp ≤ ttl
  | .put n k _ _ | .drop n k _ => ¬(n = name ∧ k = key)
  | .wait _ => True

/-- The call may store a value for `key` in `name`. -/
def Stores (name key : String) : CacheCall → Prop
  | .put n k _ _ | .getOrCreate n k _ _ => n = name ∧ k = key
  | _ => False

/-- What the call, made at clock `now`, does to the entry it is about: a read
drops an expired entry, a write stamps a new one, a get-or-create keeps a live
entry or stamps a new one, and an invalidation forgets it. -/
def effect (now : Int) (e : Option Entry) : CacheCall → Option Entry
  | .get _ _ ttl => e.filter (·.live now ttl)
  | .put _ _ _ v => some { value := v, stamp := now }
  | .getOrCreate _ _ ttl v => (e.filter (·.live now ttl)).or (some { value := v, stamp := now })
  | .drop _ _ _ => none
  | .wait _ => e

end CacheCall

/-- Makes the calls in order. -/
def runCalls : List CacheCall → Session Unit
  | [] => pure ()
  | c :: cs => do c.run; runCalls cs

/-- The time the calls let pass. -/
def elapsedAll (cs : List CacheCall) : Nat := (cs.map CacheCall.elapsed).sum

/-- From clock `now` on, the calls keep an entry of `key` in `name` stamped
`stamp`. -/
def Keeps (name key : String) (stamp : Int) : Int → List CacheCall → Prop
  | _, [] => True
  | now, c :: cs => c.keeps name key stamp now ∧ Keeps name key stamp (now + c.elapsed) cs

/-- What a read of `key` in `name` answers after the calls. -/
def readAfter (cs : List CacheCall) (name key : String) (ttl : Int) : Session (Option Cached) := do
  runCalls cs
  cacheGet name ttl key

theorem run_sleep (seconds : Int) (w : World) :
    (sleep seconds).run.run w = (.ok (), { w with clock := w.clock + seconds }) := rfl

theorem Entry.live_some (e : Entry) (now ttl : Int) :
    (some e).filter (·.live now ttl) = if now - e.stamp ≤ ttl then some e else none := by
  simp [Option.filter_some, Entry.live]

/-- The change of one entry, as the operations' equations state it, is the
change of the entry at that slot. -/
theorem entry_at_slot (f : Option Entry → Option Entry) (w : World) (name key n k : String) :
    (if n = name ∧ k = key then f (w.entry name key) else w.entry n k) =
      if some (name, key) = some (n, k) then f (w.entry n k) else w.entry n k := by
  by_cases h : n = name ∧ k = key
  · obtain ⟨rfl, rfl⟩ := h
    simp
  · have h' : ¬some (name, key) = some (n, k) := by
      simp only [Option.some.injEq, Prod.mk.injEq]
      exact fun ⟨h1, h2⟩ => h ⟨h1.symm, h2.symm⟩
    rw [if_neg h, if_neg h']

namespace CacheCall

variable {name key : String} {w : World}

/-- Every call succeeds, lets its own time pass, changes the entry it is about
by its `effect`, and leaves every other entry as it was. -/
theorem run_step (c : CacheCall) (w : World) : ∃ w', c.run.run.run w = (.ok (), w') ∧
    w'.clock = w.clock + c.elapsed ∧
    ∀ n k, w'.entry n k =
      if c.slot = some (n, k) then c.effect w.clock (w.entry n k) else w.entry n k := by
  cases c with
  | get name key ttl =>
    obtain ⟨w', hrun, hentry, hclock⟩ := cacheGet_run name key ttl w
    refine ⟨w', by rw [run, run_bind, hrun]; rfl, by simp [hclock, elapsed], fun n k => ?_⟩
    rw [hentry]
    exact entry_at_slot (fun e => e.filter (·.live w.clock ttl)) w name key n k
  | put name key ttl v =>
    obtain ⟨w', hrun, hentry, hclock⟩ := cachePut_run name key ttl w v
    refine ⟨w', hrun, by simp [hclock, elapsed], fun n k => ?_⟩
    rw [hentry]
    exact entry_at_slot (fun _ => some { value := v, stamp := w.clock }) w name key n k
  | getOrCreate name key ttl v =>
    obtain ⟨w', hrun, hentry, hclock⟩ := cacheGetOrCreate_run name key ttl w v
    refine ⟨w', by rw [run, run_bind, hrun]; rfl, by simp [hclock, elapsed], fun n k => ?_⟩
    rw [hentry]
    exact entry_at_slot (fun e => (e.filter (·.live w.clock ttl)).or (some ⟨v, w.clock⟩))
      w name key n k
  | drop name key ttl =>
    obtain ⟨w', hrun, hentry, hclock⟩ := cacheDrop_run name key ttl w
    refine ⟨w', hrun, by simp [hclock, elapsed], fun n k => ?_⟩
    rw [hentry]
    exact entry_at_slot (fun _ => none) w name key n k
  | wait seconds =>
    -- waiting only moves the clock
    refine ⟨_, run_sleep seconds w, rfl, fun n k => ?_⟩
    rw [if_neg (by simp [slot])]
    rfl

/-- A call that keeps an entry leaves it in place. -/
theorem run_keeps {c : CacheCall} {e : Entry} (he : w.entry name key = some e)
    (hc : c.keeps name key e.stamp w.clock) :
    ∃ w', c.run.run.run w = (.ok (), w') ∧ w'.entry name key = some e ∧
      w'.clock = w.clock + c.elapsed := by
  obtain ⟨w', hrun, hclock, hentry⟩ := run_step c w
  refine ⟨w', hrun, ?_, hclock⟩
  rw [hentry, he]
  split
  case isFalse => rfl
  case isTrue hslot =>
    -- the call is about this very entry: a read finds it live, and nothing else is allowed
    cases c with
    | get n k ttl =>
      obtain ⟨rfl, rfl⟩ : n = name ∧ k = key := by simpa [slot] using hslot
      rw [effect, Entry.live_some, if_pos (hc rfl rfl)]
    | getOrCreate n k ttl v =>
      obtain ⟨rfl, rfl⟩ : n = name ∧ k = key := by simpa [slot] using hslot
      rw [effect, Entry.live_some, if_pos (hc rfl rfl)]
      rfl
    | put n k _ _ => exact absurd (by simpa [slot] using hslot) hc
    | drop n k _ => exact absurd (by simpa [slot] using hslot) hc
    | wait _ => cases hslot

/-- A call that stores nothing for a forgotten entry leaves it forgotten. -/
theorem run_forgets {c : CacheCall} (he : w.entry name key = none) (hc : ¬c.Stores name key) :
    ∃ w', c.run.run.run w = (.ok (), w') ∧ w'.entry name key = none ∧
      w'.clock = w.clock + c.elapsed := by
  obtain ⟨w', hrun, hclock, hentry⟩ := run_step c w
  refine ⟨w', hrun, ?_, hclock⟩
  rw [hentry, he]
  split
  case isFalse => rfl
  case isTrue hslot =>
    -- a read of it finds nothing, and an invalidation leaves nothing
    cases c with
    | get => rfl
    | drop => rfl
    | put n k _ _ => exact absurd (by simpa [slot, Stores] using hslot) hc
    | getOrCreate n k _ _ => exact absurd (by simpa [slot, Stores] using hslot) hc
    | wait _ => cases hslot

end CacheCall

variable {name key : String}

/-- Calls that keep an entry leave it in place; the clock moves by the time
they let pass. -/
theorem runCalls_keeps {e : Entry} :
    ∀ (cs : List CacheCall) (w : World), w.entry name key = some e →
      Keeps name key e.stamp w.clock cs →
      ∃ w', (runCalls cs).run.run w = (.ok (), w') ∧ w'.entry name key = some e ∧
        w'.clock = w.clock + elapsedAll cs
  | [], w, he, _ => ⟨w, rfl, he, by simp [elapsedAll]⟩
  | c :: cs, w, he, ⟨hc, hcs⟩ => by
    obtain ⟨w1, hrun1, he1, hclock1⟩ := CacheCall.run_keeps he hc
    obtain ⟨w2, hrun2, he2, hclock2⟩ := runCalls_keeps cs w1 he1 (hclock1 ▸ hcs)
    refine ⟨w2, by rw [runCalls, run_bind, hrun1]; exact hrun2, he2, ?_⟩
    rw [hclock2, hclock1]
    simp [elapsedAll]
    omega

/-- Calls that store nothing for a forgotten entry leave it forgotten. -/
theorem runCalls_forgets :
    ∀ (cs : List CacheCall) (w : World), w.entry name key = none → (∀ c ∈ cs, ¬c.Stores name key) →
      ∃ w', (runCalls cs).run.run w = (.ok (), w') ∧ w'.entry name key = none
  | [], w, he, _ => ⟨w, rfl, he⟩
  | c :: cs, w, he, hcs => by
    obtain ⟨w1, hrun1, he1, -⟩ := CacheCall.run_forgets he (hcs c List.mem_cons_self)
    obtain ⟨w2, hrun2, he2⟩ := runCalls_forgets cs w1 he1 fun c' hc' => hcs c' (List.mem_cons_of_mem c hc')
    exact ⟨w2, by rw [runCalls, run_bind, hrun1]; exact hrun2, he2⟩

/-- A read after calls that end in a world answers from that world. -/
theorem readAfter_run {cs : List CacheCall} {w w' : World} (h : (runCalls cs).run.run w = (.ok (), w'))
    (ttl : Int) :
    ((readAfter cs name key ttl).run.run w).1 =
      .ok (((w'.entry name key).filter (·.live w'.clock ttl)).map (·.value)) := by
  obtain ⟨w'', hrun, -, -⟩ := cacheGet_run name key ttl w'
  rw [readAfter, run_bind, h]
  dsimp only
  rw [hrun]

/-- After a call that stores `v` at the clock, calls that keep it leave a
read answering `v` while the time they let pass is within its lifetime. -/
theorem readAfter_stored {c : CacheCall} {post : List CacheCall} {w w1 : World} {v : Cached}
    (hrun : c.run.run.run w = (.ok (), w1))
    (hentry : w1.entry name key = some { value := v, stamp := w.clock }) (hclock : w1.clock = w.clock)
    (hkeep : Keeps name key w.clock w.clock post) (ttl : Int) :
    ((readAfter (c :: post) name key ttl).run.run w).1 =
      .ok (if (elapsedAll post : Int) ≤ ttl then some v else none) := by
  obtain ⟨w2, hrun2, hentry2, hclock2⟩ := runCalls_keeps post w1 hentry (hclock ▸ hkeep)
  rw [readAfter_run (by rw [runCalls, run_bind, hrun]; exact hrun2), hentry2, hclock2, hclock,
    Entry.live_some]
  -- the entry's age is the time the later calls let pass
  have hage : w.clock + (elapsedAll post : Int) - w.clock = elapsedAll post := by omega
  simp only [hage]
  split <;> rfl

/-- After a call that leaves no entry, calls that store nothing leave every
read answering nothing. -/
theorem readAfter_forgotten {c : CacheCall} {post : List CacheCall} {w w1 : World}
    (hrun : c.run.run.run w = (.ok (), w1)) (hentry : w1.entry name key = none)
    (hpost : ∀ c ∈ post, ¬c.Stores name key) (ttl : Int) :
    ((readAfter (c :: post) name key ttl).run.run w).1 = .ok none := by
  obtain ⟨w2, hrun2, hentry2⟩ := runCalls_forgets post w1 hentry hpost
  rw [readAfter_run (by rw [runCalls, run_bind, hrun]; exact hrun2), hentry2]
  rfl

/-- What a read of a cache answers after a history of calls. A write, or a
get-or-create that finds no live entry, stores a value; when the calls after it
keep it, a read answers the value exactly while the time since the write is
within the lifetime the read asks for. An invalidation forgets the value, and
so does a read that finds it expired: until the next write, every read answers
nothing, whatever lifetime it asks for. -/
theorem cache_read_after_calls (name key : String) (v : Cached) (ttl₀ ttl : Int)
    (post : List CacheCall) (w : World) :
    (Keeps name key w.clock w.clock post →
      ((readAfter (.put name key ttl₀ v :: post) name key ttl).run.run w).1 =
        .ok (if (elapsedAll post : Int) ≤ ttl then some v else none)) ∧
    ((w.entry name key).filter (·.live w.clock ttl₀) = none → Keeps name key w.clock w.clock post →
      ((readAfter (.getOrCreate name key ttl₀ v :: post) name key ttl).run.run w).1 =
        .ok (if (elapsedAll post : Int) ≤ ttl then some v else none)) ∧
    ((∀ c ∈ post, ¬c.Stores name key) →
      ((readAfter (.drop name key ttl₀ :: post) name key ttl).run.run w).1 = .ok none) ∧
    (∀ e, w.entry name key = some e → w.clock - e.stamp > ttl₀ → (∀ c ∈ post, ¬c.Stores name key) →
      ((readAfter (.get name key ttl₀ :: post) name key ttl).run.run w).1 = .ok none) := by
  refine ⟨fun hkeep => ?_, fun hnone hkeep => ?_, fun hpost => ?_, fun e he hexp hpost => ?_⟩
  · -- a write
    obtain ⟨w1, hrun1, hentry1, hclock1⟩ := cachePut_run name key ttl₀ w v
    exact readAfter_stored (c := .put name key ttl₀ v) hrun1 (by rw [hentry1, if_pos ⟨rfl, rfl⟩])
      hclock1 hkeep ttl
  · -- a get-or-create that finds nothing live writes
    obtain ⟨w1, hrun1, hentry1, hclock1⟩ := cacheGetOrCreate_run name key ttl₀ w v
    refine readAfter_stored (by rw [CacheCall.run, run_bind, hrun1]; rfl) ?_ hclock1 hkeep ttl
    rw [hentry1, if_pos ⟨rfl, rfl⟩, hnone]
    rfl
  · -- an invalidation
    obtain ⟨w1, hrun1, hentry1, -⟩ := cacheDrop_run name key ttl₀ w
    exact readAfter_forgotten (c := .drop name key ttl₀) hrun1 (by rw [hentry1, if_pos ⟨rfl, rfl⟩])
      hpost ttl
  · -- a read that finds the entry expired drops it
    obtain ⟨w1, hrun1, hentry1, -⟩ := cacheGet_run name key ttl₀ w
    refine readAfter_forgotten (by rw [CacheCall.run, run_bind, hrun1]; rfl) ?_ hpost ttl
    rw [hentry1, if_pos ⟨rfl, rfl⟩, he, Entry.live_some, if_neg (by omega)]

/-- A listing stored for a scope under a six-minute lifetime is read back five
minutes later, past a reader that came in between. -/
theorem cache_read_after_calls_listing :
    Keeps imageListCache (Scope.key ⟨"acme", "org-1"⟩) 0 0
        [.wait 300, .get imageListCache (Scope.key ⟨"acme", "org-1"⟩) 360] ∧
      ((readAfter [.put imageListCache (Scope.key ⟨"acme", "org-1"⟩) 360 (.images []), .wait 300,
          .get imageListCache (Scope.key ⟨"acme", "org-1"⟩) 360] imageListCache
          (Scope.key ⟨"acme", "org-1"⟩) 360).run.run {}).1 = .ok (some (.images [])) := by
  have hkeep : Keeps imageListCache (Scope.key ⟨"acme", "org-1"⟩) 0 0
      [.wait 300, .get imageListCache (Scope.key ⟨"acme", "org-1"⟩) 360] :=
    ⟨trivial, fun _ _ => by decide, trivial⟩
  refine ⟨hkeep, ?_⟩
  rw [(cache_read_after_calls imageListCache (Scope.key ⟨"acme", "org-1"⟩) (.images []) 360 360
    [.wait 300, .get imageListCache (Scope.key ⟨"acme", "org-1"⟩) 360] {}).1 hkeep]
  rfl

/-- A read under a one-minute lifetime, two minutes after a write, drops the
value: a read under a ten-minute lifetime right after it answers nothing,
where without the first read it answers the value. -/
theorem cache_read_hidden_by_expired_read :
    ((readAfter [.put imageListCache (Scope.key ⟨"acme", "org-1"⟩) 600 (.images []), .wait 120]
        imageListCache (Scope.key ⟨"acme", "org-1"⟩) 600).run.run {}).1 = .ok (some (.images [])) ∧
      ((readAfter [.put imageListCache (Scope.key ⟨"acme", "org-1"⟩) 600 (.images []), .wait 120,
          .get imageListCache (Scope.key ⟨"acme", "org-1"⟩) 60]
        imageListCache (Scope.key ⟨"acme", "org-1"⟩) 600).run.run {}).1 = .ok none :=
  ⟨rfl, rfl⟩

end ImageCatalog.Remote
