import ImageCatalog.Proofs.Platform
import ImageCatalog.Remote.World

/-!
# Named caches, entry by entry

`World.entry w name key` is the entry of the scope `key` in the named cache
`name`: the one a read of that cache finds. Each cache operation is one
equation through this view, and none of them fails or moves the clock:

* `entry_cacheGet`, `cacheGet_answer`: a read answers the value of a live
  entry (no older than the lifetime it asks for, `Entry.live`) and drops an
  entry it finds expired.
* `entry_cachePut`: a write stamps the entry with the clock.
* `entry_cacheGetOrCreate`: a get-or-create keeps a live entry and otherwise
  stores its value.
* `entry_cacheDrop`: an invalidation forgets the entry.

Every other entry, of another scope or another cache, stays as it was.
-/

namespace ImageCatalog.Remote

/-- The entry of a scope in a named cache, as a read finds it. -/
def World.entry (w : World) (name key : String) : Option Entry :=
  ((w.caches.find? (·.1 == name)).bind fun (_, c) => c.entries.find? (·.1 == key)).map (·.2)

/-- Whether an entry is live at a time under a lifetime: it is no older than
the lifetime. -/
def Entry.live (now ttl : Int) (e : Entry) : Bool := decide (now - e.stamp ≤ ttl)

/-! ## Lists keyed by name -/

section Keyed

variable {α : Type}

/-- A map that keeps keys commutes with a search by key. -/
theorem find?_key_map {l : List (String × α)} {g : String × α → String × α}
    (hg : ∀ x, (g x).1 = x.1) (k : String) :
    (l.map g).find? (·.1 == k) = (l.find? (·.1 == k)).map g := by
  rw [List.find?_map]
  congr 2
  funext x
  simp only [Function.comp_apply, hg]

/-- With the pairs of one key removed, that key is not found and every other
key is found as before. -/
theorem find?_key_filter (l : List (String × α)) (key k : String) :
    (l.filter (·.1 != key)).find? (·.1 == k) = if k = key then none else l.find? (·.1 == k) := by
  rw [List.find?_filter]
  split
  · next hk =>
    subst hk
    exact List.find?_eq_none.2 fun x _ => by by_cases hx : x.1 = k <;> simp [hx]
  · next hk =>
    congr 1
    funext x
    by_cases hx : x.1 = k
    · simp [hx, hk]
    · simp [hx]

/-- Setting the value of a key, in place or at the end: that key is found with
the new value, every other key as before. -/
theorem find?_key_set (l : List (String × α)) (key k : String) (a : α) :
    (if l.any (·.1 == key) then l.map (fun kv => if kv.1 == key then (key, a) else kv)
      else l ++ [(key, a)]).find? (·.1 == k) =
      if k = key then some (key, a) else l.find? (·.1 == k) := by
  have hkeep : ∀ kv : String × α, (if kv.1 == key then (key, a) else kv).1 = kv.1 := by
    intro kv
    by_cases h : kv.1 = key <;> simp [h]
  split
  · next hany =>
    rw [find?_key_map hkeep]
    split
    · next hk =>
      subst hk
      obtain ⟨kv, hkv⟩ := Option.isSome_iff_exists.1 (List.find?_isSome.2 (List.any_eq_true.1 hany))
      have hkey : kv.1 = k := by simpa using List.find?_some hkv
      simp [hkv, hkey]
    · next hk =>
      cases hfind : l.find? (·.1 == k) with
      | none => rfl
      | some kv =>
        have hkey : kv.1 = k := by simpa using List.find?_some hfind
        simp [hkey, hk]
  · next hany =>
    have hnone : l.find? (·.1 == key) = none :=
      List.find?_eq_none.2 fun x hx hkx => hany (List.any_eq_true.2 ⟨x, hx, hkx⟩)
    rw [List.find?_append]
    split
    · next hk => simp [hk, hnone]
    · next hk =>
      have hne : ((key, a).1 == k) = false := by simpa using Ne.symm hk
      cases l.find? (·.1 == k) <;> simp [hne]

/-- Changing the value of the pairs of one name keeps every name. -/
theorem fst_ite_name (name : String) (g : α → α) (nc : String × α) :
    (if nc.1 == name then (nc.1, g nc.2) else (nc.1, nc.2)).1 = nc.1 := by
  split <;> rfl

end Keyed

/-! ## The operations through the view -/

section Operations

variable (name key : String) (ttl : Int) (w : World) (n k : String)

theorem run_get : (get : Session World).run.run w = (.ok w, w) := rfl

theorem run_now : now.run.run w = (.ok w.clock, w) := rfl

theorem run_modify (f : World → World) : (modify f : Session Unit).run.run w = (.ok (), f w) := rfl

/-- Naming a cache with a lifetime keeps every entry and the clock, and the
cache is there afterwards. -/
theorem touchCache_entry : ((touchCache name ttl).run.run w).2.entry n k = w.entry n k := by
  simp only [touchCache, run_modify, World.entry]
  split
  · -- the cache is there: its lifetime is set, its entries kept
    have hkeep := fst_ite_name name fun c : NamedCache => { c with ttl := ttl }
    rw [find?_key_map hkeep, Option.bind_map]
    congr 2
    funext nc
    simp only [Function.comp_apply]
    split <;> rfl
  · -- a new cache, with no entries, goes last
    next hnone =>
    rw [List.find?_append]
    cases hfind : w.caches.find? (·.1 == n) with
    | some nc => rfl
    | none =>
      simp only [Option.none_or]
      by_cases hn : name = n
      · simp [hn]
      · simp [hn]

/-- Naming a cache: it succeeds, keeps every entry and the clock, and the
cache is there afterwards. -/
theorem touchCache_run : ∃ w1, (touchCache name ttl).run.run w = (.ok (), w1) ∧
    (∀ n k, w1.entry n k = w.entry n k) ∧ w1.clock = w.clock ∧
    (w1.caches.find? (·.1 == name)).isSome := by
  refine ⟨_, rfl, touchCache_entry name ttl w, rfl, ?_⟩
  show ((touchCache name ttl).run.run w).2.caches.find? (·.1 == name) |>.isSome
  simp only [touchCache, run_modify]
  split
  · next nc hfound =>
    have hkeep := fst_ite_name name fun c : NamedCache => { c with ttl := ttl }
    rw [find?_key_map hkeep, hfound]
    rfl
  · simp [List.find?_append]

/-- Changing the entries of a cache changes what is found in it, and nothing
else. -/
theorem editCache_entry (f : List (String × Entry) → List (String × Entry)) :
    ((editCache name f).run.run w).2.entry n k =
      if n = name then
        ((w.caches.find? (·.1 == name)).bind fun (_, c) => (f c.entries).find? (·.1 == k)).map (·.2)
      else w.entry n k := by
  simp only [editCache, run_modify, World.entry]
  have hkeep := fst_ite_name name fun c : NamedCache => { c with entries := f c.entries }
  rw [find?_key_map hkeep, Option.bind_map]
  split
  · next hn =>
    subst hn
    congr 1
    apply Option.bind_congr
    intro nc hnc
    have hname : nc.1 = n := by simpa using List.find?_some hnc
    simp [hname]
  · next hn =>
    congr 1
    apply Option.bind_congr
    intro nc hnc
    have hname : nc.1 = n := by simpa using List.find?_some hnc
    have hne : nc.1 ≠ name := hname ▸ hn
    simp [hne]

theorem editCache_run (f : List (String × Entry) → List (String × Entry)) :
    ∃ w2, (editCache name f).run.run w = (.ok (), w2) ∧
    (∀ n k, w2.entry n k = if n = name then
        ((w.caches.find? (·.1 == name)).bind fun (_, c) => (f c.entries).find? (·.1 == k)).map (·.2)
      else w.entry n k) ∧ w2.clock = w.clock :=
  ⟨((editCache name f).run.run w).2, rfl, fun n k => editCache_entry name w n k f, rfl⟩

/-- Removing the entries of one scope from a cache forgets that scope there. -/
theorem editCache_filter_run : ∃ w2, (editCache name (·.filter (·.1 != key))).run.run w = (.ok (), w2) ∧
    (∀ n k, w2.entry n k = if n = name ∧ k = key then none else w.entry n k) ∧ w2.clock = w.clock := by
  obtain ⟨w2, hrun, hentry, hclock⟩ := editCache_run name w (·.filter (·.1 != key))
  refine ⟨w2, hrun, fun n k => ?_, hclock⟩
  rw [hentry]
  by_cases hn : n = name
  · subst hn
    simp only [find?_key_filter]
    by_cases hk : k = key
    · simp [hk]
    · simp [hk, World.entry]
  · simp [hn]

/-- A read answers the value of the entry it finds live, and drops an entry it
finds expired. -/
theorem cacheGet_run : ∃ w', (cacheGet name ttl key).run.run w =
      (.ok (((w.entry name key).filter (·.live w.clock ttl)).map (·.value)), w') ∧
    (∀ n k, w'.entry n k =
      if n = name ∧ k = key then (w.entry name key).filter (·.live w.clock ttl) else w.entry n k) ∧
    w'.clock = w.clock := by
  obtain ⟨w1, hrun, hentry, hclock, -⟩ := touchCache_run name ttl w
  rw [cacheGet, run_bind, hrun]
  dsimp only
  rw [run_bind, run_get]
  dsimp only
  have hlook : w.entry name key =
      (((w1.caches.find? (·.1 == name)).bind fun (_, c) => c.entries.find? (·.1 == key)).map (·.2)) := by
    rw [← hentry]
    rfl
  revert hlook
  cases (w1.caches.find? (·.1 == name)).bind fun (_, c) => c.entries.find? (·.1 == key) with
  | none =>
    intro hlook
    refine ⟨w1, by rw [hlook]; rfl, fun n k => ?_, hclock⟩
    by_cases hnk : n = name ∧ k = key
    · obtain ⟨rfl, rfl⟩ := hnk
      simp [hentry, hlook]
    · simp [hnk, hentry]
  | some found =>
    obtain ⟨k', e⟩ := found
    intro hlook
    simp only [Option.map_some] at hlook
    dsimp only
    rw [hclock]
    split
    · -- expired: the entry is dropped
      next hexp =>
      have hdead : e.live w.clock ttl = false := by simp [Entry.live]; omega
      obtain ⟨w2, hrun2, hentry2, hclock2⟩ := editCache_filter_run name key w1
      rw [run_bind, hrun2]
      refine ⟨w2, by simp [hlook, Option.filter_some, hdead]; rfl, fun n k => ?_,
        by rw [hclock2, hclock]⟩
      rw [hentry2, hentry, hlook]
      by_cases hnk : n = name ∧ k = key
      · simp [hnk, Option.filter_some, hdead]
      · simp [hnk]
    · next hlive =>
      have hlive' : e.live w.clock ttl = true := by simp [Entry.live]; omega
      refine ⟨w1, by simp [hlook, Option.filter_some, hlive']; rfl, fun n k => ?_, hclock⟩
      rw [hentry]
      by_cases hnk : n = name ∧ k = key
      · obtain ⟨rfl, rfl⟩ := hnk
        simp [hlook, Option.filter_some, hlive']
      · simp [hnk]

/-- A write stamps the entry of its scope with the clock. -/
theorem cachePut_run (v : Cached) : ∃ w', (cachePut name ttl key v).run.run w = (.ok (), w') ∧
    (∀ n k, w'.entry n k =
      if n = name ∧ k = key then some { value := v, stamp := w.clock } else w.entry n k) ∧
    w'.clock = w.clock := by
  obtain ⟨w1, hrun, hentry, hclock, hfound⟩ := touchCache_run name ttl w
  rw [cachePut, run_bind, hrun]
  dsimp only
  rw [run_bind]
  obtain ⟨w2, hrun2, hentry2, hclock2⟩ := editCache_run name w1 fun es =>
    if es.any (·.1 == key) then es.map fun kv => if kv.1 == key then (key, ⟨v, w1.clock⟩) else kv
    else es ++ [(key, ⟨v, w1.clock⟩)]
  refine ⟨w2, ?_, fun n k => ?_, by rw [hclock2, hclock]⟩
  · rw [run_now]
    exact hrun2
  rw [hentry2]
  by_cases hn : n = name
  · subst hn
    simp only [find?_key_set]
    by_cases hk : k = key
    · obtain ⟨nc, hnc⟩ := Option.isSome_iff_exists.1 hfound
      simp [hk, hnc, hclock]
    · simp only [hk, and_false, if_false, ← hentry n k]
      rfl
  · simp [hn, hentry]

/-- A get-or-create answers the value of a live entry and keeps it; when the
entry is not live it stores its own value, stamped with the clock, and
answers it. -/
theorem cacheGetOrCreate_run (v : Cached) : ∃ w', (cacheGetOrCreate name ttl key v).run.run w =
      (.ok ((((w.entry name key).filter (·.live w.clock ttl)).map (·.value)).getD v), w') ∧
    (∀ n k, w'.entry n k = if n = name ∧ k = key then
        ((w.entry name key).filter (·.live w.clock ttl)).or (some { value := v, stamp := w.clock })
      else w.entry n k) ∧
    w'.clock = w.clock := by
  obtain ⟨w1, hrun, hentry, hclock⟩ := cacheGet_run name key ttl w
  rw [cacheGetOrCreate, run_bind, hrun]
  dsimp only
  revert hentry
  cases (w.entry name key).filter (·.live w.clock ttl) with
  | some e =>
    intro hentry
    refine ⟨w1, rfl, fun n k => ?_, hclock⟩
    rw [hentry]
    split <;> rfl
  | none =>
    -- nothing live: the value is written
    intro hentry
    obtain ⟨w2, hrun2, hentry2, hclock2⟩ := cachePut_run name key ttl w1 v
    rw [Option.map_none, run_bind, hrun2]
    refine ⟨w2, rfl, fun n k => ?_, by rw [hclock2, hclock]⟩
    rw [hentry2, hentry, hclock]
    split <;> rfl

/-- An invalidation forgets the entry of its scope. -/
theorem cacheDrop_run : ∃ w', (cacheDrop name ttl key).run.run w = (.ok (), w') ∧
    (∀ n k, w'.entry n k = if n = name ∧ k = key then none else w.entry n k) ∧
    w'.clock = w.clock := by
  obtain ⟨w1, hrun, hentry, hclock, -⟩ := touchCache_run name ttl w
  obtain ⟨w2, hrun2, hentry2, hclock2⟩ := editCache_filter_run name key w1
  rw [cacheDrop, run_bind, hrun]
  refine ⟨w2, hrun2, fun n k => ?_, by rw [hclock2, hclock]⟩
  rw [hentry2, hentry]

end Operations

end ImageCatalog.Remote
