import ImageCatalog.Proofs.Cache.History

/-!
# Scopes do not see each other's cached data

Every named cache keeps one entry per scope, under the scope's key
`account:region`. The calls of one scope (reads, writes, get-or-creates and
invalidations, on any caches) change nothing that a read of another key
answers (`readAfter_other_key`). Two different scopes have different keys when
neither account holds a colon (`Scope.eq_of_key_eq`); with a colon in an
account they may share one: the account `a:b` in the organization `c` and the
account `a` in the organization `b:c` both have the key `a:b:c`.

Main results:

* `runCalls_other_key`: calls about other entries keep an entry and the clock.
* `scope_reads_isolated`: for two different scopes with colon-free accounts,
  the calls of one leave every read of the other as it was.
* `scope_key_shared`: two different scopes that share a key read each other's
  data.
-/

namespace ImageCatalog

/-- A list that opens with a colon-free part up to its first colon is split
there in one way only. -/
theorem colon_split_unique :
    ∀ {a a' r r' : List Char}, ':' ∉ a → ':' ∉ a' → a ++ ':' :: r = a' ++ ':' :: r' →
      a = a' ∧ r = r'
  | [], [], _, _, _, _, h => ⟨rfl, by simpa using h⟩
  | [], c :: _, _, _, _, ha', h => by
    have hc : ':' = c := (List.cons.inj h).1
    exact absurd (hc ▸ List.mem_cons_self) ha'
  | c :: _, [], _, _, ha, _, h => by
    have hc : c = ':' := (List.cons.inj h).1
    exact absurd (hc ▸ List.mem_cons_self) ha
  | c :: a, c' :: a', _, _, ha, ha', h => by
    obtain ⟨hc, h⟩ := List.cons.inj h
    obtain ⟨rfl, rfl⟩ := colon_split_unique (fun hm => ha (List.mem_cons_of_mem c hm))
      (fun hm => ha' (List.mem_cons_of_mem c' hm)) h
    exact ⟨hc ▸ rfl, rfl⟩

/-- Two scopes whose accounts hold no colon have the same key only when they
are the same scope: the key's first colon ends the account. -/
theorem Scope.eq_of_key_eq {s s' : Scope} (ha : ':' ∉ s.account.toList)
    (ha' : ':' ∉ s'.account.toList) (h : s.key = s'.key) : s = s' := by
  have hlist := congrArg String.toList h
  simp only [Scope.key, String.toList_append] at hlist
  -- the key is the account, a colon and the region, one after the other
  have hcolon : ":".toList = [':'] := rfl
  simp only [hcolon, List.append_assoc, List.singleton_append] at hlist
  obtain ⟨hacc, hreg⟩ := colon_split_unique ha ha' hlist
  obtain ⟨account, region⟩ := s
  obtain ⟨account', region'⟩ := s'
  simp only [Scope.mk.injEq]
  exact ⟨String.toList_inj.1 hacc, String.toList_inj.1 hreg⟩

namespace Remote

variable {name key : String}

/-- A call about a cache and a scope lets no time pass. -/
theorem CacheCall.elapsed_of_slot {c : CacheCall} {n k : String} (h : c.slot = some (n, k)) :
    c.elapsed = 0 := by
  cases c with
  | wait => simp [CacheCall.slot] at h
  | _ => rfl

/-- Calls about other scopes keep an entry and the clock. -/
theorem runCalls_other_key : ∀ (cs : List CacheCall) (w : World),
    (∀ c ∈ cs, ∃ n k, c.slot = some (n, k) ∧ k ≠ key) →
    ∃ w', (runCalls cs).run.run w = (.ok (), w') ∧ w'.entry name key = w.entry name key ∧
      w'.clock = w.clock
  | [], w, _ => ⟨w, rfl, rfl, rfl⟩
  | c :: cs, w, hcs => by
    obtain ⟨n, k, hslot, hk⟩ := hcs c List.mem_cons_self
    obtain ⟨w1, hrun1, hclock1, hentry1⟩ := CacheCall.run_step c w
    obtain ⟨w2, hrun2, hentry2, hclock2⟩ :=
      runCalls_other_key cs w1 fun c' hc' => hcs c' (List.mem_cons_of_mem c hc')
    have hnot : c.slot ≠ some (name, key) := by
      rw [hslot]
      intro h
      exact hk (Prod.mk.inj (Option.some.inj h)).2
    refine ⟨w2, by rw [runCalls, run_bind, hrun1]; exact hrun2, ?_, ?_⟩
    · rw [hentry2, hentry1, if_neg hnot]
    · rw [hclock2, hclock1, CacheCall.elapsed_of_slot hslot]
      simp

/-- A read after calls about other scopes answers as it would before them. -/
theorem readAfter_other_key (cs : List CacheCall)
    (hcs : ∀ c ∈ cs, ∃ n k, c.slot = some (n, k) ∧ k ≠ key) (ttl : Int) (w : World) :
    ((readAfter cs name key ttl).run.run w).1 = ((cacheGet name ttl key).run.run w).1 := by
  obtain ⟨w', hrun, hentry, hclock⟩ := runCalls_other_key cs w hcs
  obtain ⟨w'', hget, -, -⟩ := cacheGet_run name key ttl w
  rw [readAfter_run hrun, hget, hentry, hclock]

end Remote

open Remote

/-- Two different scopes whose accounts hold no colon do not see each other's
cached data: the calls of one, in any caches, leave what a read of the other
answers as it was. -/
theorem scope_reads_isolated (s s' : Scope) (hs : s ≠ s') (ha : ':' ∉ s.account.toList)
    (ha' : ':' ∉ s'.account.toList) (cs : List CacheCall)
    (hcs : ∀ c ∈ cs, ∃ name, c.slot = some (name, s'.key)) (name : String) (ttl : Int) (w : World) :
    ((readAfter cs name s.key ttl).run.run w).1 = ((cacheGet name ttl s.key).run.run w).1 := by
  have hkey : s'.key ≠ s.key := fun h => hs (Scope.eq_of_key_eq ha ha' h.symm)
  refine readAfter_other_key cs (fun c hc => ?_) ttl w
  obtain ⟨n, hslot⟩ := hcs c hc
  exact ⟨n, s'.key, hslot, hkey⟩

/-- A listing written for one organization of an account is not what a read
for another organization finds. -/
theorem scope_reads_isolated_orgs :
    (⟨"acme", "org-1"⟩ : Scope) ≠ ⟨"acme", "org-2"⟩ ∧ ':' ∉ "acme".toList ∧
      ((readAfter [.put imageListCache (Scope.key ⟨"acme", "org-2"⟩) 360 (.images [])] imageListCache
          (Scope.key ⟨"acme", "org-1"⟩) 360).run.run {}).1 =
        ((cacheGet imageListCache 360 (Scope.key ⟨"acme", "org-1"⟩)).run.run {}).1 := by
  have hs : (⟨"acme", "org-1"⟩ : Scope) ≠ ⟨"acme", "org-2"⟩ := by decide
  have ha : ':' ∉ "acme".toList := by decide
  refine ⟨hs, ha, scope_reads_isolated _ _ hs ha ha _ (fun c hc => ?_) _ _ _⟩
  rw [List.mem_singleton] at hc
  exact ⟨imageListCache, by rw [hc]; rfl⟩

/-- The account `a:b` in the organization `c` and the account `a` in the
organization `b:c` are two scopes with one key, `a:b:c`: a list written for
one is what a read for the other finds. -/
theorem scope_key_shared :
    (⟨"a:b", "c"⟩ : Scope) ≠ ⟨"a", "b:c"⟩ ∧ Scope.key ⟨"a:b", "c"⟩ = Scope.key ⟨"a", "b:c"⟩ ∧
      ((cacheGet imageListCache 360 (Scope.key ⟨"a", "b:c"⟩)).run.run {}).1 = .ok none ∧
      ((readAfter [.put imageListCache (Scope.key ⟨"a:b", "c"⟩) 360 (.images [])] imageListCache
          (Scope.key ⟨"a", "b:c"⟩) 360).run.run {}).1 = .ok (some (.images [])) :=
  ⟨by decide, rfl, rfl, rfl⟩

end ImageCatalog
