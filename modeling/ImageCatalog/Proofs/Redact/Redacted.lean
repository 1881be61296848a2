import ImageCatalog.Proofs.Redact.Clean

/-!
# Redacted text stays redacted

`redact` runs four scans, one for each kind of secret. A scan leaves its own
kind clean (`Secret.clean_scrub`): wherever the kind's key and value are read,
the value is the marker. A later scan keeps an earlier kind clean when the
earlier kind `Follows` the later one: either the later value is a value of the
earlier kind too, or their keys never end together. For the session header
and the authorization header the second holds; the other five pairs are of the
first sort. So the redacted text is clean for all four kinds, every match of a
secret pattern in it has the marker as its value, and redacting it once more
changes nothing (`Secret.scrub_of_clean`).

`shorten` cuts the redacted text: what it gives is the first `n` characters,
and `...` exactly when something was cut.
-/

namespace ImageCatalog.Redact

open ImageCatalog.Pattern

/-! ## Which scans keep which kinds clean -/

theorem isCredentialChar_of_isValueChar {c : Char} (h : isValueChar c = true) :
    isCredentialChar c = true := by
  simp only [isValueChar, Bool.not_eq_eq_eq_not, Bool.not_true, Bool.or_eq_false_iff] at h
  simp [isCredentialChar, h.1.1.1.1, h.1.1.1.2]

/-- A key of the session header ends with `x-vcloud-authorization`, its
separator and no scheme, so no `Authorization` key ends with it. -/
theorem session_follows_authorization : Follows session authorization :=
  Or.inr session_authorization_apart

theorem session_follows_password : Follows session password := Or.inl fun _ h => h

theorem session_follows_token : Follows session token := Or.inl fun _ h => h

theorem authorization_follows_password : Follows authorization password :=
  Or.inl fun _ h => isCredentialChar_of_isValueChar h

theorem authorization_follows_token : Follows authorization token :=
  Or.inl fun _ h => isCredentialChar_of_isValueChar h

theorem password_follows_token : Follows password token := Or.inl fun _ h => h

/-! ## The redacted text -/

/-- A text in which no kind of secret shows a value other than the marker. -/
structure Redacted (t : List Char) : Prop where
  session_clean : session.Clean t
  authorization_clean : authorization.Clean t
  password_clean : password.Clean t
  token_clean : token.Clean t

/-- Each scan cleans its own kind and keeps the kinds scanned before it clean. -/
theorem redacted_redact (text : String) : Redacted (redact text).toList := by
  rw [redact_toList]
  have h₁ := session.clean_scrub text.toList
  have h₂ := Secret.clean_scrub_of_follows session_follows_authorization h₁
  have h₃ := Secret.clean_scrub_of_follows session_follows_password h₂
  have h₃' := Secret.clean_scrub_of_follows authorization_follows_password
    (authorization.clean_scrub (session.scrub text.toList))
  exact ⟨Secret.clean_scrub_of_follows session_follows_token h₃,
    Secret.clean_scrub_of_follows authorization_follows_token h₃',
    Secret.clean_scrub_of_follows password_follows_token (password.clean_scrub _),
    token.clean_scrub _⟩

/-- No scan changes a redacted text. -/
theorem redact_of_redacted {t : List Char} (h : Redacted t) : (redact (String.ofList t)).toList = t := by
  rw [redact_toList, String.toList_ofList, session.scrub_of_clean h.session_clean,
    authorization.scrub_of_clean h.authorization_clean, password.scrub_of_clean h.password_clean,
    token.scrub_of_clean h.token_clean]

theorem redact_redact (text : String) : redact (redact text) = redact text := by
  apply String.toList_inj.mp
  have h := redact_of_redacted (redacted_redact text)
  rwa [String.ofList_toList] at h

/-! ## Matches in a redacted text -/

theorem groupText_secretMatch_value (chars : Array Char) (p k L : Nat) :
    (secretMatch p (k, L)).groupText chars 2 = String.ofList (((chars.toList.drop p).drop k).take L) := by
  simp [Match.groupText, secretMatch, Array.toList_extract, List.extract_eq_take_drop]

/-- In a text clean for `S`, every match of a pattern that finds the hits of
`S` has the marker as its value. -/
theorem FindsHits.value_of_clean {r : Regex} {S : Secret} (hr : FindsHits r S) {t : List Char}
    (h : S.Clean t) {p : Nat} {mt : Match} (hm : r.matchAt t.toArray p false = some mt) :
    mt.groupText t.toArray 2 = marker := by
  rw [hr.matchAt_eq, Option.map_eq_some_iff] at hm
  obtain ⟨⟨k, L⟩, hhit, rfl⟩ := hm
  rw [groupText_secretMatch_value, List.toList_toArray] at *
  rw [h p k L hhit, String.ofList_toList]

theorem value_of_redacted {t : List Char} (h : Redacted t) :
    ∀ r ∈ secretRegexes, ∀ p mt, r.matchAt t.toArray p false = some mt → mt.groupText t.toArray 2 = marker := by
  rw [secretRegexes_eq]
  intro r hr p mt hm
  simp only [List.mem_cons, List.not_mem_nil, or_false] at hr
  rcases hr with rfl | rfl | rfl | rfl
  · exact sessionRegex_findsHits.value_of_clean h.session_clean hm
  · exact authorizationRegex_findsHits.value_of_clean h.authorization_clean hm
  · exact passwordRegex_findsHits.value_of_clean h.password_clean hm
  · exact tokenRegex_findsHits.value_of_clean h.token_clean hm

/-! ## Shortening -/

theorem shorten_toList (text : String) (n : Nat) :
    (shorten text n).toList =
      (redact text).toList.take n ++ (if n < (redact text).length then "...".toList else []) := by
  simp only [shorten, cutAt, Int.natCast_nonneg, if_true, Int.toNat_natCast]
  by_cases hn : n < (redact text).length
  · rw [if_pos (by exact_mod_cast hn), if_pos hn, String.toList_append, String.toList_ofList]
  · rw [if_neg (by exact_mod_cast hn), if_neg hn, List.append_nil,
      List.take_of_length_le (by rw [String.length_toList]; omega)]

/-- Redacting a message's text once leaves nothing to redact: a second pass
changes nothing, and every match of a secret pattern in the result has the
marker as its value. Shortening the text to `n` characters gives the first
`n` characters of the redacted text, followed by `...` exactly when the
redacted text is longer. -/
theorem redact_final (m : Message) :
    redact (redact m.render) = redact m.render ∧
    (∀ r ∈ secretRegexes, ∀ p mt, r.matchAt (redact m.render).toList.toArray p false = some mt →
      mt.groupText (redact m.render).toList.toArray 2 = marker) ∧
    ∀ n : Nat, (shorten m.render n).toList =
      (redact m.render).toList.take n ++ (if n < (redact m.render).length then "...".toList else []) :=
  ⟨redact_redact m.render, value_of_redacted (redacted_redact m.render), shorten_toList m.render⟩

end ImageCatalog.Redact
