import Mathlib.Data.String.Basic
import ImageCatalog.Remote.Client

/-!
# Addresses and ids

A client turns a resource and an id into an address (`Client.toUrl`) and an
address back into an id (`Client.toId`), by cutting the address at its
slashes. The two are written independently; this module shows they agree.

* `splitOn_singleton`: cutting a text at one character is cutting its list of
  characters there (`List.splitOn`); the general separator search of the
  string library does nothing else when the separator is one character.
* `Client.toId_of_parts`: an address of more than two parts gives its last
  part, or with compatible ids its last two parts as a path.
* `Client.toId_toUrl_roundTrip`: with plain ids, the id of the address of an
  id without slashes is that id, whatever the base and the resource; with
  compatible ids, the id of an address two parts below the base leads back to
  that address, and reading an id again changes nothing.
-/

namespace ImageCatalog.Remote

open String in
/-- The separator search of `String.splitOn` with a one-character separator,
between two valid positions: the parts already cut (`acc`), the part being
read (`m`) and the rest (`r`). -/
theorem splitOnAux_singleton (c : Char) (l m r : List Char) (acc : List String) :
    splitOnAux (ofList (l ++ m ++ r)) (String.singleton c) ⟨utf8Len l⟩ ⟨utf8Len l + utf8Len m⟩ 0 acc =
      acc.reverse ++ (List.splitOnPPrepend (· == c) r m.reverse).map ofList := by
  -- the separator is one character: a match is complete as soon as it starts
  have hsep : String.singleton c = ofList ([] ++ [c]) := rfl
  have hget : Pos.Raw.get (String.singleton c) 0 = c := by rw [hsep]; exact get_of_valid [] [c]
  have hnext : Pos.Raw.next (String.singleton c) 0 = ⟨c.utf8Size⟩ := by
    rw [hsep]; simpa using next_of_valid [] c []
  have hend : (String.singleton c).rawEndPos = ⟨c.utf8Size⟩ := by
    rw [hsep, rawEndPos_ofList]; simp
  induction r generalizing l m acc with
  | nil =>
    unfold splitOnAux
    simp only [List.append_nil, atEnd_iff, rawEndPos_ofList, utf8Len_append, Pos.Raw.mk_le_mk,
      Nat.le_refl, if_true, List.reverse_cons, List.splitOnPPrepend_nil, List.map_cons,
      List.reverse_reverse, List.map_nil]
    simpa using extract_of_valid l m []
  | cons d r ih =>
    unfold splitOnAux
    have hd : Pos.Raw.get (ofList (l ++ m ++ d :: r)) ⟨utf8Len l + utf8Len m⟩ = d := by
      simpa using get_of_valid (l ++ m) (d :: r)
    have hdn : Pos.Raw.next (ofList (l ++ m ++ d :: r)) ⟨utf8Len l + utf8Len m⟩ =
        ⟨utf8Len l + utf8Len m + d.utf8Size⟩ := by
      simpa using next_of_valid (l ++ m) d r
    have hm : Pos.Raw.extract (ofList (l ++ m ++ d :: r)) ⟨utf8Len l⟩ ⟨utf8Len l + utf8Len m⟩ = ofList m :=
      extract_of_valid l m (d :: r)
    have hmore : ¬ (utf8Len l + utf8Len m + utf8Len (d :: r) ≤ utf8Len l + utf8Len m) := by
      have := d.utf8Size_pos
      simp only [utf8Len_cons]
      omega
    rw [if_neg (by simpa only [atEnd_iff, rawEndPos_ofList, utf8Len_append, Pos.Raw.mk_le_mk] using hmore)]
    simp only [hd, hget, hnext]
    by_cases hdc : d = c
    · -- the part read so far is cut off, and the next one starts after `d`
      subst hdc
      have hcut : (⟨utf8Len l + utf8Len m + d.utf8Size⟩ : Pos.Raw).unoffsetBy ⟨d.utf8Size⟩ =
          ⟨utf8Len l + utf8Len m⟩ := by
        simp [Pos.Raw.unoffsetBy]
      simp only [beq_self_eq_true, if_true, hdn, hcut, hm]
      rw [if_pos ((atEnd_iff _ _).2 (by rw [hend]; exact Nat.le_refl _))]
      have := ih (l ++ m ++ [d]) [] (ofList m :: acc)
      simpa [List.splitOnPPrepend_cons_eq_if, Nat.add_assoc] using this
    · have hne : (d == c) = false := by simpa using hdc
      simp only [hne, Pos.Raw.unoffsetBy_zero, hdn]
      have := ih l (m ++ [d]) acc
      simpa [List.splitOnPPrepend_cons_eq_if, hne, Nat.add_assoc] using this

/-- Cutting a text at a one-character separator cuts its characters there. -/
theorem splitOn_singleton (s : String) (c : Char) :
    s.splitOn (String.singleton c) = (s.toList.splitOn c).map String.ofList := by
  have hne : (String.singleton c == "") = false := by
    rw [beq_eq_false_iff_ne]
    intro h
    simpa using congrArg String.toList h
  have h := splitOnAux_singleton c [] [] s.toList []
  simp only [List.nil_append, String.ofList_toList, String.utf8Len_nil, Nat.add_zero,
    List.reverse_nil] at h
  rw [String.splitOn, hne, if_neg Bool.false_ne_true, List.splitOn_eq_splitOnP,
    List.splitOnP_eq_splitOnPPrepend]
  exact h

example : "a/b//c".splitOn "/" = ["a", "b", "", "c"] := by
  rw [show "/" = String.singleton '/' from rfl, splitOn_singleton]
  decide

/-! ## The parts of an address -/

theorem splitOn_slash (s : String) : s.splitOn "/" = (s.toList.splitOn '/').map String.ofList :=
  splitOn_singleton s '/'

/-- The parts of two texts joined by a slash are the parts of the first, then
those of the second. -/
theorem splitOn_slash_append (pre post : String) :
    (pre ++ "/" ++ post).splitOn "/" = pre.splitOn "/" ++ post.splitOn "/" := by
  have hslash : "/".toList = ['/'] := rfl
  simp only [splitOn_slash, String.toList_append, hslash, List.append_assoc, List.singleton_append,
    List.splitOn_append_cons_self, List.map_append]

/-- A text without slashes is its only part. -/
theorem splitOn_slash_of_not_mem {s : String} (h : '/' ∉ s.toList) : s.splitOn "/" = [s] := by
  rw [splitOn_slash, List.splitOn_eq_singleton h, List.map_singleton, String.ofList_toList]

theorem splitOn_slash_ne_nil (s : String) : s.splitOn "/" ≠ [] := by
  simp [splitOn_slash]

namespace Client

variable (c : Client)

/-- An address of more than two parts: its id is its last part, or with
compatible ids the path of its last two parts. -/
theorem toId_of_parts {href a b : String} {ps : List String}
    (hsplit : href.splitOn "/" = ps ++ [a, b]) (hps : ps ≠ []) :
    c.toId href = if c.compat then "/" ++ a ++ "/" ++ b else b := by
  have hlen : (ps ++ [a, b]).length > 2 := by
    have := List.length_pos_iff.2 hps
    simp only [List.length_append, List.length_cons, List.length_nil]
    omega
  have hsecond : (ps ++ [a, b]).getD ((ps ++ [a, b]).length - 2) "" = a := by
    simp [List.getD_eq_getElem?_getD]
  unfold toId
  simp only [hsplit, if_pos hlen, hsecond, List.getLastD_eq_getLast?, List.getLast?_append,
    List.getLast?_cons_cons, List.getLast?_singleton, Option.some_or, Option.getD_some]

/-- With plain ids, the id of the address of an id without slashes is that
id, whatever the base and the resource. -/
theorem toId_toUrl_plain (hc : c.compat = false) (resource : String) {id : String}
    (hid : '/' ∉ id.toList) : c.toId (c.toUrl resource id) = id := by
  have hurl : c.toUrl resource id =
      c.baseUrl ++ "/" ++ (if resource == "vm" then "vApp" else resource) ++ "/" ++ id := by
    simp [toUrl, hc]
  -- the path may hold slashes itself: its last part stands before the id
  obtain ⟨ps, a, hpath⟩ := List.eq_nil_or_concat ((if resource == "vm" then "vApp" else resource).splitOn "/")
    |>.resolve_left (splitOn_slash_ne_nil _)
  have hsplit : (c.toUrl resource id).splitOn "/" = (c.baseUrl.splitOn "/" ++ ps) ++ [a, id] := by
    rw [hurl, splitOn_slash_append, splitOn_slash_append, hpath, splitOn_slash_of_not_mem hid]
    simp
  have hps : c.baseUrl.splitOn "/" ++ ps ≠ [] := by simp [splitOn_slash_ne_nil]
  rw [toId_of_parts c hsplit hps, hc]
  rfl

/-- With compatible ids, the id of an address two parts below the base is the
path of those parts. -/
theorem toId_compat (hc : c.compat = true) (pre : String) {a b : String} (ha : '/' ∉ a.toList)
    (hb : '/' ∉ b.toList) : c.toId (pre ++ "/" ++ a ++ "/" ++ b) = "/" ++ a ++ "/" ++ b := by
  have hsplit : (pre ++ "/" ++ a ++ "/" ++ b).splitOn "/" = pre.splitOn "/" ++ [a, b] := by
    rw [splitOn_slash_append, splitOn_slash_append, splitOn_slash_of_not_mem ha,
      splitOn_slash_of_not_mem hb]
    simp
  rw [toId_of_parts c hsplit (splitOn_slash_ne_nil pre), hc]
  rfl

/-- An address and an id agree. With plain ids, the id of the address of an
id without slashes is that id, for every base and resource (`vm` included,
which lives under `vApp`). With compatible ids, an address `a/b` below the
base gives an id whose address is that address again, for every resource,
and the id of an id is itself. -/
theorem toId_toUrl_roundTrip :
    (c.compat = false → ∀ resource id, '/' ∉ id.toList → c.toId (c.toUrl resource id) = id) ∧
    (c.compat = true → ∀ resource a b, '/' ∉ a.toList → '/' ∉ b.toList →
      c.toUrl resource (c.toId (c.baseUrl ++ "/" ++ a ++ "/" ++ b)) = c.baseUrl ++ "/" ++ a ++ "/" ++ b ∧
      c.toId (c.toId (c.baseUrl ++ "/" ++ a ++ "/" ++ b)) = c.toId (c.baseUrl ++ "/" ++ a ++ "/" ++ b)) := by
  refine ⟨fun hc resource id hid => c.toId_toUrl_plain hc resource hid, ?_⟩
  intro hc resource a b ha hb
  rw [c.toId_compat hc c.baseUrl ha hb]
  constructor
  · -- a path id starts with a slash: it is appended to the base as it stands
    simp [toUrl, hc, String.append_assoc]
  · -- the path `/a/b` is the empty part, `a` and `b`
    have := c.toId_compat hc "" ha hb
    simpa using this

end Client

/-- A client of the default settings with the endpoint given with a trailing
slash and with plain ids: the id of a machine's address is its id. With
compatible ids: the id of a template's address leads back to it. -/
theorem toId_toUrl_roundTrip_endpoints :
    let plain := Client.ofSettings ((({} : Config.Settings).set .endpoint (.str "https://vcd.example.com/")))
    let compat := Client.ofSettings (((({} : Config.Settings).set .endpoint (.str "https://vcd.example.com/")).set
      .compat (.bool true)))
    plain.toId (plain.toUrl "vm" "vm-1") = "vm-1" ∧
      compat.toUrl "vAppTemplate" (compat.toId (compat.baseUrl ++ "/" ++ "vAppTemplate" ++ "/" ++ "tpl-1")) =
        compat.baseUrl ++ "/" ++ "vAppTemplate" ++ "/" ++ "tpl-1" :=
  ⟨(Client.toId_toUrl_roundTrip _).1 rfl "vm" "vm-1" (by decide),
    ((Client.toId_toUrl_roundTrip _).2 rfl "vAppTemplate" "vAppTemplate" "tpl-1" (by decide) (by decide)).1⟩

end ImageCatalog.Remote
