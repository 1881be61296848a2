import ImageCatalog.Proofs.Capture.Paths
import ImageCatalog.Proofs.Listing.ImageLists

/-!
# The stages of a capture

A capture records its progress as stages: awaiting the VM, ready, capturing,
captured, published, and redeployed once the vApp is deployed again. The
stages are added inside a block whose end deploys the vApp whatever happened
in it, and each step between two stages can fail. Read off the relations of
the ways a capture goes, every run adds:

* the first stages of `captureStages`, in order, and then the redeployed stage
  exactly when the VM settled running and the deploy that ends the run
  returned (`Captures.stagePrefix`, `Captures.redeployed_iff`);
* no stage exactly when it stops at the VM's lookup (`Captures.nil_iff`);
* the ready stage only after the undeploy that a running VM needs
  (`Captures.undeployed_of_ready`), the captured and published stages only
  after the calls they stand for (`Captures.stageCalls`);
* the published stage whenever it returns an image, and the redeployed stage
  too when a redeploy was due (`Captures.ok_iff`): the image is computed before
  the vApp is deployed again, and a deploy that fails replaces it with its
  fault.

On a connection the image returned is the template named in the accepted
reply, loaded for the connection's account and not public
(`PublishedFrom.image`); `Connection.captureWith_stages` puts these together
for every workload service and every platform.
-/

namespace ImageCatalog

open ImageCatalog.Xml ImageCatalog.Remote

variable {σ α : Type}

/-! ## What a path says of its stages -/

/-- The stages `sts` that a capture step went through out of `stages`, with
outcome `r`: the first ones, in order, and the last, publication, exactly when
it returns an image. -/
def Reached (stages sts : List CaptureState) (r : Except Fault Image) : Prop :=
  sts <+: stages ∧ ((∃ img, r = .ok img) ↔ .published ∈ sts)

/-- The stages that call for a call before them: the captured stage follows a
load of the template and a wait for its task that returned, the published
stage a publication that returned. -/
def StageCalls (sts : List CaptureState) (evs : List Event) : Prop :=
  (.captured ∈ sts →
    (∃ tid img, .loadVapp tid (.ok (some img)) ∈ evs) ∧ ∃ response, .waitFor response (.ok ()) ∈ evs) ∧
  (.published ∈ sts → ∃ i img, .publish i (.ok img) ∈ evs)

/-- Image `img` is what services `S` published for the template that the reply
to a capture request accepted in `evs` names: the template's load answered
`img0`, whose publication answered `img`. -/
def PublishedFrom (cn : Connection) (S : CaptureServices σ) (o : CaptureOptions) (evs : List Event) (img : Image) :
    Prop :=
  ∃ d body response root tid img0, .sendCapture d body (.ok (response, root)) ∈ evs ∧
    cn.capturedTemplateId root = .ok tid ∧
    (∃ t, Answers (S.loadVapp tid o.name o.effectiveDescription t) (some img0)) ∧
    Answers (S.publish img0) img

variable {cn : Connection} {S : CaptureServices σ} {o : CaptureOptions} {stages sts sts' : List CaptureState}
  {evs evs' : List Event} {r : Except Fault Image}

theorem Reached.cons (h : Reached stages sts r) {a : CaptureState} (ha : a ≠ .published) :
    Reached (a :: stages) (a :: sts) r :=
  ⟨List.cons_prefix_cons.mpr ⟨rfl, h.1⟩, by rw [h.2, List.mem_cons]; simp [Ne.symm ha]⟩

theorem StageCalls.mono (h : StageCalls sts evs)
    (hs : ∀ x, x = .captured ∨ x = .published → x ∈ sts' → x ∈ sts)
    (he : evs ⊆ evs') : StageCalls sts' evs' := by
  refine ⟨fun hc => ?_, fun hp => ?_⟩
  · obtain ⟨⟨tid, img, hl⟩, response, hw⟩ := h.1 (hs _ (.inl rfl) hc)
    exact ⟨⟨tid, img, he hl⟩, response, he hw⟩
  · obtain ⟨i, img, hi⟩ := h.2 (hs _ (.inr rfl) hp)
    exact ⟨i, img, he hi⟩

theorem PublishedFrom.mono {img : Image} (h : PublishedFrom cn S o evs img) (he : evs ⊆ evs') :
    PublishedFrom cn S o evs' img := by
  obtain ⟨d, body, response, root, tid, img0, hsend, rest⟩ := h
  exact ⟨d, body, response, root, tid, img0, he hsend, rest⟩

/-- A request step that ended with an answer recorded that answer. -/
theorem Sends.mem_accepted {vmId vappId d body : String} {sends : List Event} {v : String × Element}
    (h : Sends vmId vappId d body sends (.ok v)) : .sendCapture d body (.ok v) ∈ sends := by
  cases h with
  | accepted => simp
  | retried e he hr => cases hr <;> simp

namespace Publishes

variable {response : String} {root : Element}

theorem reached (h : Publishes cn S o response root evs sts r) : Reached [.captured, .published] sts r := by
  cases h <;> exact ⟨by simp, by simp⟩

theorem stageCalls (h : Publishes cn S o response root evs sts r) : StageCalls sts evs := by
  cases h with
  | noTemplateId | loadFailed | lost | waitFailed => exact ⟨by simp, by simp⟩
  | publishFailed =>
    refine ⟨fun _ => ⟨⟨_, _, List.mem_cons_self⟩, response, by simp⟩, fun hp => ?_⟩
    simp at hp
  | published =>
    refine ⟨fun _ => ⟨⟨_, _, List.mem_cons_self⟩, response, by simp⟩, fun _ => ?_⟩
    exact ⟨_, _, List.mem_cons_of_mem _ (List.mem_cons_of_mem _ List.mem_cons_self)⟩

/-- The image a publication returns is the one the services published for
the template named in the reply of an accepted request. -/
theorem publishedFrom {img : Image} (h : Publishes cn S o response root evs sts (.ok img)) {d body : String}
    (hsend : .sendCapture d body (.ok (response, root)) ∈ evs') : PublishedFrom cn S o evs' img := by
  cases h with
  | published hid hload hpub => exact ⟨d, body, response, root, _, _, hsend, hid, hload, hpub⟩

end Publishes

namespace Readies

variable {vappId : String} {w : Workload}

theorem reached (h : Readies cn S o vappId w evs sts r) :
    Reached [.ready, .capturing, .captured, .published] sts r := by
  cases h with
  | noDataCenter | refused => exact ⟨by simp, by simp⟩
  | accepted _ _ hp => exact (hp.reached.cons (by simp)).cons (by simp)

theorem stageCalls (h : Readies cn S o vappId w evs sts r) : StageCalls sts evs := by
  cases h with
  | noDataCenter | refused => exact ⟨by simp, by simp⟩
  | accepted _ _ hp =>
    exact hp.stageCalls.mono (fun x hx hmem => by rcases hx with rfl | rfl <;> simpa using hmem)
      (List.subset_append_right _ _)

theorem publishedFrom {img : Image} (h : Readies cn S o vappId w evs sts (.ok img)) :
    PublishedFrom cn S o evs img := by
  cases h with
  | accepted _ hs hp => exact hp.publishedFrom (List.mem_append_left _ hs.mem_accepted)

end Readies

namespace ReadiesAfter

variable {vappId : String} {w : Workload} {running : Bool}

theorem reached (h : ReadiesAfter cn S o vappId w running evs sts r) :
    Reached [.ready, .capturing, .captured, .published] sts r := by
  cases h with
  | stopped h | undeployed h => exact h.reached
  | undeployFailed => exact ⟨by simp, by simp⟩

theorem stageCalls (h : ReadiesAfter cn S o vappId w running evs sts r) : StageCalls sts evs := by
  cases h with
  | stopped h => exact h.stageCalls
  | undeployed h => exact h.stageCalls.mono (fun _ _ hm => hm) (List.subset_cons_self _ _)
  | undeployFailed => exact ⟨by simp, by simp⟩

theorem publishedFrom {img : Image} (h : ReadiesAfter cn S o vappId w running evs sts (.ok img)) :
    PublishedFrom cn S o evs img := by
  cases h with
  | stopped h => exact h.publishedFrom
  | undeployed h => exact h.publishedFrom.mono (List.subset_cons_self _ _)

theorem redeployed_not_mem (h : ReadiesAfter cn S o vappId w running evs sts r) : .redeployed ∉ sts :=
  fun hm => by simpa using h.reached.1.subset hm

/-- A capture step that reached the ready stage undeployed the vApp first, when
it had to, and that undeploy returned. -/
theorem undeployed_of_ready (h : ReadiesAfter cn S o vappId w running evs sts r) (hr : .ready ∈ sts)
    (hrun : running = true) : ∃ rest, evs = .undeploy vappId (.ok ()) :: rest := by
  cases h with
  | stopped => cases hrun
  | undeployFailed => simp at hr
  | undeployed => exact ⟨_, rfl⟩

end ReadiesAfter

namespace Redeploys

variable {vappId : String} {running : Bool} {tail : List Event} {fin : List CaptureState} {r' : Except Fault Image}

theorem fin_eq (h : Redeploys vappId running r tail fin r') : fin = [] ∨ fin = [.redeployed] := by
  cases h <;> simp

theorem eq_of_ok (h : Redeploys vappId running r tail fin r') {img : Image} (hr : r' = .ok img) : r = .ok img := by
  cases h with
  | kept | redeployed => exact hr
  | deployFailed => cases hr

end Redeploys

namespace CapturesFound

variable {vappId : String} {w : Workload} {settled : Option Workload}

/-- The VM settled as running exactly when its settled state is not the
stopped one. -/
theorem running_iff (w' : Workload) : (w'.state != .stopped) = true ↔ w'.state ≠ .stopped := by
  simp [VmState.bne_eq]

theorem stopped_of_not_running {w' : Workload} (h : (w'.state != .stopped) = false) : w'.state = .stopped := by
  simpa [VmState.bne_eq] using h

theorem stagePrefix (h : CapturesFound cn S o vappId w settled evs sts r) :
    ∃ pre fin, sts = pre ++ fin ∧ pre <+: captureStages ∧ (fin = [] ∨ fin = [.redeployed]) := by
  cases h with
  | unsettled => exact ⟨[.awaitingReady], [], by simp, by simp [captureStages], .inl rfl⟩
  | settled _ hc hd =>
    exact ⟨_, _, (List.cons_append ..).symm, List.cons_prefix_cons.mpr ⟨rfl, hc.reached.1⟩, hd.fin_eq⟩

theorem ok_iff (h : CapturesFound cn S o vappId w settled evs sts r) :
    (∃ img, r = .ok img) ↔
      .published ∈ sts ∧ ∀ w', settled = some w' → w'.state ≠ .stopped → .redeployed ∈ sts := by
  cases h with
  | unsettled => simp
  | @settled n polls w' evs sts r tail fin r' _ hc hd =>
    have hreach := hc.reached
    generalize hrun : (w'.state != .stopped) = running at hc hd
    -- the outcome is the capture step's, unless a deploy was due and failed
    cases hd with
    | kept => simp [hreach.2, stopped_of_not_running hrun]
    | redeployed => simp [hreach.2]
    | deployFailed => simp [hc.redeployed_not_mem, (running_iff w').mp hrun]

theorem redeployed_iff (h : CapturesFound cn S o vappId w settled evs sts r) :
    .redeployed ∈ sts ↔
      ∃ w', settled = some w' ∧ w'.state ≠ .stopped ∧ evs.getLast? = some (.deploy vappId (.ok ())) := by
  cases h with
  | unsettled => simp
  | @settled n polls w' evs sts r tail fin r' _ hc hd =>
    generalize hrun : (w'.state != .stopped) = running at hc hd
    -- the capture step never reaches the redeployed stage: only the deploy after it does
    cases hd with
    | kept => simp [hc.redeployed_not_mem, stopped_of_not_running hrun]
    | redeployed => simp [(running_iff w').mp hrun]
    | deployFailed => simp [hc.redeployed_not_mem]

/-- A capture of a found VM that reached the ready stage settled first, and,
when it settled running, undeployed its vApp before any capture request, and
that undeploy returned. -/
theorem undeployed_of_ready (h : CapturesFound cn S o vappId w settled evs sts r) (hr : .ready ∈ sts) :
    ∃ w', settled = some w' ∧
      (w'.state ≠ .stopped → .undeploy vappId (.ok ()) ∈ evs.takeWhile (!·.isSend)) := by
  cases h with
  | unsettled => simp at hr
  | @settled n polls w' evs sts r tail fin r' hset hc hd =>
    refine ⟨w', rfl, fun hne => ?_⟩
    have hready : CaptureState.ready ∈ sts := by
      rcases hd.fin_eq with rfl | rfl <;> simpa using hr
    obtain ⟨rest, rfl⟩ := hc.undeployed_of_ready hready ((running_iff w').mpr hne)
    -- the polls send nothing, so the undeploy comes before any request
    rw [List.append_assoc, List.takeWhile_append_of_pos (fun ev hev => by simp [hset.not_send ev hev])]
    simp [Event.isSend]

theorem stageCalls (h : CapturesFound cn S o vappId w settled evs sts r) : StageCalls sts evs := by
  cases h with
  | unsettled => exact ⟨by simp, by simp⟩
  | settled _ hc hd =>
    refine hc.stageCalls.mono (fun x hx hmem => ?_) (fun ev hev => by simp [hev])
    rcases hd.fin_eq with rfl | rfl <;> rcases hx with rfl | rfl <;> simpa using hmem

theorem publishedFrom {img : Image} (h : CapturesFound cn S o vappId w settled evs sts (.ok img)) :
    PublishedFrom cn S o evs img := by
  cases h with
  | settled _ hc hd =>
    rw [hd.eq_of_ok rfl] at hc
    exact hc.publishedFrom.mono (fun ev hev => by simp [hev])

end CapturesFound

namespace Captures

variable {found : Option (String × Workload)}

theorem stagePrefix (h : Captures cn S o found evs sts r) :
    ∃ pre fin, sts = pre ++ fin ∧ pre <+: captureStages ∧ (fin = [] ∨ fin = [.redeployed]) := by
  cases h with
  | noVmId | lookupFailed | noVm | noVapp => exact ⟨[], [], rfl, List.nil_prefix, .inl rfl⟩
  | found _ _ hf => exact hf.stagePrefix

theorem ok_iff (h : Captures cn S o found evs sts r) :
    (∃ img, r = .ok img) ↔
      .published ∈ sts ∧
        ∀ vappId w, found = some (vappId, w) → w.state ≠ .stopped → .redeployed ∈ sts := by
  cases h with
  | noVmId | lookupFailed | noVm | noVapp => simp
  | found _ _ hf =>
    rw [hf.ok_iff]
    refine and_congr_right fun _ =>
      ⟨fun hall vappId w' hfound hne => ?_, fun hall w' hw' hne => hall _ w' (by rw [hw']; rfl) hne⟩
    obtain ⟨w'', hs, ⟨⟩⟩ := Option.map_eq_some_iff.mp hfound
    exact hall _ hs hne

theorem redeployed_iff (h : Captures cn S o found evs sts r) :
    .redeployed ∈ sts ↔ ∃ vappId w, found = some (vappId, w) ∧ w.state ≠ .stopped ∧
      evs.getLast? = some (.deploy vappId (.ok ())) := by
  cases h with
  | noVmId | lookupFailed | noVm | noVapp => simp
  | @found _ w vappId settled evs sts r _ hf =>
    rw [hf.redeployed_iff]
    -- the lookup opens the transcript, so it ends with a deploy exactly when the rest does
    have hlast : ∀ v, (Event.workload o.vmId (.ok (some w)) :: evs).getLast? = some (.deploy v (.ok ())) ↔
        evs.getLast? = some (.deploy v (.ok ())) := by
      intro v
      rw [List.getLast?_cons]
      cases evs.getLast? <;> simp
    constructor
    · rintro ⟨w', hs, hne, hl⟩
      exact ⟨vappId, w', by rw [hs]; rfl, hne, (hlast vappId).mpr hl⟩
    · rintro ⟨v, w', hfound, hne, hl⟩
      obtain ⟨w'', hs, ⟨⟩⟩ := Option.map_eq_some_iff.mp hfound
      exact ⟨w', hs, hne, (hlast _).mp hl⟩

theorem nil_iff (h : Captures cn S o found evs sts r) :
    sts = [] ↔ o.vmId.isEmpty = true ∨
      ∃ answer, evs = [.workload o.vmId answer] ∧ ∀ w, answer = .ok (some w) → w.parentVappId = none := by
  cases h with
  | noVmId hvm => simp [hvm]
  | lookupFailed _ e => simp
  | noVm => simp
  | noVapp _ hv => simp [hv]
  | found hvm hv hf =>
    -- a found VM reaches the awaiting stage, and its lookup named a vApp
    have hne : sts ≠ [] := by cases hf <;> simp
    simp only [hne, false_iff, hvm, Bool.false_eq_true, false_or, not_exists, not_and, List.cons.injEq]
    intro answer ⟨heq, _⟩ hnone
    cases heq
    simp [hnone _ rfl] at hv

theorem undeployed_of_ready (h : Captures cn S o found evs sts r) (hr : .ready ∈ sts) :
    ∃ vappId w, found = some (vappId, w) ∧
      (w.state ≠ .stopped → .undeploy vappId (.ok ()) ∈ evs.takeWhile (!·.isSend)) := by
  cases h with
  | noVmId | lookupFailed | noVm | noVapp => simp at hr
  | @found _ w vappId settled evs sts r _ hf =>
    obtain ⟨w', hs, hu⟩ := hf.undeployed_of_ready hr
    refine ⟨vappId, w', by rw [hs]; rfl, fun hne => ?_⟩
    rw [List.takeWhile_cons_of_pos (by rfl)]
    exact List.mem_cons_of_mem _ (hu hne)

theorem stageCalls (h : Captures cn S o found evs sts r) : StageCalls sts evs := by
  cases h with
  | noVmId | lookupFailed | noVm | noVapp => exact ⟨by simp, by simp⟩
  | found _ _ hf => exact hf.stageCalls.mono (fun _ _ hm => hm) (List.subset_cons_self _ _)

theorem publishedFrom {img : Image} (h : Captures cn S o found evs sts (.ok img)) : PublishedFrom cn S o evs img := by
  cases h with
  | found _ _ hf => exact hf.publishedFrom.mono (List.subset_cons_self _ _)

end Captures

/-! ## Captures on a connection -/

/-- What a run of `x` guarantees of the values it returns holds of each of its
answers. -/
theorem Answers.of_guards {x : Session α} {Q : α → Prop} (hx : Guards (fun _ => True) Q x) {a : α}
    (ha : Answers x a) : Q a := by
  obtain ⟨w, w', hrun⟩ := ha
  exact (hx w trivial).2 a (by rw [hrun])

namespace Connection

variable (cn : Connection)

/-- The id a capture reads off an accepted reply is that of the link of its
first template. -/
theorem capturedTemplateId_eq_ok {root : Element} {tid : String} (h : cn.capturedTemplateId root = .ok tid) :
    ∃ t href, root.findFirst "VAppTemplate" = some t ∧ t.target = some href ∧ tid = cn.client.toId href := by
  unfold capturedTemplateId at h
  split at h
  · cases h
  · split at h
    · cases h
    · cases h
      exact ⟨_, _, by assumption, by assumption, rfl⟩

/-- Publishing an image sets its catalog item tag at most: the image it
returns is the one it was given in every field and every other tag. -/
theorem publish_keeps (img : Image) :
    Guards (fun _ => True)
      (fun img' => img'.untagged = img.untagged ∧ ∀ k, k ≠ Tag.catalogItemId → img'.tag? k = img.tag? k)
      (cn.publish img) := by
  unfold publish
  refine Guards.bind Guards.triv fun catalog _ => ?_
  refine Guards.bind Guards.triv fun response _ => ?_
  refine Guards.bind (Guards.orFail _) fun root _ => ?_
  refine Guards.bind (Guards.orFail _) fun _ _ => ?_
  dsimp only
  refine Guards.bind Guards.triv fun _ _ => Guards.pure ?_
  split
  · exact ⟨Image.untagged_setTag .., fun k hk => Image.tag?_setTag_of_ne _ _ _ hk⟩
  · exact ⟨rfl, fun _ _ => rfl⟩

/-- The services of a capture on connection `cn` with any workload service:
VM lookups, undeploys and deploys answer as `W`, `U` and `D` do. -/
def withWorkloadService (W : String → Session (Option Workload)) (U D : String → Session Unit) :
    CaptureServices World :=
  { cn.services with workload := W, undeploy := U, deploy := D }

variable {W : String → Session (Option Workload)} {U D : String → Session Unit}

theorem withWorkloadService_steady : (cn.withWorkloadService W U D).Steady :=
  ⟨fun _ => ⟨_, _, rfl⟩, fun _ _ => ⟨_, rfl⟩, fun _ => ⟨_, _, rfl⟩⟩

end Connection

/-- The image a capture on a connection publishes is the template the
accepted request made, loaded for the connection's account and not public. -/
theorem PublishedFrom.image {W : String → Session (Option Workload)} {U D : String → Session Unit} {img : Image}
    (h : PublishedFrom cn (cn.withWorkloadService W U D) o evs img) :
    ∃ d body response root t href, .sendCapture d body (.ok (response, root)) ∈ evs ∧
      root.findFirst "VAppTemplate" = some t ∧ t.target = some href ∧ img.imageId = cn.client.toId href ∧
      img.ownerId = cn.scope.account ∧ img.tag? Tag.published = none := by
  obtain ⟨d, body, response, root, tid, img0, hsend, hid, ⟨nowMs, hload⟩, hpub⟩ := h
  obtain ⟨t, href, ht, hhref, rfl⟩ := Connection.capturedTemplateId_eq_ok cn hid
  obtain ⟨f, rfl⟩ := Answers.of_guards (Connection.loadVapp_built cn _ _ _ _ _ _) hload img0 rfl
  obtain ⟨huntagged, htags⟩ := Answers.of_guards (Connection.publish_keeps cn _) hpub
  have himageId : img.imageId = img.untagged.imageId := rfl
  have hownerId : img.ownerId = img.untagged.ownerId := rfl
  refine ⟨d, body, response, root, t, href, hsend, ht, hhref, ?_, ?_, ?_⟩
  · rw [himageId, huntagged]
    exact TemplateFacts.toImage_imageId ..
  · rw [hownerId, huntagged]
    exact TemplateFacts.toImage_ownerId ..
  · rw [htags _ (by decide)]
    exact TemplateFacts.toImage_published ..

/-- Every capture on a connection, whatever its workload service answers and
whatever the platform replies, goes one of the ways of `Captures`. The stages
it adds to the progress are the first ones of `captureStages`, then the
redeployed stage exactly when the VM settled running and the deploy that ends
the transcript returned. It adds none exactly when it stops at the VM's
lookup. The ready stage follows the undeploy of a running VM's vApp, before
any capture request; the captured stage a load and a task wait that returned;
the published stage a publication that returned. It returns an image exactly
when it reached publication and deployed the vApp again if it had to; that
image is the template named in the reply of an accepted request, owned by the
connection's account and not public. -/
theorem Connection.captureWith_stages (cn : Connection) (W : String → Session (Option Workload))
    (U D : String → Session Unit) (o : CaptureOptions) (p : CaptureProgress) (world : World) :
    let out := runCapture (cn.captureWith (cn.withWorkloadService W U D).recorded o) p (world, [])
    let calls := out.2.2
    ∃ found sts, out.1.2.states = p.states ++ sts ∧
      Captures cn (cn.withWorkloadService W U D) o found calls sts out.1.1 ∧
      (∃ pre fin, sts = pre ++ fin ∧ pre <+: captureStages ∧ (fin = [] ∨ fin = [.redeployed])) ∧
      (.redeployed ∈ sts ↔ ∃ vappId w, found = some (vappId, w) ∧ w.state ≠ .stopped ∧
        calls.getLast? = some (.deploy vappId (.ok ()))) ∧
      (sts = [] ↔ o.vmId.isEmpty = true ∨
        ∃ answer, calls = [.workload o.vmId answer] ∧ ∀ w, answer = .ok (some w) → w.parentVappId = none) ∧
      (.ready ∈ sts → ∃ vappId w, found = some (vappId, w) ∧
        (w.state ≠ .stopped → .undeploy vappId (.ok ()) ∈ calls.takeWhile (!·.isSend))) ∧
      StageCalls sts calls ∧
      ((∃ img, out.1.1 = .ok img) ↔ .published ∈ sts ∧
        ∀ vappId w, found = some (vappId, w) → w.state ≠ .stopped → .redeployed ∈ sts) ∧
      ∀ img, out.1.1 = .ok img → ∃ d body response root t href,
        .sendCapture d body (.ok (response, root)) ∈ calls ∧ root.findFirst "VAppTemplate" = some t ∧
        t.target = some href ∧ img.imageId = cn.client.toId href ∧ img.ownerId = cn.scope.account ∧
        img.tag? Tag.published = none := by
  intro out calls
  obtain ⟨found, evs, sts, hlog, hsts, hc⟩ :=
    Connection.captureWith_captures cn o p world [] (cn.withWorkloadService_steady (W := W) (U := U) (D := D))
  rw [List.nil_append] at hlog
  -- the transcript of the run is the one its path records
  have hcalls : calls = evs := hlog
  rw [hcalls]
  refine ⟨found, sts, hsts, hc, hc.stagePrefix, hc.redeployed_iff, hc.nil_iff, hc.undeployed_of_ready,
    hc.stageCalls, hc.ok_iff, fun img himg => ?_⟩
  rw [himg] at hc
  exact hc.publishedFrom.image

end ImageCatalog
