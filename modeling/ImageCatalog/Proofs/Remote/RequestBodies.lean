import ImageCatalog.Proofs.Xml.ReadBack
import ImageCatalog.Capture
import ImageCatalog.Publish

/-!
# Request bodies read back

The bodies that capture a vApp, add a catalog item and create the standard
catalog are fixed templates with escaped names and descriptions and plain
addresses spliced in. This module reads each body back with `parseDocument`
and says what comes out: the element the template describes, with each
spliced value as the reader returns it (`Xml.valueRead`, `Xml.textRead`).

The values do not always come back as given. A tab, a line feed or a carriage
return in a name is written as it is and read back as a space; a carriage
return in a description is read back as a line feed, and an empty description
gives no text at all. Addresses are not escaped, so they read back only when
they hold no `<`, `&` or `"`.

Main results:

* `captureRequest_reads`, `catalogItemBody_reads`, `createCatalogBody_reads`:
  each body is read back as its element, with one reader step per tag and per
  character of the description.
* `requestBodies_read_back`: the three together, for every name and
  description of document characters and every address without markup.
-/

namespace ImageCatalog

open ImageCatalog.Xml ImageCatalog.Remote

/-! ## The elements the bodies are written to be -/

/-- A capture of the vApp at `href` into a template `name`, described by
`description`. -/
def captureParams (name : String) (description : Option String) (href : String) : Element :=
  .mk ⟨some cloudNamespace, "CaptureVAppParams"⟩ [(QName.plain "name", name)] none
    [.mk ⟨some cloudNamespace, "Description"⟩ [] description [] none,
     .mk ⟨some cloudNamespace, "Source"⟩ [(QName.plain "href", href), (QName.plain "type", MediaType.vApp)]
       none [] none,
     .mk ⟨some cloudNamespace, "CustomizationSection"⟩ [] none
       [.mk ⟨some ovfNamespace, "Info"⟩ [] none [] none,
        .mk ⟨some cloudNamespace, "CustomizeOnInstantiate"⟩ [] (some "true") [] none] none] none

/-- A catalog item `name` for the template at `href`, described by
`description`. -/
def catalogItemParams (name : String) (description : Option String) (href : String) : Element :=
  .mk ⟨some cloudNamespace, "CatalogItem"⟩ [(QName.plain "name", name)] none
    [.mk ⟨some cloudNamespace, "Description"⟩ [] description [] none,
     .mk ⟨some cloudNamespace, "Entity"⟩ [(QName.plain "href", href), (QName.plain "name", name),
       (QName.plain "type", MediaType.vAppTemplate), (⟨some xsiNamespace, "type"⟩, "ResourceReferenceType")]
       none [] none] none

/-- An unpublished catalog `name`, described by `description`. -/
def adminCatalogParams (name description : String) : Element :=
  .mk ⟨some cloudNamespace, "AdminCatalog"⟩ [(QName.plain "name", name)] none
    [.mk ⟨some cloudNamespace, "Description"⟩ [] (some description) [] none,
     .mk ⟨some cloudNamespace, "IsPublished"⟩ [] (some "false") [] none] none

/-! ## Descriptions -/

/-- A `Description` element with written text, inside any element. -/
theorem readContent_description {decls : Declarations} {fuel : Nat} {o : OpenElement}
    {outer : List OpenElement} {w s : List Char} (hw : Written w s) (hgt : '>' ∉ w) (rest : List Char)
    (pos : Nat) :
    readContent decls (fuel + (lineFeeds s).length + 1 + 1) (o :: outer) []
        ("<Description>".toList ++ (w ++ ("</Description>".toList ++ rest))) pos =
      readContent decls fuel
        (addChild (o :: outer) (.mk ⟨o.scope.default, "Description"⟩ [] (textRead s) [] none))
        [] rest (pos + 2 + 11 + w.length + 2 + 12) := by
  show readContent decls _ _ [] ('<' :: 'D' :: ("escription>".toList ++
    (w ++ ('<' :: '/' :: ("Description>".toList ++ rest))))) pos = _
  exact readContent_textElement rfl (fun _ _ => rfl) (fun _ => rfl) hw hgt (fun _ _ => rfl)

/-! ## The capture request -/

section Capture

set_option maxRecDepth 4000 in
theorem captureRoot_scan (r : List Char) : scanTag 0 [] [] (.elemName ['C'] 0)
        ("aptureVAppParams xmlns=\"".toList ++ (cloudNamespace.toList ++ ("\" xmlns:ovf=\"".toList ++
          (ovfNamespace.toList ++ ("\" ".toList ++ ("name=\"".toList ++ r)))))) 2 =
        scanTag 0 "CaptureVAppParams".toList [⟨"xmlns:ovf".toList, 61, ovfNamespace.toList, 72⟩,
          ⟨"xmlns".toList, 19, cloudNamespace.toList, 26⟩] (.value "name".toList 112 '"' [] none 118) r 118 :=
  rfl

/-- The root of a capture request opens with the cloud namespace as default
and the `ovf` prefix bound. -/
theorem captureRoot_open {N s : List Char} (hN : Written N s) (decls : Declarations) (fuel : Nat)
    (rest : List Char) :
    readContent decls (fuel + 1) [] []
      ('<' :: 'C' :: ("aptureVAppParams xmlns=\"".toList ++ (cloudNamespace.toList ++ ("\" xmlns:ovf=\"".toList ++
        (ovfNamespace.toList ++ ("\" ".toList ++ ("name=\"".toList ++ (N ++ ("\">".toList ++ rest))))))))) 0 =
      readContent decls fuel [⟨"CaptureVAppParams".toList, ⟨some cloudNamespace, "CaptureVAppParams"⟩,
        [(QName.plain "name", valueRead s)], none, #[],
        ⟨[("ovf", ovfNamespace), ("xml", xmlNamespace)], some cloudNamespace⟩⟩] [] rest (118 + N.length + 2) := by
  have hscan : scanTag 0 [] [] (.elemName ['C'] 0)
      ("aptureVAppParams xmlns=\"".toList ++ (cloudNamespace.toList ++ ("\" xmlns:ovf=\"".toList ++
        (ovfNamespace.toList ++ ("\" ".toList ++ ("name=\"".toList ++ (N ++ ('"' :: '>' :: rest)))))))) 2 =
      .ok (⟨"CaptureVAppParams".toList, [⟨"xmlns".toList, 19, cloudNamespace.toList, 26⟩,
        ⟨"xmlns:ovf".toList, 61, ovfNamespace.toList, 72⟩, ⟨"name".toList, 112, N, 118⟩], false⟩,
        rest, 118 + N.length + 2) := by
    rw [captureRoot_scan, scanTag_value_written hN, scanTag_value_closeStart]
    simp
  have hattrs : checkAttrs decls 0 [] Scope.initial [] [⟨"xmlns".toList, 19, cloudNamespace.toList, 26⟩,
        ⟨"xmlns:ovf".toList, 61, ovfNamespace.toList, 72⟩, ⟨"name".toList, 112, N, 118⟩] =
      .ok (⟨[("ovf", ovfNamespace), ("xml", xmlNamespace)], some cloudNamespace⟩,
        [("name".toList, valueRead s)]) := by
    rw [checkAttrs_default _ rfl rfl (normalizeValue_literal decls 0 rfl _) rfl,
      checkAttrs_declare _ rfl rfl (normalizeValue_literal decls 0 rfl _) rfl,
      checkAttrs_keep _ rfl rfl (splitPrefix_ne_xmlns rfl) (normalizeValue_written decls 0 hN "" _),
      checkAttrs_nil]
    rfl
  exact readContent_openRoot rfl hscan hattrs rfl rfl rfl

/-- The `Source` link of a capture request. -/
theorem captureSource_empty {U u : List Char} (hU : Written U u) (decls : Declarations) (fuel : Nat)
    (o : OpenElement) (outer : List OpenElement) (rest : List Char) (pos : Nat) :
    readContent decls (fuel + 1) (o :: outer) []
      ("<Source href=\"".toList ++ (U ++ ("\" type=\"".toList ++ (MediaType.vApp.toList ++
        ("\"/>".toList ++ rest))))) pos =
      readContent decls fuel (addChild (o :: outer) (.mk ⟨o.scope.default, "Source"⟩
        [(QName.plain "href", valueRead u), (QName.plain "type", MediaType.vApp)] none [] none))
        [] rest (pos + 14 + U.length + 8 + MediaType.vApp.toList.length + 3) := by
  have hscan : scanTag pos [] [] (.elemName ['S'] 0)
      ("ource href=\"".toList ++ (U ++ ("\" type=\"".toList ++ (MediaType.vApp.toList ++
        ("\"/>".toList ++ rest))))) (pos + 2) =
      .ok (⟨"Source".toList, [⟨"href".toList, pos + 8, U, pos + 14⟩,
        ⟨"type".toList, pos + 14 + U.length + 2, MediaType.vApp.toList, pos + 14 + U.length + 8⟩], true⟩,
        rest, pos + 14 + U.length + 8 + MediaType.vApp.toList.length + 3) := by
    rw [show ∀ r, scanTag pos [] [] (.elemName ['S'] 0) ("ource href=\"".toList ++ r) (pos + 2) =
        scanTag pos "Source".toList [] (.value "href".toList (pos + 8) '"' [] none (pos + 14)) r (pos + 14)
        from fun _ => rfl, scanTag_value_written hU]
    rw [show ∀ (acc : List Char) (p : Nat) r, scanTag pos "Source".toList []
        (.value "href".toList (pos + 8) '"' acc none (pos + 14)) ("\" type=\"".toList ++ r) p =
        scanTag pos "Source".toList [⟨"href".toList, pos + 8, acc.reverse, pos + 14⟩]
          (.value "type".toList (p + 2) '"' [] none (p + 8)) r (p + 8) from fun _ _ _ => rfl,
      scanTag_value_written (written_literal rfl), show "\"/>".toList ++ rest = '"' :: '/' :: '>' :: rest from rfl,
      scanTag_value_closeEmpty]
    simp [Nat.add_assoc]
  have hattrs : checkAttrs decls pos [] o.scope [] [⟨"href".toList, pos + 8, U, pos + 14⟩,
        ⟨"type".toList, pos + 14 + U.length + 2, MediaType.vApp.toList, pos + 14 + U.length + 8⟩] =
      .ok (o.scope, [("href".toList, valueRead u), ("type".toList, MediaType.vApp)]) := by
    rw [checkAttrs_keep _ rfl rfl (splitPrefix_ne_xmlns rfl) (normalizeValue_written decls pos hU "" _),
      checkAttrs_keep _ rfl rfl (splitPrefix_ne_xmlns rfl) (normalizeValue_literal decls pos rfl _),
      checkAttrs_nil, String.ofList_toList]
    simp
  exact readContent_emptyChild rfl hscan hattrs rfl rfl rfl

/-- The customization section that closes a capture request, and the end of
the request. -/
theorem captureTail (decls : Declarations) (fuel : Nat) (name : QName) (attrs : List (QName × String))
    (text : Option String) (children : Array Element) (pos : Nat) :
    readContent decls (fuel + 10) [⟨"CaptureVAppParams".toList, name, attrs, text, children,
      ⟨[("ovf", ovfNamespace), ("xml", xmlNamespace)], some cloudNamespace⟩⟩] []
      ("<CustomizationSection><ovf:Info/><CustomizeOnInstantiate>true</CustomizeOnInstantiate>".toList ++
        "</CustomizationSection></CaptureVAppParams>".toList) pos =
      .ok (.mk name attrs text (children.push (.mk ⟨some cloudNamespace, "CustomizationSection"⟩ [] none
        [.mk ⟨some ovfNamespace, "Info"⟩ [] none [] none,
         .mk ⟨some cloudNamespace, "CustomizeOnInstantiate"⟩ [] (some "true") [] none] none)).toList none,
        [], pos + 129) :=
  rfl

theorem captureRequest_toList (cn : Connection) (o : CaptureOptions) (vappId : String) :
    (cn.captureRequest o vappId).toList =
      '<' :: 'C' :: ("aptureVAppParams xmlns=\"".toList ++ (cloudNamespace.toList ++ ("\" xmlns:ovf=\"".toList ++
      (ovfNamespace.toList ++ ("\" ".toList ++ ("name=\"".toList ++ ((escapeMarkup o.name).toList ++
      ("\">".toList ++ ("<Description>".toList ++ ((escapeMarkup o.effectiveDescription).toList ++
      ("</Description>".toList ++ ("<Source href=\"".toList ++ ((cn.client.toUrl "vApp" vappId).toList
      ++ ("\" type=\"".toList ++ (MediaType.vApp.toList ++ ("\"/>".toList ++
      ("<CustomizationSection><ovf:Info/><CustomizeOnInstantiate>true</CustomizeOnInstantiate>".toList
      ++ "</CustomizationSection></CaptureVAppParams>".toList))))))))))))))))) := by
  unfold Connection.captureRequest
  simp only [String.toList_append, List.append_assoc]
  rfl

/-- A capture request is read back as the capture it is written to be. -/
theorem captureRequest_reads (cn : Connection) (o : CaptureOptions) (vappId : String)
    (hname : ∀ c ∈ o.name.toList, isXmlChar c = true)
    (hdesc : ∀ c ∈ o.effectiveDescription.toList, isXmlChar c = true)
    (hurl : ∀ c ∈ (cn.client.toUrl "vApp" vappId).toList, ValueChar c) :
    parseDocument (cn.captureRequest o vappId) = .ok (captureParams (valueRead o.name.toList)
      (textRead o.effectiveDescription.toList) (valueRead (cn.client.toUrl "vApp" vappId).toList)) := by
  have hD := written_escapeMarkup hdesc
  have hle := Nat.le_trans (length_lineFeeds_le o.effectiveDescription.toList) hD.length_le
  have hlen : (escapeMarkup o.effectiveDescription).toList.length + 14 ≤
      (cn.captureRequest o vappId).toList.length := by
    rw [captureRequest_toList]
    simp only [List.length_cons, List.length_append]
    have : "</Description>".toList.length = 14 := rfl
    omega
  -- one step per tag, and one per character of the description read
  obtain ⟨F, hF⟩ : ∃ F, (cn.captureRequest o vappId).toList.length + 1 =
      F + 10 + 1 + (lineFeeds o.effectiveDescription.toList).length + 1 + 1 + 1 :=
    ⟨(cn.captureRequest o vappId).toList.length + 1 - ((lineFeeds o.effectiveDescription.toList).length + 14),
      by omega⟩
  refine parseDocument_of_readContent (captureRequest_toList cn o vappId) rfl ?_
  apply Exists.intro
  rw [hF, captureRoot_open (written_escapeMarkup hname),
    readContent_description hD (gt_not_mem_escapeMarkup _), addChild, captureSource_empty (written_plain hurl),
    addChild, captureTail]
  rfl

end Capture

/-! ## The catalog item -/

section CatalogItem

set_option maxRecDepth 4000 in
theorem catalogRoot_scan (r : List Char) : scanTag 0 [] [] (.elemName ['C'] 0)
    ("atalogItem xmlns=\"".toList ++ (cloudNamespace.toList ++ ("\" xmlns:xsi=\"".toList ++
      (xsiNamespace.toList ++ ("\" ".toList ++ ("name=\"".toList ++ r)))))) 2 =
    scanTag 0 "CatalogItem".toList [⟨"xmlns:xsi".toList, 55, xsiNamespace.toList, 66⟩,
      ⟨"xmlns".toList, 13, cloudNamespace.toList, 20⟩] (.value "name".toList 109 '"' [] none 115) r 115 :=
  rfl

/-- The root of a catalog item opens with the cloud namespace as default and
the `xsi` prefix bound. -/
theorem catalogRoot_open {N s : List Char} (hN : Written N s) (decls : Declarations) (fuel : Nat)
    (rest : List Char) :
    readContent decls (fuel + 1) [] []
      ('<' :: 'C' :: ("atalogItem xmlns=\"".toList ++ (cloudNamespace.toList ++ ("\" xmlns:xsi=\"".toList ++
        (xsiNamespace.toList ++ ("\" ".toList ++ ("name=\"".toList ++ (N ++ ("\">".toList ++ rest))))))))) 0 =
      readContent decls fuel [⟨"CatalogItem".toList, ⟨some cloudNamespace, "CatalogItem"⟩,
        [(QName.plain "name", valueRead s)], none, #[],
        ⟨[("xsi", xsiNamespace), ("xml", xmlNamespace)], some cloudNamespace⟩⟩] [] rest (115 + N.length + 2) := by
  have hscan : scanTag 0 [] [] (.elemName ['C'] 0)
      ("atalogItem xmlns=\"".toList ++ (cloudNamespace.toList ++ ("\" xmlns:xsi=\"".toList ++
        (xsiNamespace.toList ++ ("\" ".toList ++ ("name=\"".toList ++ (N ++ ('"' :: '>' :: rest)))))))) 2 =
      .ok (⟨"CatalogItem".toList, [⟨"xmlns".toList, 13, cloudNamespace.toList, 20⟩,
        ⟨"xmlns:xsi".toList, 55, xsiNamespace.toList, 66⟩, ⟨"name".toList, 109, N, 115⟩], false⟩,
        rest, 115 + N.length + 2) := by
    rw [catalogRoot_scan, scanTag_value_written hN, scanTag_value_closeStart]
    simp
  have hattrs : checkAttrs decls 0 [] Scope.initial [] [⟨"xmlns".toList, 13, cloudNamespace.toList, 20⟩,
        ⟨"xmlns:xsi".toList, 55, xsiNamespace.toList, 66⟩, ⟨"name".toList, 109, N, 115⟩] =
      .ok (⟨[("xsi", xsiNamespace), ("xml", xmlNamespace)], some cloudNamespace⟩,
        [("name".toList, valueRead s)]) := by
    rw [checkAttrs_default _ rfl rfl (normalizeValue_literal decls 0 rfl _) rfl,
      checkAttrs_declare _ rfl rfl (normalizeValue_literal decls 0 rfl _) rfl,
      checkAttrs_keep _ rfl rfl (splitPrefix_ne_xmlns rfl) (normalizeValue_written decls 0 hN "" _),
      checkAttrs_nil]
    rfl
  exact readContent_openRoot rfl hscan hattrs rfl rfl rfl

/-! The start tag of the `Entity` link is scanned in four pieces, one for
each attribute: the spliced values between them are scanned by
`scanTag_value_written`. -/

theorem entity_scan_href (pos : Nat) (r : List Char) : scanTag pos [] [] (.elemName ['E'] 0)
    ("ntity href=\"".toList ++ r) (pos + 2) =
    scanTag pos "Entity".toList [] (.value "href".toList (pos + 8) '"' [] none (pos + 14)) r (pos + 14) :=
  rfl

theorem entity_scan_name (pos p : Nat) (acc r : List Char) :
    scanTag pos "Entity".toList [] (.value "href".toList (pos + 8) '"' acc none (pos + 14))
      ("\" name=\"".toList ++ r) p =
    scanTag pos "Entity".toList [⟨"href".toList, pos + 8, acc.reverse, pos + 14⟩]
      (.value "name".toList (p + 2) '"' [] none (p + 8)) r (p + 8) :=
  rfl

theorem entity_scan_type (pos p q : Nat) (a : RawAttr) (acc r : List Char) :
    scanTag pos "Entity".toList [a] (.value "name".toList (p + 2) '"' acc none (p + 8))
      ("\" ".toList ++ ("type=\"".toList ++ r)) q =
    scanTag pos "Entity".toList [⟨"name".toList, p + 2, acc.reverse, p + 8⟩, a]
      (.value "type".toList (q + 2) '"' [] none (q + 8)) r (q + 8) :=
  rfl

set_option maxRecDepth 4000 in
theorem entity_scan_xsiType (pos q t : Nat) (a b : RawAttr) (acc r : List Char) :
    scanTag pos "Entity".toList [b, a] (.value "type".toList (q + 2) '"' acc none (q + 8))
      ("\" xsi:type=\"ResourceReferenceType\"/>".toList ++ r) t =
    .ok (⟨"Entity".toList, [a, b, ⟨"type".toList, q + 2, acc.reverse, q + 8⟩,
      ⟨"xsi:type".toList, t + 2, "ResourceReferenceType".toList, t + 12⟩], true⟩, r, t + 12 + 21 + 3) :=
  rfl

/-- The `Entity` link of a catalog item, in an element where the `xsi` prefix
is bound. -/
theorem catalogEntity_empty {U u N n : List Char} (hU : Written U u) (hN : Written N n)
    (decls : Declarations) (fuel : Nat) {o : OpenElement} (hxsi : o.scope.lookup "xsi" = some xsiNamespace)
    (outer : List OpenElement) (rest : List Char) (pos : Nat) :
    readContent decls (fuel + 1) (o :: outer) []
      ("<Entity href=\"".toList ++ (U ++ ("\" name=\"".toList ++ (N ++ ("\" ".toList ++ ("type=\"".toList ++
        (MediaType.vAppTemplate.toList ++ ("\" xsi:type=\"ResourceReferenceType\"/>".toList ++ rest)))))))) pos =
      readContent decls fuel (addChild (o :: outer) (.mk ⟨o.scope.default, "Entity"⟩
        [(QName.plain "href", valueRead u), (QName.plain "name", valueRead n),
          (QName.plain "type", MediaType.vAppTemplate), (⟨some xsiNamespace, "type"⟩, "ResourceReferenceType")]
        none [] none))
        [] rest (pos + 14 + U.length + 8 + N.length + 8 + MediaType.vAppTemplate.toList.length + 12 + 21 + 3) := by
  have hscan : scanTag pos [] [] (.elemName ['E'] 0)
      ("ntity href=\"".toList ++ (U ++ ("\" name=\"".toList ++ (N ++ ("\" ".toList ++ ("type=\"".toList ++
        (MediaType.vAppTemplate.toList ++ ("\" xsi:type=\"ResourceReferenceType\"/>".toList ++ rest)))))))) (pos + 2) =
      .ok (⟨"Entity".toList, [⟨"href".toList, pos + 8, U, pos + 14⟩,
        ⟨"name".toList, pos + 14 + U.length + 2, N, pos + 14 + U.length + 8⟩,
        ⟨"type".toList, pos + 14 + U.length + 8 + N.length + 2, MediaType.vAppTemplate.toList,
          pos + 14 + U.length + 8 + N.length + 8⟩,
        ⟨"xsi:type".toList, pos + 14 + U.length + 8 + N.length + 8 + MediaType.vAppTemplate.toList.length + 2,
          "ResourceReferenceType".toList,
          pos + 14 + U.length + 8 + N.length + 8 + MediaType.vAppTemplate.toList.length + 12⟩], true⟩,
        rest, pos + 14 + U.length + 8 + N.length + 8 + MediaType.vAppTemplate.toList.length + 12 + 21 + 3) := by
    rw [entity_scan_href, scanTag_value_written hU, entity_scan_name, scanTag_value_written hN, entity_scan_type,
      scanTag_value_written (written_literal rfl), entity_scan_xsiType]
    simp [Nat.add_assoc]
  have hattrs : checkAttrs decls pos [] o.scope [] [⟨"href".toList, pos + 8, U, pos + 14⟩,
        ⟨"name".toList, pos + 14 + U.length + 2, N, pos + 14 + U.length + 8⟩,
        ⟨"type".toList, pos + 14 + U.length + 8 + N.length + 2, MediaType.vAppTemplate.toList,
          pos + 14 + U.length + 8 + N.length + 8⟩,
        ⟨"xsi:type".toList, pos + 14 + U.length + 8 + N.length + 8 + MediaType.vAppTemplate.toList.length + 2,
          "ResourceReferenceType".toList,
          pos + 14 + U.length + 8 + N.length + 8 + MediaType.vAppTemplate.toList.length + 12⟩] =
      .ok (o.scope, [("href".toList, valueRead u), ("name".toList, valueRead n),
        ("type".toList, MediaType.vAppTemplate), ("xsi:type".toList, "ResourceReferenceType")]) := by
    have hxsiType : splitPrefix "xsi:type".toList = some ("xsi", "type") := rfl
    rw [checkAttrs_keep _ rfl rfl (splitPrefix_ne_xmlns rfl) (normalizeValue_written decls pos hU "" _),
      checkAttrs_keep _ rfl rfl (splitPrefix_ne_xmlns rfl) (normalizeValue_written decls pos hN "" _),
      checkAttrs_keep _ rfl rfl (splitPrefix_ne_xmlns rfl) (normalizeValue_literal decls pos rfl _),
      checkAttrs_keep _ rfl rfl (splitPrefix_ne_xmlns_of_eq hxsiType (by decide))
        (normalizeValue_literal decls pos rfl _),
      checkAttrs_nil, String.ofList_toList]
    simp
  -- `xsi:type` takes the namespace bound to `xsi`; the other names have no prefix
  have hres : resolveAttrs o.scope pos [] [("href".toList, valueRead u), ("name".toList, valueRead n),
        ("type".toList, MediaType.vAppTemplate), ("xsi:type".toList, "ResourceReferenceType")] =
      .ok [(QName.plain "href", valueRead u), (QName.plain "name", valueRead n),
        (QName.plain "type", MediaType.vAppTemplate), (⟨some xsiNamespace, "type"⟩, "ResourceReferenceType")] := by
    rw [resolveAttrs_plain _ rfl, resolveAttrs_plain _ rfl, resolveAttrs_plain _ rfl,
      resolveAttrs_prefixed _ rfl hxsi rfl]
    rfl
  exact readContent_emptyChild rfl hscan hattrs hres rfl rfl

theorem catalogTail (decls : Declarations) (fuel : Nat) (name : QName) (attrs : List (QName × String))
    (text : Option String) (children : Array Element) (scope : Xml.Scope) (pos : Nat) :
    readContent decls (fuel + 1) [⟨"CatalogItem".toList, name, attrs, text, children, scope⟩] []
      "</CatalogItem>".toList pos = .ok (.mk name attrs text children.toList none, [], pos + 14) :=
  rfl

theorem catalogItemBody_toList (url : String) (img : Image) :
    (catalogItemBody url img).toList =
      '<' :: 'C' :: ("atalogItem xmlns=\"".toList ++ (cloudNamespace.toList ++ ("\" xmlns:xsi=\"".toList ++
      (xsiNamespace.toList ++ ("\" ".toList ++ ("name=\"".toList ++ ((escapeMarkup img.name).toList ++
      ("\">".toList ++ ("<Description>".toList ++ ((escapeMarkup img.description).toList ++
      ("</Description>".toList ++ ("<Entity href=\"".toList ++ (url.toList ++ ("\" name=\"".toList ++
      ((escapeMarkup img.name).toList ++ ("\" ".toList ++ ("type=\"".toList ++ (MediaType.vAppTemplate.toList ++
      ("\" xsi:type=\"ResourceReferenceType\"/>".toList ++ "</CatalogItem>".toList))))))))))))))))))) := by
  unfold catalogItemBody
  simp only [String.toList_append, List.append_assoc]
  rfl

/-- A catalog item request is read back as the item it is written to be. -/
theorem catalogItemBody_reads (url : String) (img : Image)
    (hname : ∀ c ∈ img.name.toList, isXmlChar c = true)
    (hdesc : ∀ c ∈ img.description.toList, isXmlChar c = true)
    (hurl : ∀ c ∈ url.toList, ValueChar c) :
    parseDocument (catalogItemBody url img) = .ok (catalogItemParams (valueRead img.name.toList)
      (textRead img.description.toList) (valueRead url.toList)) := by
  have hD := written_escapeMarkup hdesc
  have hle := Nat.le_trans (length_lineFeeds_le img.description.toList) hD.length_le
  have hlen : (escapeMarkup img.description).toList.length + 14 ≤ (catalogItemBody url img).toList.length := by
    rw [catalogItemBody_toList]
    simp only [List.length_cons, List.length_append]
    have : "</Description>".toList.length = 14 := rfl
    omega
  -- one step per tag, and one per character of the description read
  obtain ⟨F, hF⟩ : ∃ F, (catalogItemBody url img).toList.length + 1 =
      F + 1 + 1 + (lineFeeds img.description.toList).length + 1 + 1 + 1 :=
    ⟨(catalogItemBody url img).toList.length + 1 - ((lineFeeds img.description.toList).length + 5), by omega⟩
  refine parseDocument_of_readContent (catalogItemBody_toList url img) rfl ?_
  apply Exists.intro
  rw [hF, catalogRoot_open (written_escapeMarkup hname),
    readContent_description hD (gt_not_mem_escapeMarkup _), addChild,
    catalogEntity_empty (written_plain hurl) (written_escapeMarkup hname) _ _ rfl, addChild, catalogTail]
  rfl

end CatalogItem

/-! ## The standard catalog -/

section AdminCatalog

set_option maxRecDepth 4000 in
theorem adminRoot_scan (r : List Char) : scanTag 0 [] [] (.elemName ['A'] 0)
    ("dminCatalog xmlns=\"".toList ++ (cloudNamespace.toList ++ ("\" name=\"".toList ++ r))) 2 =
    scanTag 0 "AdminCatalog".toList [⟨"xmlns".toList, 14, cloudNamespace.toList, 21⟩]
      (.value "name".toList 56 '"' [] none 62) r 62 :=
  rfl

/-- The root of a new catalog opens with the cloud namespace as default. -/
theorem adminRoot_open {N s : List Char} (hN : Written N s) (decls : Declarations) (fuel : Nat)
    (rest : List Char) :
    readContent decls (fuel + 1) [] []
      ('<' :: 'A' :: ("dminCatalog xmlns=\"".toList ++ (cloudNamespace.toList ++ ("\" name=\"".toList ++
        (N ++ ("\">".toList ++ rest)))))) 0 =
      readContent decls fuel [⟨"AdminCatalog".toList, ⟨some cloudNamespace, "AdminCatalog"⟩,
        [(QName.plain "name", valueRead s)], none, #[], ⟨[("xml", xmlNamespace)], some cloudNamespace⟩⟩]
        [] rest (62 + N.length + 2) := by
  have hscan : scanTag 0 [] [] (.elemName ['A'] 0)
      ("dminCatalog xmlns=\"".toList ++ (cloudNamespace.toList ++ ("\" name=\"".toList ++
        (N ++ ('"' :: '>' :: rest))))) 2 =
      .ok (⟨"AdminCatalog".toList, [⟨"xmlns".toList, 14, cloudNamespace.toList, 21⟩, ⟨"name".toList, 56, N, 62⟩],
        false⟩, rest, 62 + N.length + 2) := by
    rw [adminRoot_scan, scanTag_value_written hN, scanTag_value_closeStart]
    simp
  have hattrs : checkAttrs decls 0 [] Scope.initial [] [⟨"xmlns".toList, 14, cloudNamespace.toList, 21⟩,
        ⟨"name".toList, 56, N, 62⟩] =
      .ok (⟨[("xml", xmlNamespace)], some cloudNamespace⟩, [("name".toList, valueRead s)]) := by
    rw [checkAttrs_default _ rfl rfl (normalizeValue_literal decls 0 rfl _) rfl,
      checkAttrs_keep _ rfl rfl (splitPrefix_ne_xmlns rfl) (normalizeValue_written decls 0 hN "" _),
      checkAttrs_nil]
    rfl
  exact readContent_openRoot rfl hscan hattrs rfl rfl rfl

theorem adminTail (decls : Declarations) (fuel : Nat) (name : QName) (attrs : List (QName × String))
    (text : Option String) (children : Array Element) (pos : Nat) :
    readContent decls (fuel + 8) [⟨"AdminCatalog".toList, name, attrs, text, children,
      ⟨[("xml", xmlNamespace)], some cloudNamespace⟩⟩] []
      "<IsPublished>false</IsPublished></AdminCatalog>".toList pos =
      .ok (.mk name attrs text (children.push (.mk ⟨some cloudNamespace, "IsPublished"⟩ [] (some "false") [] none)).toList
        none, [], pos + 47) :=
  rfl

theorem createCatalogBody_toList :
    createCatalogBody.toList =
      '<' :: 'A' :: ("dminCatalog xmlns=\"".toList ++ (cloudNamespace.toList ++ ("\" name=\"".toList ++
      ((escapeMarkup standardCatalogName).toList ++ ("\">".toList ++ ("<Description>".toList ++
      ((escapeMarkup standardCatalogDescription).toList ++ ("</Description>".toList ++
      "<IsPublished>false</IsPublished></AdminCatalog>".toList)))))))) := by
  unfold createCatalogBody
  simp only [String.toList_append, List.append_assoc]
  rfl

/-- The request that creates the standard catalog is read back with the
catalog's name and description as they are: neither holds a blank but a
space. -/
theorem createCatalogBody_reads :
    parseDocument createCatalogBody = .ok (adminCatalogParams standardCatalogName standardCatalogDescription) := by
  have hname := plain_of_all (show standardCatalogName.toList.all isPlainValueChar = true by decide)
  have hdesc := plain_of_all (show standardCatalogDescription.toList.all isPlainValueChar = true by decide)
  have hN := written_escapeMarkup fun c hc => (hname c hc).1.1
  have hD := written_escapeMarkup fun c hc => (hdesc c hc).1.1
  have hle := Nat.le_trans (length_lineFeeds_le standardCatalogDescription.toList) hD.length_le
  have hlen : (escapeMarkup standardCatalogDescription).toList.length + 14 ≤ createCatalogBody.toList.length := by
    rw [createCatalogBody_toList]
    simp only [List.length_cons, List.length_append]
    have : "</Description>".toList.length = 14 := rfl
    omega
  obtain ⟨F, hF⟩ : ∃ F, createCatalogBody.toList.length + 1 =
      F + 8 + (lineFeeds standardCatalogDescription.toList).length + 1 + 1 + 1 :=
    ⟨createCatalogBody.toList.length + 1 - ((lineFeeds standardCatalogDescription.toList).length + 11), by omega⟩
  -- the values come back unchanged
  rw [adminCatalogParams, ← valueRead_of_forall fun c hc => (hname c hc).2,
    ← textRead_of_not_mem (fun h => (hdesc _ h).2.2.2 rfl) (by decide)]
  refine parseDocument_of_readContent createCatalogBody_toList rfl ?_
  apply Exists.intro
  rw [hF, adminRoot_open hN, readContent_description hD (gt_not_mem_escapeMarkup _), addChild, adminTail]
  rfl

end AdminCatalog

/-! ## All three bodies -/

/-- Every request body reads back as the element its template describes: the
name of a capture or a catalog item as an attribute value, with each blank
read as a space; its description as text, with line ends read as line feeds
and none when empty; and its address as written, when the address holds no
markup. The new catalog's name and description come back as they are. -/
theorem requestBodies_read_back (cn : Connection) (o : CaptureOptions) (vappId : String) (img : Image)
    (hcapture : ∀ c ∈ o.name.toList ++ o.effectiveDescription.toList, isXmlChar c = true)
    (himage : ∀ c ∈ img.name.toList ++ img.description.toList, isXmlChar c = true)
    (hvapp : ∀ c ∈ (cn.client.toUrl "vApp" vappId).toList, ValueChar c)
    (htemplate : ∀ c ∈ (cn.client.toUrl "vAppTemplate" img.imageId).toList, ValueChar c) :
    parseDocument (cn.captureRequest o vappId) = .ok (captureParams (valueRead o.name.toList)
      (textRead o.effectiveDescription.toList) (valueRead (cn.client.toUrl "vApp" vappId).toList)) ∧
    parseDocument (catalogItemBody (cn.client.toUrl "vAppTemplate" img.imageId) img) =
      .ok (catalogItemParams (valueRead img.name.toList) (textRead img.description.toList)
        (valueRead (cn.client.toUrl "vAppTemplate" img.imageId).toList)) ∧
    parseDocument createCatalogBody = .ok (adminCatalogParams standardCatalogName standardCatalogDescription) :=
  ⟨captureRequest_reads cn o vappId (fun c hc => hcapture c (List.mem_append_left _ hc))
      (fun c hc => hcapture c (List.mem_append_right _ hc)) hvapp,
    catalogItemBody_reads _ img (fun c hc => himage c (List.mem_append_left _ hc))
      (fun c hc => himage c (List.mem_append_right _ hc)) htemplate,
    createCatalogBody_reads⟩

/-- The connection to the endpoint `https://vcd.example.com/api`. -/
def exampleConnection : Connection :=
  { (default : Connection) with client := { (default : Client) with baseUrl := "https://vcd.example.com/api" } }

/-- Markup characters in a name and a description come back as they were
given. -/
theorem requestBodies_read_back_markup :
    parseDocument (exampleConnection.captureRequest ⟨"vm-1", "web & db", some "tier <one>"⟩ "vapp-1") =
      .ok (captureParams "web & db" (some "tier <one>") "https://vcd.example.com/api/vApp/vapp-1") ∧
    parseDocument (catalogItemBody "https://vcd.example.com/api/vAppTemplate/tpl-1"
        ⟨"tpl-1", "acme", "org-1", "web & db", "tier <one>", .i64, .unknown, 0, [], []⟩) =
      .ok (catalogItemParams "web & db" (some "tier <one>") "https://vcd.example.com/api/vAppTemplate/tpl-1") ∧
    parseDocument createCatalogBody = .ok (adminCatalogParams standardCatalogName standardCatalogDescription) :=
  requestBodies_read_back exampleConnection ⟨"vm-1", "web & db", some "tier <one>"⟩ "vapp-1"
    ⟨"tpl-1", "acme", "org-1", "web & db", "tier <one>", .i64, .unknown, 0, [], []⟩
    (fun c hc => List.all_eq_true.mp (show ("web & db".toList ++ "tier <one>".toList).all isXmlChar = true by decide) c hc)
    (fun c hc => List.all_eq_true.mp (show ("web & db".toList ++ "tier <one>".toList).all isXmlChar = true by decide) c hc)
    (fun c hc => (plain_of_all (show "https://vcd.example.com/api/vApp/vapp-1".toList.all
      isPlainValueChar = true by decide) c hc).1)
    (fun c hc => (plain_of_all (show "https://vcd.example.com/api/vAppTemplate/tpl-1".toList.all
      isPlainValueChar = true by decide) c hc).1)

/-- A tab in the name of a capture is read back as a space. -/
theorem captureRequest_tab_read_as_space :
    parseDocument (exampleConnection.captureRequest ⟨"vm-1", "web\tdb", some "tier one"⟩ "vapp-1") =
      .ok (captureParams "web db" (some "tier one") "https://vcd.example.com/api/vApp/vapp-1") :=
  captureRequest_reads exampleConnection ⟨"vm-1", "web\tdb", some "tier one"⟩ "vapp-1"
    (fun c hc => List.all_eq_true.mp (show "web\tdb".toList.all isXmlChar = true by decide) c hc)
    (fun c hc => List.all_eq_true.mp (show "tier one".toList.all isXmlChar = true by decide) c hc)
    (fun c hc => (plain_of_all (show "https://vcd.example.com/api/vApp/vapp-1".toList.all
      isPlainValueChar = true by decide) c hc).1)

end ImageCatalog
