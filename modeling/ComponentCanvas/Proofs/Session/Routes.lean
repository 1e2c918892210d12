import ComponentCanvas.Proofs.Document.Overlay
import ComponentCanvas.Proofs.Session.Runs

/-!
# Ways to Place a Component

A component is placed by its type, as the only pick of a batch, or without properties that are
written afterwards.  The first two ways give the same session.  The third one gives an instance with
the same values, maybe in another order: null takes a property away whether it comes with the
component, goes over it, or is written afterwards.
-/

namespace ComponentCanvas

/-! ## Null in defaults and in patches -/

/-- It makes no difference whether null is dropped before a patch or after it. -/
theorem get?_dropNulls_overlay {bag : Bag} (h : (Fields.keys bag).Nodup) (changes : Bag)
    (key : String) :
    Fields.get? (dropNulls (overlay bag changes)) key =
      Fields.get? (overlay (dropNulls bag) changes) key := by
  have hdropped : (Fields.keys (dropNulls bag)).Nodup := h.sublist (List.filter_sublist.map _)
  rw [get?_dropNulls (nodup_keys_overlay h changes), get?_overlay h, get?_overlay hdropped,
    get?_dropNulls h]
  -- what the patch says of the property decides, and else what the bag holds
  cases Fields.get? changes.reverse key with
  | none => rfl
  | some value => cases hnull : value.isNull <;> simp [patchedValue, hnull]

/-- Whether two instances differ in nothing but the order of their properties. -/
structure Instance.Matches (placed other : Instance) : Prop where
  typeId : placed.typeId = other.typeId
  category : placed.category = other.category
  position : placed.position = other.position
  properties : ∀ key, Fields.get? placed.properties key = Fields.get? other.properties key

/-- An instance that was added last is the one that is updated. -/
theorem Document.Sound.update_added {document : Document} (h : document.Sound) (placed : Instance)
    (changes : Bag) :
    ∃ after, (document.add placed).1.update (document.add placed).2 changes = .ok after ∧
      after.instances = document.instances ++ [((document.add placed).2,
        { placed with properties := overlay (dropNulls placed.properties) changes })] := by
  have hids : (document.add placed).2 ∈ (document.add placed).1.ids := by simp [ids, add]
  rw [update, modify]
  cases hget : (document.add placed).1.get? (document.add placed).2 with
  -- an instance that was just added is found
  | none => exact absurd hids (get?_eq_none.mp hget)
  | some found =>
    refine ⟨_, rfl, ?_⟩
    -- the identifier is new, so all instances before it stay
    have hothers : ∀ entry ∈ document.instances, entry.1 ≠ (document.add placed).2 := by
      rintro entry hentry hsame
      have hgiven := h.given entry.1 (List.mem_map_of_mem hentry)
      rw [hsame] at hgiven
      exact Nat.not_succ_le_self _ hgiven
    dsimp only
    rw [show (document.add placed).1.instances = document.instances ++ [((document.add placed).2,
      { placed with properties := dropNulls placed.properties })] from rfl, List.map_append]
    congr 1
    · refine (List.map_congr_left fun entry hentry => ?_).trans (List.map_id _)
      obtain ⟨other, kept⟩ := entry
      simp [hothers _ hentry]
    · simp

namespace Session

/-! ## The routes -/

/-- The only pick of a batch stays of it. -/
theorem ingest_pick (session : Session) (pick : Pick) :
    session.ingest [pick] [] =
      session.placePick {} (Payload.pickKey session.catalog pick) pick := rfl

/-- Whether all ways to place a type with properties agree. -/
structure RoutesAgree (session : Session) (typeId : String) (properties : Bag) : Prop where
  /-- The only pick of a batch leaves the session that placing leaves. -/
  batch : ∃ after id placed, session.place typeId (some properties) none = .ok (after, id) ∧
    session.ingest [⟨typeId, none, properties⟩] [] = (after, { placed := [id] }) ∧
    after.document.instances = session.document.instances ++ [(id, placed)]
  /-- Properties may be written after placing, wherever that is. -/
  patch : ∀ position, ∃ direct bare patched id placed other,
    session.place typeId (some properties) position = .ok (direct, id) ∧
    session.place typeId none position = .ok (bare, id) ∧
    bare.update id properties = .ok patched ∧
    direct.document.instances = session.document.instances ++ [(id, placed)] ∧
    patched.document.instances = session.document.instances ++ [(id, other)] ∧
    placed.Matches other

/-- In a session that was reached in any way, all ways to place what stands for a component agree.
The properties that come with the component have distinct names, as those of every bag have. -/
theorem routes_agree (catalog : Catalog) (config : Config) (actions : List Action) {typeId : String}
    {component : Component}
    (hresolve : ((start catalog config).run actions).resolve? typeId = some component)
    (hdefaults : (Fields.keys component.defaultProperties).Nodup) (properties : Bag) :
    ((start catalog config).run actions).RoutesAgree typeId properties := by
  have hsound : ((start catalog config).run actions).document.Sound :=
    sound_document_run Document.sound_empty actions
  -- of the run only this counts: the name resolves, and the document is sound
  generalize (start catalog config).run actions = session at hresolve hsound
  constructor
  case batch =>
    refine ⟨_, _, _, place_of_resolve? hresolve _ _, ?_, rfl⟩
    rw [ingest_pick, placePick]
    simp only [hresolve]
    rfl
  case patch =>
    intro position
    -- the patch is made to the instance that has just been added
    obtain ⟨after, hupdate, hinstances⟩ := hsound.update_added
      (instanceOf component none [] (position.getD session.nextPosition)) properties
    refine ⟨_, _, { session with document := after }, _, _, _, place_of_resolve? hresolve _ _,
      place_of_resolve? hresolve _ _, ?_, rfl, hinstances, rfl, rfl, rfl, ?_⟩
    · rw [update]
      exact bind_eq_ok.mpr ⟨after, hupdate, rfl⟩
    · exact get?_dropNulls_overlay hdefaults properties

/-- An entry that comes with a null and with one inside a property. -/
def quoteEntry : Catalog.Entry where
  id := "quote"
  displayName := "Quote"
  category := .content
  typeId := "Quote"
  defaultProperties := [("title", .str "Hello"), ("author", .null), ("lines", .arr [.null])]
  sourceImportPath := "components/Quote"

/-- One property is nulled, another one is set in place of a null, and a new one holds a null. -/
theorem routes_agree_of_quote :
    let session := start ⟨"1", [quoteEntry]⟩ {}
    let properties : Bag :=
      [("title", .null), ("author", .str "Ada"), ("note", .obj [("source", .null)])]
    session.resolve? "quote" = some (.ready quoteEntry) ∧
      (Fields.keys quoteEntry.defaultProperties).Nodup ∧
      session.RoutesAgree "quote" properties := by
  intro session properties
  have hvalid : Catalog.Valid ⟨"1", [quoteEntry]⟩ :=
    Catalog.valid_of_ofEntries (Catalog.ofEntries_eq_ok.mpr ⟨by decide +kernel, rfl⟩)
  -- a null among the properties, and one inside a property
  have hentry : Catalog.resolve? ⟨"1", [quoteEntry]⟩ "quote" = some quoteEntry :=
    (hvalid.resolve?_eq_some (List.mem_singleton.mpr rfl)
      (fun other hother _ => List.mem_singleton.mp hother) "quote").mpr (.inl (by decide +kernel))
  have hresolve : session.resolve? "quote" = some (.ready quoteEntry) := by
    simp [session, start, Session.resolve?, Registry.resolve?, Registry.get?, Fields.get?, hentry]
  have hdefaults : (Fields.keys quoteEntry.defaultProperties).Nodup := by simp [quoteEntry]
  exact ⟨hresolve, hdefaults, routes_agree _ {} [] hresolve hdefaults properties⟩

end Session

end ComponentCanvas
