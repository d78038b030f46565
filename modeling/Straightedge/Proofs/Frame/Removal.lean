import Straightedge.Proofs.Dependency.Removal
import Straightedge.Proofs.Frame.Success

/-!
# Frames without one of their entities

An entity to which nothing refers may be left out of a scene, and a frame then
loses its block and nothing else: every other block takes the same positions, and
the entities that are left keep their layers and their order.
-/

namespace Straightedge

variable {style : Style} {options : Options} {s f : Scene} {k : Nat} {id : String} {e : Entity}

/-- A block of a scene is the same without an entity to which nothing refers. -/
theorem Block.of_eraseIdx (spare : s.Unreferenced k id) (other : id ∉ e.references) :
    Block.of style (s.eraseIdx k) e = Block.of style s e := by
  have ne : ∀ {name : String} {e' : Entity}, id ∉ e'.references → name ∈ e'.references →
      name ≠ id := by
    rintro name e' absent reference rfl
    exact absent reference
  apply Block.of_congr rfl rfl rfl
  · intro name reference
    exact spare.shapeOf (ne other reference)
  · intro name source
    apply spare.place
    obtain ⟨e', rfl | member, reference⟩ := Block.exists_reference_of_source source
    · exact ne other reference
    · exact ne (spare.notReference e' (List.mem_of_mem_eraseIdx member)) reference

theorem Scene.rederive_eraseIdx (spare : s.Unreferenced k id)
    (derived : s.rederive options = ⟨f, none⟩) :
    (s.eraseIdx k).rederive options = ⟨f.eraseIdx k, none⟩ := by
  have spare' := spare.of_outline (outline_clearDerived s)
  unfold Scene.rederive at derived ⊢
  rw [clearDerived_eraseIdx]
  split at derived
  · rename_i early
    rw [if_pos early]
    exact spare'.deriveOrdered derived
  · rename_i late
    rw [if_neg late]
    exact spare'.deriveDeclared derived

namespace Stage

theorem shapeScene_eraseIdx (options : Options) (left : Scene) (k : Nat) :
    shapeScene options (left.eraseIdx k) = (shapeScene options left).eraseIdx k := by
  unfold shapeScene
  split
  · rfl
  · exact Scene.clearDerived_eraseIdx left k

/-- What remains contributes what it did. -/
theorem contribution_eraseIdx (spare : f.Unreferenced k id) (other : id ∉ e.references) :
    contribution style options (f.eraseIdx k) e = contribution style options f e := by
  have spare' := spare.of_outline (outline_shapeScene options f)
  rw [contribution, contribution, shapeScene_eraseIdx, blockEntries, blockEntries,
    Block.of_eraseIdx spare' other]

section Layers

variable {layers : List (List Kind)} {kinds : List Kind}

theorem filter_eraseIdx_of_notMem (position : f.entities[k]? = some e) (other : e.kind ∉ kinds) :
    (f.eraseIdx k).entities.filter (fun e => kinds.contains e.kind) =
      f.entities.filter fun e => kinds.contains e.kind := by
  obtain ⟨before, after, -, entities, erased⟩ := Scene.exists_around position
  rw [entities, erased, List.filter_append, List.filter_append,
    List.filter_cons_of_neg (by simpa using other)]

theorem inLayers_eraseIdx_of_notMem (position : f.entities[k]? = some e)
    (other : ∀ kinds ∈ layers, e.kind ∉ kinds) :
    inLayers (f.eraseIdx k) layers = inLayers f layers := by
  apply List.flatMap_congr
  intro kinds layer
  exact filter_eraseIdx_of_notMem position (other kinds layer)

theorem exists_around_filter (position : f.entities[k]? = some e) (member : e.kind ∈ kinds) :
    ∃ before after : List Entity,
      f.entities.filter (fun e => kinds.contains e.kind) = before ++ e :: after ∧
        (f.eraseIdx k).entities.filter (fun e => kinds.contains e.kind) = before ++ after := by
  obtain ⟨before, after, -, entities, erased⟩ := Scene.exists_around position
  rw [entities, erased, List.filter_append, List.filter_append,
    List.filter_cons_of_pos (by simpa using member)]
  exact ⟨_, _, rfl, rfl⟩

/-- In layers of which one alone takes its kind, an entity stands between the same others. -/
theorem exists_around_inLayers (position : f.entities[k]? = some e)
    (distinct : layers.flatten.Nodup) (member : e.kind ∈ layers.flatten) :
    ∃ before after, inLayers f layers = before ++ e :: after ∧
      inLayers (f.eraseIdx k) layers = before ++ after := by
  obtain ⟨kinds, layer, kind⟩ := List.mem_flatten.mp member
  obtain ⟨earlier, later, rfl⟩ := List.append_of_mem layer
  rw [List.flatten_append, List.flatten_cons] at distinct
  obtain ⟨-, rest, notEarlier⟩ := List.nodup_append.mp distinct
  obtain ⟨-, -, notLater⟩ := List.nodup_append.mp rest
  have inFront : inLayers (f.eraseIdx k) earlier = inLayers f earlier := by
    apply inLayers_eraseIdx_of_notMem position
    intro other layer kind'
    exact notEarlier _ (List.mem_flatten_of_mem layer kind') _ (List.mem_append_left _ kind) rfl
  have behind : inLayers (f.eraseIdx k) later = inLayers f later := by
    apply inLayers_eraseIdx_of_notMem position
    intro other layer kind'
    exact notLater _ kind _ (List.mem_flatten_of_mem layer kind') rfl
  obtain ⟨before, after, here, erased⟩ := exists_around_filter position kind
  have layer' : ∀ g : Scene, inLayers g (kinds :: later) =
      g.entities.filter (fun e => kinds.contains e.kind) ++ inLayers g later := fun _ => rfl
  refine ⟨inLayers f earlier ++ before, after ++ inLayers f later, ?_, ?_⟩
  · rw [inLayers_append, layer', here, List.append_assoc, List.append_assoc, List.cons_append]
  · rw [inLayers_append, layer', erased, inFront, behind, List.append_assoc, List.append_assoc]

/-- All entities but planes are in a layer. -/
theorem plane_or_mem_layers (kind : Kind) :
    kind = .plane ∨ kind ∈ (shapeLayers ++ markerLayers).flatten := by
  cases kind <;> decide

/-- The log of a frame has the block of an entity in one piece, between those of the others. -/
theorem exists_around_block (style : Style) (options : Options)
    (position : f.entities[k]? = some e) :
    let layers := shapeLayers ++ markerLayers
    let block := contribution style options f
    ∃ before after, before ++ after = inLayers (f.eraseIdx k) layers ∧
      (inLayers f layers).flatMap block =
        before.flatMap block ++ block e ++ after.flatMap block := by
  intro layers block
  obtain plane | drawn := plane_or_mem_layers e.kind
  · have empty : block e = [] := by
      simp only [block, contribution, blockEntries, Block.of_plane plane]
      rfl
    have erased : inLayers (f.eraseIdx k) layers = inLayers f layers := by
      apply inLayers_eraseIdx_of_notMem position
      rw [plane]
      decide
    exact ⟨inLayers f layers, [], by rw [erased, List.append_nil], by simp [empty]⟩
  · obtain ⟨before, after, here, erased⟩ :=
      exists_around_inLayers position (by decide) drawn
    refine ⟨before, after, erased.symm, ?_⟩
    rw [here, List.flatMap_append, List.flatMap_cons, List.append_assoc]

end Layers

variable {st : Stage Recording}

/-- A frame that succeeds does so without an entity to which nothing refers, and leaves everything
else as it was. -/
theorem render_of_unreferenced (spare : st.scene.Unreferenced k id)
    (succeeds : (st.render style options).fault = none) :
    let without : Stage Recording := { st with scene := st.scene.eraseIdx k }
    (without.render style options).fault = none ∧
      (without.render style options).state.scene =
        (st.render style options).state.scene.eraseIdx k := by
  intro without
  have derived := scene_render succeeds
  have derived' : without.scene.rederive options = ⟨_, none⟩ :=
    Scene.rederive_eraseIdx spare derived
  have done := @done_of_render style options st succeeds
  generalize (st.render style options).state.scene = f at derived derived' done ⊢
  have spare' : f.Unreferenced k id :=
    spare.of_outline (Scene.outline_eq_of_clearDerived_eq (Scene.clearDerived_rederive derived))
  have spare'' := spare'.of_outline (outline_shapeScene options f)
  have block : ∀ e ∈ (f.eraseIdx k).entities,
      Block.of style (shapeScene options (f.eraseIdx k)) e =
        Block.of style (shapeScene options f) e := by
    intro e member
    rw [shapeScene_eraseIdx]
    exact Block.of_eraseIdx spare'' (spare'.notReference e (List.mem_of_mem_eraseIdx member))
  have done' : ∀ e ∈ (f.eraseIdx k).entities,
      ((Block.of style (shapeScene options (f.eraseIdx k)) e).on
        ({} : Recording)).fault = none := by
    intro e member
    rw [block e member]
    exact done (List.mem_of_mem_eraseIdx member)
  have clears := clears_of_render succeeds
  have succeeds' : (without.render style options).fault = none := by
    apply @fault_render_eq_none style options without _ clears derived'
    · intro e inLayer
      rw [inLayers_shapeScene] at inLayer
      exact done' e (mem_of_mem_inLayers inLayer)
    · intro e inLayer
      have made := done' e (mem_of_mem_inLayers inLayer)
      have isMarker := isMarker_of_mem_inLayers inLayer
      rwa [Block.of_marker isMarker] at made ⊢
  exact ⟨succeeds', congrArg Outcome.state ((scene_render succeeds').symm.trans derived')⟩

/-- Without an entity to which nothing refers, a frame loses the drawing of this entity alone. If
the frame of a scene succeeds, that of the scene without the entity succeeds, leaves every other
entity as it does with it, and its log is that of the whole scene without the block of the entity,
which is there in one piece. -/
theorem render_eraseIdx (position : st.scene.entities[k]? = some e)
    (unreferenced : ∀ other ∈ st.scene.entities, e.id ∉ other.references)
    (succeeds : (st.render style options).fault = none) :
    let without : Stage Recording := { st with scene := st.scene.eraseIdx k }
    let left := (st.render style options).state
    let left' := (without.render style options).state
    let block := contribution style options left.scene
    (without.render style options).fault = none ∧
    left'.scene = left.scene.eraseIdx k ∧
    (∀ other ∈ left'.scene.entities, contribution style options left'.scene other = block other) ∧
    ∃ e' before after, left.scene.entities[k]? = some e' ∧
      before ++ after = inLayers left'.scene (shapeLayers ++ markerLayers) ∧
      left.surface.entries = (Surface.clearAll st.surface).state.entries ++
        (before.flatMap block ++ block e' ++ after.flatMap block) ∧
      left'.surface.entries = (Surface.clearAll st.surface).state.entries ++
        (before.flatMap block ++ after.flatMap block) := by
  intro without left left' block
  have spare : st.scene.Unreferenced k e.id := ⟨by rw [position, Option.map_some], unreferenced⟩
  obtain ⟨succeeds', scene⟩ := render_of_unreferenced spare succeeds
  have kept : left.scene.clearDerived = st.scene.clearDerived :=
    (keeps_render style options st).scene
  have spare' : left.scene.Unreferenced k e.id :=
    spare.of_outline (Scene.outline_eq_of_clearDerived_eq kept)
  have same : ∀ other ∈ left'.scene.entities,
      contribution style options left'.scene other = block other := by
    intro other member
    simp only [left', without, scene] at member ⊢
    exact contribution_eraseIdx spare' (spare'.notReference other (List.mem_of_mem_eraseIdx member))
  obtain ⟨v, there, -⟩ := Scene.getElem?_of_clearDerived_eq kept position
  obtain ⟨before, after, others, entries⟩ := exists_around_block style options there
  have log := entries_render_layers succeeds
  have log' := entries_render_layers succeeds'
  have others' : before ++ after = inLayers left'.scene (shapeLayers ++ markerLayers) :=
    others.trans (congrArg (inLayers · _) scene.symm)
  refine ⟨succeeds', scene, same, _, before, after, there, others', ?_, ?_⟩
  · rw [log, entries]
  · rw [log', ← List.flatMap_append, others']
    congr 1
    exact List.flatMap_congr fun other member => same other (mem_of_mem_inLayers member)

/-- Of two midpoints under one id, to which nothing refers, the first is taken out; a segment to
another midpoint stays. -/
theorem render_eraseIdx_midpoint :
    let s : Scene := ⟨[
      { id := "A", shape := .point, values := .ofPoint 0 0 },
      { id := "B", shape := .point, values := .ofPoint 4 2 },
      { id := "M", shape := .midpoint "A" "B" },
      { id := "N", shape := .midpoint "A" "B" },
      { id := "M", shape := .midpoint "A" "N" },
      { id := "S", shape := .segment "A" "N" }]⟩
    let st : Stage Recording := ⟨{}, s⟩
    let without : Stage Recording := { st with scene := st.scene.eraseIdx 2 }
    (st.render .default { resolve := true }).state.surface.entries.length = 17 ∧
      (without.render .default { resolve := true }).fault = none ∧
      (without.render .default { resolve := true }).state.surface.entries.length = 14 ∧
      (without.render .default { resolve := true }).state.scene =
        (st.render .default { resolve := true }).state.scene.eraseIdx 2 := by
  intro s st without
  have position : st.scene.entities[2]? = some { id := "M", shape := .midpoint "A" "B" } := rfl
  have unreferenced : ∀ other ∈ st.scene.entities, "M" ∉ other.references := by decide
  have succeeds : (st.render .default { resolve := true }).fault = none := by decide +kernel
  obtain ⟨succeeds', scene, -⟩ := render_eraseIdx position unreferenced succeeds
  refine ⟨by decide +kernel, succeeds', by decide +kernel, ?_⟩
  rw [scene]

end Stage

end Straightedge
