import Straightedge.Proofs.Dependency.Order
import Straightedge.Proofs.Frame.Success
import Straightedge.Proofs.Geometry.Sweep
import Straightedge.Proofs.Number.Packing

/-!
# What can cut a frame short

Over a scene with whatever entities, in whatever order and with whatever references, a
frame in a plain style is cut short for three reasons only. There is no order to derive
in although one is asked for; then nothing but the clear is logged. Or an entity other
than a midpoint has an integer for a coordinate that no double holds. Or an angle
between three points with positions has NaN for the direction of an arm, so that its
size is no integer. The fault tells which it was.
-/

namespace Straightedge

namespace Num

/-- Zero can be added to any number, and a number other than NaN is at most the sum. -/
theorem exists_zero_add (n : Num) :
    ∃ m, (0 : Num).add n = .ok m ∧
      ∀ x, n.toFloat = .ok x → x.isNaN = false → n.le m = true := by
  cases n with
  | int i =>
      refine ⟨.int (0 + i), rfl, ?_⟩
      intro x _ _
      simp [Num.le, Num.compare?]
  | real x =>
      have sum : (0 : Num).add (.real x) = .ok (.real (0 + x)) := by
        have opened : (0 : Num).add (.real x) = (0 : Num).toFloat >>= fun z =>
          .ok (.real (z + x)) := rfl
        rw [opened, toFloat_zero]
        rfl
      refine ⟨.real (0 + x), sum, ?_⟩
      intro y same number
      obtain rfl := Except.ok.inj same
      exact le_zero_add number

end Num

namespace Recording

variable {r : Recording} {w h : Float}

/-- The log of a surface that was just cleared as a whole. Only a surface with NaN for a size
keeps anything. -/
def JustCleared (w h : Float) (r : Recording) : Prop :=
  ∃ kept, r.entries = kept ++ [.clear 0 0 w h] ∧ (w.isNaN = false → h.isNaN = false → kept = [])

/-- A surface with doubles for its size can be cleared. -/
theorem clearAll_of_toFloat (width : r.width.toFloat = .ok w) (height : r.height.toFloat = .ok h) :
    (Surface.clearAll r).fault = none ∧ (Surface.clearAll r).state.JustCleared w h := by
  obtain ⟨right, toRight, reaches⟩ := r.width.exists_zero_add
  obtain ⟨bottom, toBottom, reaches'⟩ := r.height.exists_zero_add
  have corner : (Num.le 0 0 && Num.le 0 0) = true := by decide
  have covered : r.covers 0 0 r.width r.height =
      .ok (r.width.le right && r.height.le bottom) := by
    rw [covers, if_pos corner, toRight, toBottom]
    simp only [bind, Except.bind, pure, Except.pure]
    cases r.width.le right <;> rfl
  have entry : clearEntry 0 0 r.width r.height = .ok (.clear 0 0 w h) := by
    rw [clearEntry, Num.toFloat_zero, width, height]
    rfl
  have cleared : Surface.clearAll r =
      push (if (r.width.le right && r.height.le bottom) = true then { r with entries := [] } else r)
        (.ok (.clear 0 0 w h)) := by
    have whole : Surface.clearAll r = r.clear 0 0 r.width r.height := rfl
    rw [whole, clear, covered, ← entry]
  rw [cleared]
  refine ⟨rfl, _, rfl, ?_⟩
  intro number number'
  rw [reaches w width number, reaches' h height number']
  rfl

end Recording

namespace Scene

variable {s : Scene} {f : Fault}

/-- An entity other than a midpoint has a coordinate that no double holds. -/
def Oversized (s : Scene) : Prop :=
  ∃ e ∈ s.entities, e.kind ≠ .midpoint ∧ ∃ key ∈ ["x", "y"], ∃ i : Int,
    e.values.number? key = some (.int i) ∧ Num.integerBound ≤ i.natAbs

/-- An angle between three points with positions has NaN for the direction of an arm. -/
def HasIndefiniteAngle (s : Scene) : Prop :=
  ∃ e ∈ s.entities, ∃ vertex first second, e.shape = .angle vertex first second ∧
    ∃ v a b, s.place vertex = .ok (some v) ∧ s.place first = .ok (some a) ∧
      s.place second = .ok (some b) ∧ ((a - v).angle.isNaN = true ∨ (b - v).angle.isNaN = true)

/-- Why a position of a scene cannot be read, or one derived from it. -/
def PositionFault (s : Scene) (f : Fault) : Prop := f = .integerTooLarge ∧ s.Oversized

/-- Why the blocks over a scene fail that is derived from another one. -/
def BlockFault (s derived : Scene) : Fault → Prop
  | .integerTooLarge => s.Oversized
  | .integerOfNaN => derived.HasIndefiniteAngle
  | _ => False

/-- Only a coordinate that no double holds keeps a position from being read. -/
theorem error_of_position {v : Values} (h : v.position = .error f) :
    f = .integerTooLarge ∧ ∃ key ∈ ["x", "y"], ∃ i : Int,
      v.number? key = some (.int i) ∧ Num.integerBound ≤ i.natAbs := by
  unfold Values.position Values.point? at h
  cases atX : v.number? "x" with
  | none =>
      rw [atX] at h
      cases h
  | some x =>
      cases atY : v.number? "y" with
      | none =>
          rw [atX, atY] at h
          cases h
      | some y =>
          rw [atX, atY] at h
          change (Vec.ofNums x y).map some = .error f at h
          have fails : Vec.ofNums x y = .error f := by
            cases made : Vec.ofNums x y <;> rw [made] at h <;> cases h
            rfl
          obtain failed | ⟨_, -, later⟩ := Result.bind_eq_error_iff.mp fails
          · obtain ⟨rfl, i, rfl, large⟩ := Num.toFloat_eq_error_iff.mp failed
            exact ⟨rfl, "x", by simp, i, atX, large⟩
          · obtain failed | ⟨_, -, impossible⟩ := Result.bind_eq_error_iff.mp later
            · obtain ⟨rfl, i, rfl, large⟩ := Num.toFloat_eq_error_iff.mp failed
              exact ⟨rfl, "y", by simp, i, atY, large⟩
            · cases impossible

theorem positionsFailOnly_clearDerived (s : Scene) :
    s.clearDerived.PositionsFailOnly s.PositionFault := by
  intro e member f failed
  obtain ⟨e₀, member₀, rfl⟩ := List.mem_map.mp member
  split at failed
  · cases failed
  · rename_i independent
    obtain ⟨rfl, oversized⟩ := error_of_position failed
    exact ⟨rfl, e₀, member₀, independent, oversized⟩

/-- The size of an angle fails to be an integer only if it has NaN for the direction of an arm. -/
theorem sizesFailOnly (s : Scene) {derived : Scene} {e : Entity} (member : e ∈ derived.entities)
    {vertex first second : String} (isAngle : e.shape = .angle vertex first second) :
    Block.SizesFailOnly (s.BlockFault derived) derived vertex first second := by
  intro v a b found f failed
  obtain ⟨atVertex, atFirst, atSecond⟩ := Block.arms_eq_some_iff.mp found
  have indefinite : (a - v).Indefinite ∨ (b - v).Indefinite := by
    by_contra definite
    obtain ⟨degrees, size⟩ := Construct.exists_wholeDegrees_iff.mpr (not_or.mp definite)
    rw [Construct.sweep, size] at failed
    cases failed
  have direction : (a - v).angle.isNaN = true ∨ (b - v).angle.isNaN = true :=
    indefinite.imp (fun h => Binary64.isNaN_direction h.symm)
      (fun h => Binary64.isNaN_direction h.symm)
  rw [Construct.sweep, Construct.wholeDegrees_of_isNaN (Construct.isNaN_arc direction)] at failed
  obtain rfl := Except.error.inj failed
  exact ⟨e, member, vertex, first, second, isAngle, v, a, b, atVertex, atFirst, atSecond, direction⟩

end Scene

namespace Stage

variable {style : Style} {options : Options} {st : Stage Recording} {w h : Float}

/-- Why a frame is cut short that leaves the given stage, by its fault. -/
def CutShort (st : Stage Recording) (options : Options) (w h : Float) (left : Stage Recording) :
    Fault → Prop
  | .cycle _ => options.resolve = true ∧ ¬st.scene.dependencyGraph.Acyclic ∧
      left.surface.JustCleared w h
  | .integerTooLarge => st.scene.Oversized
  | .integerOfNaN => left.scene.HasIndefiniteAngle
  | _ => False

/-- Layers are drawn over a scene that is derived from that of the frame. -/
theorem failsOnly_draw_derived {layers : List (List Kind)} {st' : Stage Recording}
    (plain : style.Plain) (positions : st'.scene.PositionsFailOnly st.scene.PositionFault) :
    (st'.draw style layers).FailsOnly (st.CutShort options w h) := by
  have known : st'.scene.PositionsFailOnly (st.scene.BlockFault st'.scene) := by
    intro e member f failed
    obtain ⟨rfl, oversized⟩ := positions e member f failed
    exact oversized
  have alone : ∀ e ∈ inLayers st'.scene layers, ((Block.of style st'.scene e).on
      ({} : Recording)).FailsOnly fun _ => st.scene.BlockFault st'.scene := by
    intro e inLayer
    have member := mem_of_mem_inLayers inLayer
    apply Drawing.FailsOnly.on _ ⟨1, rfl⟩
    apply Block.failsOnly_of plain known.places (known e member)
    intro vertex first second isAngle
    exact st.scene.sizesFailOnly member isAngle
  intro f failed
  have blockFault := failsOnly_draw alone f failed
  cases f <;> first | exact blockFault | exact blockFault.elim

theorem failsOnly_onScene {st' : Stage Recording} {act : Scene → Outcome Scene}
    (fails : (act st'.scene).FailsOnly fun _ => st.scene.PositionFault) :
    (st'.onScene act).FailsOnly (st.CutShort options w h) := by
  intro f failed
  obtain ⟨rfl, oversized⟩ := fails f failed
  exact oversized

/-- A frame that is cut short is so because there is no order to derive in, because of an integer
that no double holds, or because of an angle with NaN for a direction. -/
theorem cutShort_of_render {f : Fault} (plain : style.Plain)
    (width : st.surface.width.toFloat = .ok w) (height : st.surface.height.toFloat = .ok h)
    (failed : (st.render style options).fault = some f) :
    st.CutShort options w h (st.render style options).state f := by
  suffices only : (st.render style options).FailsOnly (st.CutShort options w h) from only f failed
  obtain ⟨clears, cleared⟩ := Recording.clearAll_of_toFloat width height
  have positions := Scene.positionsFailOnly_clearDerived st.scene
  have ordered : st.scene.clearDerived.dependencyOrder = st.scene.dependencyOrder :=
    Scene.dependencyOrder_eq_of_outline (Scene.outline_clearDerived st.scene)
  rw [render_eq, clear_of_done clears, Outcome.andThen_none]
  unfold body
  split
  · rename_i early
    by_cases acyclic : st.scene.dependencyGraph.Acyclic
    · obtain ⟨order, sorted⟩ := Scene.exists_dependencyOrder_iff.mpr acyclic
      obtain ⟨fails, kept⟩ := positions.deriveAll order
      have derives : st.scene.clearDerived.deriveOrdered =
          st.scene.clearDerived.deriveAll order := by
        rw [Scene.deriveOrdered, ordered, sorted]
      rw [← derives] at fails kept
      apply (failsOnly_onScene fails).andThen
      intro _
      apply (failsOnly_draw_derived plain kept).andThen
      intro _
      exact failsOnly_draw_derived plain kept
    · -- nothing is derived and nothing is drawn
      obtain ⟨ids, cycle⟩ := Scene.dependencyOrder_of_cyclic acyclic
      have stops : st.scene.clearDerived.deriveOrdered =
          ⟨st.scene.clearDerived, some (.cycle ids)⟩ := by
        rw [Scene.deriveOrdered, ordered, cycle]
      simp only [onScene, stops, Outcome.map, Outcome.andThen_some]
      intro f failed
      obtain rfl := Option.some.inj failed
      exact ⟨early, acyclic, cleared⟩
  · obtain ⟨fails, kept⟩ := positions.deriveAll (List.range st.scene.clearDerived.size)
    apply (failsOnly_draw_derived plain positions).andThen
    intro _
    apply (failsOnly_onScene fails).andThen
    intro _
    exact failsOnly_draw_derived plain kept

/-- A point so far out that no double holds its first coordinate, and a line through it. -/
theorem cutShort_of_render_farPoint :
    let st : Stage Recording := ⟨{ width := .int 500, height := .int 500 },
      ⟨[{ id := "l", shape := .line "A" "A" },
        { id := "A", shape := .point, values := .ofPoint (.int (2 ^ 1024)) (.int 0) }]⟩⟩
    let o := st.render .default {}
    Style.default.Plain ∧ st.surface.width.toFloat = .ok (Float.ofInt 500) ∧
      st.surface.height.toFloat = .ok (Float.ofInt 500) ∧ o.fault = some .integerTooLarge ∧
      st.CutShort {} (Float.ofInt 500) (Float.ofInt 500) o.state .integerTooLarge := by
  intro st o
  have size : (Num.int 500).toFloat = .ok (Float.ofInt 500) := Num.toFloat_int (by decide +kernel)
  have failed : o.fault = some .integerTooLarge := by decide +kernel
  exact ⟨Style.plain_default, size, size, failed,
    cutShort_of_render Style.plain_default size size failed⟩

end Stage

end Straightedge
