import Straightedge.Canvas.Outline
import Straightedge.Proofs.Result

/-!
# How an outline follows its path

Each step of a path adds its points to the outline, after those of the steps before
it. What a step adds depends on the outline so far in two ways only: the first point
of all starts a piece however it is reached, and a closing returns to where the last
piece started. The draft remembers that start, and `Draft.Holds` says that it is
always the one that can be read off the outline.
-/

namespace Straightedge

/-- The points that a step of a path leads to: where a move or a line goes, and where an arc is
sampled. -/
def PathStep.points : PathStep Num → Except Fault (List Vec)
  | .move x y | .line x y => do return [← Vec.ofNums x y]
  | .arc x y radius start stop anticlockwise =>
    Arc.points x y radius start stop anticlockwise Arc.defaultStep
  | .close | .other => return []

/-- Both coordinates are finite. -/
def Vec.isFinite (p : Vec) : Bool := p.x.isFinite && p.y.isFinite

namespace Outline

variable {o before after part rest : Outline} {v : Vertex} {p : Vec}

/-- The points of an outline in order, without the returns to a start. -/
def drawn (o : Outline) : List Vec := (o.filter (·.kind != .close)).map (·.point)

/-- Where the last piece of an outline starts. -/
def lastStart? (o : Outline) : Option Vec :=
  (o.filter (·.kind == .moveTo)).getLast?.map (·.point)

/-- An outline starts with a piece, and returns to the start of the last piece only. -/
structure WellFormed (o : Outline) : Prop where
  first : ∀ v ∈ o.head?, v.kind = .moveTo
  closed : ∀ (before : Outline) v after, o = before ++ v :: after → v.kind = .close →
    before.lastStart? = some v.point

/-- What a step of a path adds to the outline before it. All but a closing add their points and
nothing else, and start a piece only if they are moves or at the very first point. A closing adds
one return, unless there is nothing to return to. -/
structure Adds (before : Outline) (step : PathStep Num) (points : List Vec) (part : Outline) :
    Prop where
  drawn : part.drawn = points
  moves : (∃ x y, step = .move x y) → ∀ v ∈ part, v.kind = .moveTo
  others : (∀ x y, step ≠ .move x y) → ∀ i v, part[i]? = some v → v.kind = .moveTo →
    before = [] ∧ i = 0
  closes : step = .close → before ≠ [] → ∃ p, part = [⟨.close, p⟩]
  drops : step = .close → before = [] → part = []
  opens : step ≠ .close → ∀ v ∈ part, v.kind ≠ .close

/-- An outline goes on along a path: each step adds its part. -/
inductive Traced : Outline → Path Num → List (List Vec) → Outline → Prop where
  | nil {before : Outline} : Traced before [] [] []
  | cons {before part rest : Outline} {step : PathStep Num} {path : Path Num} {ps : List Vec}
      {points : List (List Vec)} (adds : Adds before step ps part)
      (later : Traced (before ++ part) path points rest) :
      Traced before (step :: path) (ps :: points) (part ++ rest)

@[simp] theorem drawn_append (o part : Outline) : (o ++ part).drawn = o.drawn ++ part.drawn := by
  simp [drawn]

/-- Along a path all points of its steps are drawn in order. -/
theorem Traced.drawn {path : Path Num} {points : List (List Vec)}
    (traced : Traced before path points rest) : rest.drawn = points.flatten := by
  induction traced with
  | nil => rfl
  | cons adds _ ih => rw [drawn_append, adds.drawn, ih, List.flatten_cons]

theorem lastStart?_push (o : Outline) (v : Vertex) :
    (o ++ [v]).lastStart? = if v.kind = .moveTo then some v.point else o.lastStart? := by
  unfold lastStart?
  by_cases start : v.kind = .moveTo <;> simp [start]

theorem wellFormed_nil : WellFormed [] where
  first := nofun
  closed before v after split := by simp at split

theorem WellFormed.push (wellFormed : o.WellFormed) (first : o = [] → v.kind = .moveTo)
    (closed : v.kind = .close → o.lastStart? = some v.point) : (o ++ [v]).WellFormed where
  first := by
    cases o with
    | nil => simpa using first rfl
    | cons u o => exact wellFormed.first
  closed before u after split isClose := by
    obtain rfl | ⟨after, w, rfl⟩ := List.eq_nil_or_concat after
    · obtain ⟨rfl, same⟩ := List.append_inj' split rfl
      obtain rfl := List.singleton_inj.mp same
      exact closed isClose
    · rw [List.concat_eq_append, ← List.cons_append, ← List.append_assoc] at split
      exact wellFormed.closed before u after (List.append_inj' split rfl).1 isClose

/-- How the next point of an outline is reached that is no move. -/
def next (o : Outline) : VertexKind := if o = [] then .moveTo else .lineTo

theorem WellFormed.push_next (wellFormed : o.WellFormed) (p : Vec) :
    WellFormed (o ++ [⟨next o, p⟩]) := by
  apply wellFormed.push
  · exact fun empty => if_pos empty
  · intro closed
    unfold next at closed
    split at closed <;> cases closed

/-- Points that an outline goes on to. -/
inductive GoesOn : Outline → List Vec → Outline → Prop where
  | nil {o : Outline} : GoesOn o [] []
  | cons {o part : Outline} {p : Vec} {points : List Vec}
      (later : GoesOn (o ++ [⟨next o, p⟩]) points part) :
      GoesOn o (p :: points) (⟨next o, p⟩ :: part)

/-- Of these only the very first point of an outline starts a piece. -/
theorem GoesOn.kind {points : List Vec} (goesOn : GoesOn o points part) :
    ∀ i v, part[i]? = some v → v.kind = if o = [] ∧ i = 0 then .moveTo else .lineTo := by
  induction goesOn with
  | nil => nofun
  | cons later ih =>
      rintro (_ | i) v here
      · obtain rfl := Option.some.inj here
        simp [next]
      · simpa using ih i v here

theorem GoesOn.points {points : List Vec} (goesOn : GoesOn o points part) :
    part.map (·.point) = points := by
  induction goesOn with
  | nil => rfl
  | cons later ih => rw [List.map_cons, ih]

theorem GoesOn.adds {points : List Vec} {step : PathStep Num} (goesOn : GoesOn o points part)
    (notMove : ∀ x y, step ≠ .move x y) (notClose : step ≠ .close) : Adds o step points part := by
  have open' : ∀ v ∈ part, v.kind ≠ .close := by
    intro v member
    obtain ⟨i, here⟩ := List.getElem?_of_mem member
    rw [goesOn.kind i v here]
    split <;> exact VertexKind.noConfusion
  constructor
  · have all : part.filter (·.kind != .close) = part := by simpa using open'
    rw [Outline.drawn, all, goesOn.points]
  · rintro ⟨x, y, same⟩
    exact absurd same (notMove x y)
  · intro _ i v here starts
    rw [goesOn.kind i v here] at starts
    by_contra later
    rw [if_neg later] at starts
    cases starts
  · exact fun same => absurd same notClose
  · exact fun same => absurd same notClose
  · exact fun _ => open'

theorem adds_move (o : Outline) (x y : Num) (p : Vec) :
    Adds o (.move x y) [p] [⟨.moveTo, p⟩] := by
  constructor <;> simp [drawn]

theorem adds_close (some : o ≠ []) (p : Vec) : Adds o .close [] [⟨.close, p⟩] where
  drawn := rfl
  moves := nofun
  others _ i v here starts := by
    obtain rfl := List.mem_singleton.mp (List.mem_of_getElem? here)
    cases starts
  closes _ _ := ⟨p, rfl⟩
  drops _ none := absurd none some
  opens other := absurd rfl other

theorem adds_close_nil : Adds [] .close [] [] := by
  constructor <;> simp [drawn]

/-! ## The draft of an outline -/

/-- A point of a draft as one of an outline. -/
def vertexOf (v : VertexKind × Num × Num) : Except Fault Vertex := do
  return ⟨v.1, ← Vec.ofNums v.2.1 v.2.2⟩

/-- The points of a draft are those of an outline, and it remembers where the last piece of the
outline starts. -/
structure Draft.Holds (d : Draft) (o : Outline) : Prop where
  vertices : d.vertices.mapM vertexOf = .ok o
  start : d.start = none ∧ o = [] ∨
    ∃ x y p, d.start = some (x, y) ∧ Vec.ofNums x y = .ok p ∧ o.lastStart? = some p

namespace Draft

variable {d d' : Draft} {x y : Num} {points : List Vec}

theorem holds_nil : Holds {} [] := ⟨rfl, .inl ⟨rfl, rfl⟩⟩

theorem Holds.isEmpty (holds : d.Holds o) : d.vertices.isEmpty = true ↔ o = [] := by
  have same := congrArg List.length (Result.mapM_eq_ok_iff.mp holds.vertices)
  rw [List.length_map, List.length_map] at same
  rw [List.isEmpty_iff_length_eq_zero, same, List.length_eq_zero_iff]

/-- One more point of a draft is one more point of its outline. -/
theorem Holds.vertices_push (holds : d.Holds o) {kind : VertexKind}
    (point : Vec.ofNums x y = .ok p) :
    (d.vertices ++ [(kind, x, y)]).mapM vertexOf = .ok (o ++ [⟨kind, p⟩]) := by
  have last : vertexOf (kind, x, y) = .ok ⟨kind, p⟩ := by
    rw [vertexOf, point]
    rfl
  rw [Result.mapM_eq_ok_iff, List.map_append, List.map_append,
    Result.mapM_eq_ok_iff.mp holds.vertices, List.map_singleton, last]
  rfl

theorem Holds.moveTo (holds : d.Holds o) (point : Vec.ofNums x y = .ok p) :
    (d.moveTo x y).Holds (o ++ [⟨.moveTo, p⟩]) where
  vertices := holds.vertices_push point
  start := .inr ⟨x, y, p, rfl, point, by rw [lastStart?_push, if_pos rfl]⟩

theorem Holds.goTo (holds : d.Holds o) (point : Vec.ofNums x y = .ok p) :
    (d.goTo x y).Holds (o ++ [⟨next o, p⟩]) := by
  unfold Draft.goTo next
  split
  · rename_i empty
    rw [if_pos (holds.isEmpty.mp empty)]
    exact holds.moveTo point
  · rename_i some
    have some : o ≠ [] := fun none => some (holds.isEmpty.mpr none)
    rw [if_neg some]
    refine ⟨holds.vertices_push point, .inr ?_⟩
    obtain ⟨-, none⟩ | ⟨x, y, q, start, point, last⟩ := holds.start
    · exact absurd none some
    · exact ⟨x, y, q, start, point, by rwa [lastStart?_push, if_neg VertexKind.noConfusion]⟩

/-- Points one after the other, reached by going on. -/
theorem Holds.goAll (holds : d.Holds o) (wellFormed : o.WellFormed) (points : List Vec) :
    ∃ part, (points.foldl (fun d p => d.goTo (.real p.x) (.real p.y)) d).Holds (o ++ part) ∧
      (o ++ part).WellFormed ∧ GoesOn o points part := by
  induction points generalizing d o with
  | nil => exact ⟨[], by rwa [List.append_nil], by rwa [List.append_nil], .nil⟩
  | cons p points ih =>
      have here : (d.goTo (.real p.x) (.real p.y)).Holds (o ++ [⟨next o, p⟩]) := holds.goTo rfl
      obtain ⟨part, all, wellFormed', goesOn⟩ := ih here (wellFormed.push_next p)
      rw [List.append_assoc] at all wellFormed'
      exact ⟨⟨next o, p⟩ :: part, all, wellFormed', .cons goesOn⟩

/-- A closing returns to the start that the draft remembers. -/
theorem Holds.close (holds : d.Holds o) (wellFormed : o.WellFormed) :
    ∃ part, d.close.Holds (o ++ part) ∧ (o ++ part).WellFormed ∧ Adds o .close [] part := by
  obtain ⟨start, rfl⟩ | ⟨x, y, p, start, point, last⟩ := holds.start
  · have same : d.close = d := by rw [Draft.close, start]
    exact ⟨[], by rwa [same], wellFormed, adds_close_nil⟩
  · have some : o ≠ [] := by
      rintro rfl
      cases last
    have closed : d.close = { d with vertices := d.vertices ++ [(.close, x, y)] } := by
      rw [Draft.close, start]
    refine ⟨[⟨.close, p⟩], ?_, wellFormed.push (absurd · some) fun _ => last, adds_close some p⟩
    rw [closed]
    refine ⟨holds.vertices_push point, .inr ⟨x, y, p, start, point, ?_⟩⟩
    rwa [lastStart?_push, if_neg VertexKind.noConfusion]

/-- The step lemma: what a step adds to a draft it adds to the outline. -/
theorem Holds.add (holds : d.Holds o) (wellFormed : o.WellFormed) {step : PathStep Num}
    (taken : step.points = .ok points) :
    ∃ d' part, d.add step = .ok d' ∧ d'.Holds (o ++ part) ∧ (o ++ part).WellFormed ∧
      Adds o step points part := by
  cases step with
  | move x y =>
      obtain ⟨p, point, same⟩ := Result.bind_eq_ok_iff.mp taken
      obtain rfl := Except.ok.inj same
      exact ⟨_, _, rfl, holds.moveTo point, wellFormed.push (fun _ => rfl) nofun,
        adds_move o x y p⟩
  | line x y =>
      obtain ⟨p, point, same⟩ := Result.bind_eq_ok_iff.mp taken
      obtain rfl := Except.ok.inj same
      exact ⟨_, _, rfl, holds.goTo point, wellFormed.push_next p,
        (GoesOn.cons .nil).adds nofun nofun⟩
  | arc x y radius start stop anticlockwise =>
      obtain ⟨part, all, wellFormed', goesOn⟩ := holds.goAll wellFormed points
      refine ⟨_, part, ?_, all, wellFormed', goesOn.adds nofun nofun⟩
      exact Result.bind_eq_ok_iff.mpr ⟨points, taken, rfl⟩
  | close =>
      obtain rfl := Except.ok.inj taken
      obtain ⟨part, closed, wellFormed', adds⟩ := holds.close wellFormed
      exact ⟨_, part, rfl, closed, wellFormed', adds⟩
  | other =>
      obtain rfl := Except.ok.inj taken
      refine ⟨d, [], rfl, ?_, ?_, GoesOn.nil.adds nofun nofun⟩
      · rwa [List.append_nil]
      · rwa [List.append_nil]

/-- The run lemma: a draft of a whole path holds the outline that follows it. -/
theorem Holds.foldlM (holds : d.Holds o) (wellFormed : o.WellFormed) {path : Path Num}
    {points : List (List Vec)} (taken : path.mapM PathStep.points = .ok points) :
    ∃ d' rest, path.foldlM Draft.add d = .ok d' ∧ d'.Holds (o ++ rest) ∧
      (o ++ rest).WellFormed ∧ Traced o path points rest := by
  induction path generalizing d o points with
  | nil =>
      obtain rfl := Except.ok.inj taken
      exact ⟨d, [], rfl, by rwa [List.append_nil], by rwa [List.append_nil], .nil⟩
  | cons step path ih =>
      obtain ⟨ps, first, taken⟩ := Result.bind_eq_ok_iff.mp (List.mapM_cons.symm.trans taken)
      obtain ⟨others, later, same⟩ := Result.bind_eq_ok_iff.mp taken
      obtain rfl := Except.ok.inj same
      obtain ⟨d₁, part, added, holds₁, wellFormed₁, adds⟩ := holds.add wellFormed first
      obtain ⟨d₂, rest, drafted, holds₂, wellFormed₂, traced⟩ := ih holds₁ wellFormed₁ later
      rw [List.append_assoc] at holds₂ wellFormed₂
      exact ⟨d₂, part ++ rest, Result.bind_eq_ok_iff.mpr ⟨d₁, added, drafted⟩, holds₂,
        wellFormed₂, .cons adds traced⟩

end Draft

/-! ## The outline of a path -/

/-- Only closings and other steps lead to no points. -/
theorem points_eq_nil_iff {step : PathStep Num} {ps : List Vec} (taken : step.points = .ok ps) :
    ps = [] ↔ step = .close ∨ step = .other := by
  cases step with
  | move x y | line x y =>
      obtain ⟨p, -, same⟩ := Result.bind_eq_ok_iff.mp taken
      obtain rfl := Except.ok.inj same
      simp
  | arc x y radius start stop anticlockwise =>
      simp only [PathStep.points, Arc.points, Result.bind_eq_ok_iff, Result.pure_eq_ok_iff] at taken
      obtain ⟨sweep, -, n, -, first, -, center, -, r, -, rfl⟩ := taken
      have some : (Turn.radians.samples first sweep n).length = n + 1 := Turn.length_samples _ _ _ _
      simp [← List.length_eq_zero_iff, some]
  | close | other =>
      obtain rfl := Except.ok.inj taken
      simp

theorem flatten_eq_nil_iff {path : Path Num} {points : List (List Vec)}
    (taken : path.mapM PathStep.points = .ok points) :
    points.flatten = [] ↔ ∀ step ∈ path, step = .close ∨ step = .other := by
  rw [Result.mapM_eq_ok_iff] at taken
  rw [List.flatten_eq_nil_iff]
  constructor
  · intro empty step member
    have made : step.points ∈ points.map Except.ok := taken ▸ List.mem_map_of_mem member
    obtain ⟨ps, inPoints, same⟩ := List.mem_map.mp made
    exact (points_eq_nil_iff same.symm).mp (empty ps inPoints)
  · intro silent ps member
    have made : Except.ok ps ∈ path.map PathStep.points := taken ▸ List.mem_map_of_mem member
    obtain ⟨step, inPath, same⟩ := List.mem_map.mp made
    exact (points_eq_nil_iff same).mpr (silent step inPath)

/-- The points of an outline are those that it draws; returns add no others. -/
theorem WellFormed.mem_drawn (wellFormed : o.WellFormed) (member : v ∈ o) : v.point ∈ o.drawn := by
  have drawn : ∀ u ∈ o, u.kind ≠ .close → u.point ∈ o.drawn := by
    intro u member open'
    exact List.mem_map_of_mem (List.mem_filter.mpr ⟨member, by simpa using open'⟩)
  by_cases closed : v.kind = .close
  · obtain ⟨before, after, split⟩ := List.append_of_mem member
    obtain ⟨u, last, same⟩ := Option.map_eq_some_iff.mp (wellFormed.closed _ _ _ split closed)
    obtain ⟨earlier, start⟩ := List.mem_filter.mp (List.mem_of_getLast? last)
    rw [← same]
    apply drawn u (split ▸ List.mem_append_left _ earlier)
    rw [beq_iff_eq.mp start]
    exact VertexKind.noConfusion
  · exact drawn v member closed

theorem WellFormed.drawn_eq_nil_iff (wellFormed : o.WellFormed) : o.drawn = [] ↔ o = [] := by
  constructor
  · intro none
    apply List.eq_nil_iff_forall_not_mem.mpr
    intro v member
    have impossible := wellFormed.mem_drawn member
    rw [none] at impossible
    cases impossible
  · rintro rfl
    rfl

theorem WellFormed.all_isFinite_iff (wellFormed : o.WellFormed) :
    (o.all fun v => v.point.x.isFinite && v.point.y.isFinite) = true ↔
      ∀ p ∈ o.drawn, p.isFinite = true := by
  rw [List.all_eq_true]
  constructor
  · intro finite p member
    obtain ⟨v, inOutline, rfl⟩ := List.mem_map.mp member
    exact finite v (List.mem_of_mem_filter inOutline)
  · intro finite v member
    exact finite v.point (wellFormed.mem_drawn member)

/-- What the draft of a path holds decides whether the path has an outline. -/
theorem ofPath?_eq {path : Path Num} {d : Draft} (drafted : draft path = .ok d)
    (holds : d.Holds o) :
    ofPath? path = .ok (if o = [] then none else
      if o.all fun v => v.point.x.isFinite && v.point.y.isFinite then some o else none) := by
  refine Result.bind_eq_ok_iff.mpr ⟨d, drafted, ?_⟩
  by_cases none : o = []
  · rw [if_pos none, if_pos (holds.isEmpty.mpr none)]
    rfl
  · rw [if_neg none, if_neg (mt holds.isEmpty.mp none)]
    refine Result.bind_eq_ok_iff.mpr ⟨o, holds.vertices, ?_⟩
    split <;> rfl

/-- The outline of a path follows the path. Where each step leads to points, an arc to those at
which it is sampled, the path has no outline exactly if no step leads to any or one of the points is
not finite. Otherwise the outline starts with a piece, each return in it is to the start of the
last piece before, it draws the points of all steps in order and no others, and each step adds to
it what it may: a piece is started by a move or at the very first point, and each closing adds one
return if there is something before it. -/
theorem ofPath?_traced {path : Path Num} {points : List (List Vec)}
    (taken : path.mapM PathStep.points = .ok points) :
    ∃ result, ofPath? path = .ok result ∧
      (result = none ↔ (∀ step ∈ path, step = .close ∨ step = .other) ∨
        ∃ p ∈ points.flatten, p.isFinite = false) ∧
      ∀ outline, result = some outline → outline ≠ [] ∧ outline.WellFormed ∧
        outline.drawn = points.flatten ∧ Traced [] path points outline := by
  obtain ⟨d, o, drafted, holds, wellFormed, traced⟩ :=
    Draft.holds_nil.foldlM wellFormed_nil taken
  rw [List.nil_append] at holds wellFormed
  have drawn := traced.drawn
  refine ⟨_, ofPath?_eq drafted holds, ?_, ?_⟩
  · rw [← flatten_eq_nil_iff taken, ← drawn, wellFormed.drawn_eq_nil_iff]
    by_cases none : o = []
    · simp [none]
    by_cases finite : (o.all fun v => v.point.x.isFinite && v.point.y.isFinite) = true
    · have all := wellFormed.all_isFinite_iff.mp finite
      rw [if_neg none, if_pos finite]
      refine iff_of_false (Option.some_ne_none o) ?_
      rintro (empty | ⟨p, member, infinite⟩)
      · exact none empty
      · rw [all p member] at infinite
        cases infinite
    · rw [if_neg none, if_neg finite]
      refine iff_of_true rfl (.inr ?_)
      by_contra all
      apply finite
      rw [wellFormed.all_isFinite_iff]
      intro p member
      by_contra infinite
      exact all ⟨p, member, Bool.eq_false_iff.mpr infinite⟩
  · intro outline made
    split at made
    · cases made
    · rename_i some
      split at made
      · obtain rfl := Option.some.inj made
        exact ⟨some, wellFormed, drawn, traced⟩
      · cases made

/-- A closing with nothing before it, and a line after a piece was closed. -/
theorem ofPath?_traced_closed :
    let path : Path Num := [.close, .line 0 0, .line 4 0, .close, .line 2 2, .move 1 1, .close]
    let points : List (List Vec) :=
      [[], [⟨0, 0⟩], [⟨4, 0⟩], [], [⟨2, 2⟩], [⟨1, 1⟩], []]
    let outline : Outline := [⟨.moveTo, ⟨0, 0⟩⟩, ⟨.lineTo, ⟨4, 0⟩⟩, ⟨.close, ⟨0, 0⟩⟩,
      ⟨.lineTo, ⟨2, 2⟩⟩, ⟨.moveTo, ⟨1, 1⟩⟩, ⟨.close, ⟨1, 1⟩⟩]
    path.mapM PathStep.points = .ok points ∧ ofPath? path = .ok (some outline) ∧
      outline.WellFormed ∧ outline.drawn = points.flatten := by
  intro path points outline
  have taken : path.mapM PathStep.points = .ok points := by decide +kernel
  have made : ofPath? path = .ok (some outline) := by decide +kernel
  obtain ⟨result, found, -, follows⟩ := ofPath?_traced taken
  obtain rfl := Except.ok.inj (found.symm.trans made)
  obtain ⟨-, wellFormed, drawn, -⟩ := follows outline rfl
  exact ⟨taken, made, wellFormed, drawn⟩

/-- An integer that is too large for a double fails before a point that is not finite is found. -/
theorem ofPath?_tooLarge :
    let path : Path Num := [.move (.int (.ofNat (Nat.pow 10 309))) 0, .move (.real (0 / 0)) 0]
    (∀ step ∈ path, ∃ x y, step = .move x y) ∧ (0 / 0 : Float).isFinite = false ∧
      ofPath? path = .error .integerTooLarge := by
  intro path
  refine ⟨?_, by decide +kernel, by decide +kernel⟩
  exact List.forall_mem_cons.mpr ⟨⟨_, _, rfl⟩, List.forall_mem_singleton.mpr ⟨_, _, rfl⟩⟩

end Outline

end Straightedge
