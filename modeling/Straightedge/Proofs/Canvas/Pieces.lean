import Straightedge.Canvas.Artwork
import Straightedge.Proofs.Canvas.Determined
import Straightedge.Proofs.Canvas.Outlines
import Straightedge.Proofs.Canvas.Recording

/-!
# Artworks show what recordings log

The pieces on an artwork are the image of the entries of a recording on which the
same calls were made: one piece for each stroke, fill and text that can be shown,
none for a clear. The two types of surface keep different state and decide apart
from one another whether a rectangle covers them; they agree on that unless a
coordinate of the rectangle is NaN.

Without a clear, an artwork succeeds exactly when all that is logged can be shown.
-/

namespace Straightedge

namespace Num

/-- Whether a number is no number. An integer always is one. -/
def isNaN : Num → Bool
  | int _ => false
  | real x => x.isNaN

variable {n : Num} {i : Int}

theorem exists_compareInt?_of_not_isNaN {x : Float} (number : x.isNaN = false) (i : Int) :
    ∃ order, Binary64.compareInt? x i = some order := by
  unfold Binary64.compareInt?
  cases Binary64.parts? x with
  | some p => exact ⟨_, rfl⟩
  | none => exact ⟨_, by rw [number]; rfl⟩

/-- Unless it is NaN, a number that is not above an integer is at most that integer. -/
theorem le_int_of_not_lt (number : n.isNaN = false) (notAbove : lt (int i) n = false) :
    le n (int i) = true := by
  cases n with
  | int j =>
      have notAbove : compare i j ≠ .lt := by simpa [lt, compare?] using notAbove
      have atMost : j ≤ i := Int.not_lt.mp fun above => notAbove (Std.compare_eq_lt.mpr above)
      have ordered : (compare j i).isLE := Std.isLE_compare.mpr atMost
      simpa [le, compare?] using ordered
  | real x =>
      obtain ⟨order, compared⟩ := exists_compareInt?_of_not_isNaN number i
      simp only [lt, le, compare?, compared] at notAbove ⊢
      cases order <;> simp_all

/-- Unless it is NaN, a number that is not below an integer is at least that integer. -/
theorem int_le_of_not_lt (number : n.isNaN = false) (notBelow : lt n (int i) = false) :
    le (int i) n = true := by
  cases n with
  | int j =>
      have notBelow : compare j i ≠ .lt := by simpa [lt, compare?] using notBelow
      have atLeast : i ≤ j := Int.not_lt.mp fun below => notBelow (Std.compare_eq_lt.mpr below)
      have ordered : (compare i j).isLE := Std.isLE_compare.mpr atLeast
      simpa [le, compare?] using ordered
  | real x =>
      obtain ⟨order, compared⟩ := exists_compareInt?_of_not_isNaN number i
      simp only [lt, le, compare?, compared] at notBelow ⊢
      cases order <;> simp_all

end Num

namespace Entry

/-- The piece that shows an entry, if any, with fonts read in a given way. -/
def piece? (read : String → Font) : Entry → Except Fault (Option Piece)
  | .clear .. => .ok none
  | .stroke color width path => do
    return (← Outline.ofPath? path.toNums).map (.outline color width)
  | .fill color path => do
    return (← Outline.ofPath? path.toNums).map (.patch color)
  | .text words x y color font align baseline =>
    if x.isFinite && y.isFinite then
      .ok (some (.label words x y color (read font) (Artwork.alignment align)
        (Artwork.verticalAlignment baseline)))
    else .ok none

/-- The pieces that show a log. -/
def pieces (read : String → Font) (log : List Entry) : Except Fault (List Piece) := do
  return (← log.mapM (piece? read)).filterMap id

variable {read : String → Font} {log rest : List Entry} {ps : List Piece}

theorem pieces_eq_ok_iff :
    pieces read log = .ok ps ↔
      ∃ found : List (Option Piece), log.map (piece? read) = found.map .ok ∧
        found.filterMap id = ps := by
  simp only [pieces, Result.bind_eq_ok_iff, Result.pure_eq_ok_iff, Result.mapM_eq_ok_iff]

theorem pieces_append :
    pieces read (log ++ rest) = .ok ps ↔
      ∃ qs rs, pieces read log = .ok qs ∧ pieces read rest = .ok rs ∧ ps = qs ++ rs := by
  simp only [pieces_eq_ok_iff, List.map_append]
  constructor
  · rintro ⟨found, same, rfl⟩
    obtain ⟨first, second, rfl, here, there⟩ := List.map_eq_append_iff.mp same.symm
    exact ⟨_, _, ⟨first, here.symm, rfl⟩, ⟨second, there.symm, rfl⟩, List.filterMap_append⟩
  · rintro ⟨_, _, ⟨first, here, rfl⟩, ⟨second, there, rfl⟩, rfl⟩
    exact ⟨first ++ second, by rw [List.map_append, here, there], List.filterMap_append⟩

theorem pieces_singleton {e : Entry} {p : Option Piece} (shown : e.piece? read = .ok p) :
    pieces read [e] = .ok p.toList := by
  refine pieces_eq_ok_iff.mpr ⟨[p], by rw [List.map_singleton, shown]; rfl, ?_⟩
  cases p <;> rfl

/-- All entries of a log can be shown. -/
def Showable (log : List Entry) : Prop := ∃ ps, pieces Artwork.labelFont log = .ok ps

theorem Showable.of_prefix (shown : Showable rest) (early : log <+: rest) : Showable log := by
  obtain ⟨more, rfl⟩ := early
  obtain ⟨ps, shown⟩ := shown
  obtain ⟨qs, -, here, -⟩ := pieces_append.mp shown
  exact ⟨qs, here⟩

/-- The path that an entry shows. -/
def path : Entry → Path Float
  | .stroke _ _ path => path
  | .fill _ path => path
  | _ => []

end Entry

/-- No corner of a rectangle to be cleared has NaN for a coordinate. -/
def Call.Definite : Call → Prop
  | .clear x y width height => x.isNaN = false ∧ y.isNaN = false ∧
      (∀ right, x.add width = .ok right → right.isNaN = false) ∧
      ∀ bottom, y.add height = .ok bottom → bottom.isNaN = false
  | _ => True

open Entry (Showable)
open Outcome (SucceedsIf)

namespace Recording

/-- An artwork shows a recording: they have the same size and pen, and the pieces of the one are
the image of the log of the other. -/
structure Shows (r : Recording) (a : Artwork) : Prop where
  width : a.width = r.width
  height : a.height = r.height
  pen : a.pen = r.pen
  pieces : Entry.pieces Artwork.labelFont r.entries = .ok a.pieces

variable {r r' : Recording} {a a' : Artwork} {c : Call} {calls : List Call}

/-- An entry and its piece are kept side by side. -/
theorem Shows.push {entry : Except Fault Entry} {piece : Except Fault (Option Piece)}
    (shows : r.Shows a) (made : r.push entry = ⟨r', none⟩)
    (same : ∀ e, entry = .ok e → piece = e.piece? Artwork.labelFont) :
    SucceedsIf (Showable r'.entries) r'.Shows (a.push piece) := by
  obtain ⟨e, rfl, rfl⟩ := push_eq_done_iff.mp made
  rw [same e rfl]
  cases shown : e.piece? Artwork.labelFont with
  | error f =>
      refine ⟨?_, fun succeeds => absurd succeeds (Option.some_ne_none f)⟩
      rintro ⟨ps, whole⟩
      obtain ⟨-, rs, -, last, -⟩ := Entry.pieces_append.mp whole
      simp [Entry.pieces, shown, bind, Except.bind] at last
  | ok p =>
      have log := Entry.pieces_append.mpr
        ⟨_, _, shows.pieces, Entry.pieces_singleton shown, rfl⟩
      cases p with
      | none =>
          rw [Option.toList_none, List.append_nil] at log
          exact ⟨fun _ => rfl, fun _ => ⟨shows.width, shows.height, shows.pen, log⟩⟩
      | some p => exact ⟨fun _ => rfl, fun _ => ⟨shows.width, shows.height, shows.pen, log⟩⟩

theorem strokePiece_eq {p : Pen} {e : Entry} (logged : strokeEntry p = .ok e) :
    Artwork.strokePiece p = e.piece? Artwork.labelFont := by
  simp only [strokeEntry, Result.bind_eq_ok_iff, Result.pure_eq_ok_iff] at logged
  obtain ⟨width, converted, rfl⟩ := logged
  simp only [Artwork.strokePiece, Entry.piece?, converted]
  cases Outline.ofPath? p.path.toNums with
  | error f => rfl
  | ok outline => cases outline <;> rfl

theorem textPiece_eq {p : Pen} {text : String} {x y : Num} {e : Entry}
    (logged : textEntry p text x y = .ok e) :
    Artwork.textPiece p text x y = e.piece? Artwork.labelFont := by
  simp only [textEntry, Result.bind_eq_ok_iff, Result.pure_eq_ok_iff] at logged
  obtain ⟨left, toLeft, top, toTop, rfl⟩ := logged
  simp only [Artwork.textPiece, Entry.piece?, Num.isFinite, toLeft, toTop, bind, Except.bind, pure,
    Except.pure]
  cases left.isFinite <;> cases top.isFinite <;> rfl

/-- The step lemma for all calls but clears. -/
theorem Shows.perform (shows : r.Shows a) (keeps : c.isClear = false)
    (made : r.perform c = ⟨r', none⟩) :
    SucceedsIf (Showable r'.entries) r'.Shows (a.perform c) := by
  cases c with
  | pen c =>
      simp only [Recording.perform, Outcome.map] at made
      obtain ⟨rfl, succeeds⟩ := Outcome.mk.inj made
      simp only [Artwork.perform, shows.pen]
      exact ⟨fun _ => succeeds, fun _ => ⟨shows.width, shows.height, rfl, shows.pieces⟩⟩
  | clear x y width height => cases keeps
  | stroke =>
      apply shows.push made
      intro e logged
      rw [shows.pen]
      exact strokePiece_eq logged
  | fill =>
      have made : r.push (.ok (.fill r.pen.fillColor r.pen.path)) = ⟨r', none⟩ := made
      apply shows.push made
      rintro e ⟨⟩
      rw [shows.pen]
      rfl
  | text text x y =>
      apply shows.push made
      intro e logged
      rw [shows.pen]
      exact textPiece_eq logged

theorem prefix_of_perform (keeps : c.isClear = false) (made : r.perform c = ⟨r', none⟩) :
    r.entries <+: r'.entries := by
  have pushed : ∀ entry : Except Fault Entry, r.push entry = ⟨r', none⟩ →
      r.entries <+: r'.entries := by
    intro entry made
    obtain ⟨e, -, rfl⟩ := push_eq_done_iff.mp made
    exact List.prefix_append _ _
  cases c with
  | pen c =>
      obtain ⟨rfl, -⟩ := Outcome.mk.inj made
      exact List.prefix_refl _
  | clear x y width height => cases keeps
  | stroke => exact pushed (strokeEntry r.pen) made
  | fill => exact pushed (.ok (.fill r.pen.fillColor r.pen.path)) made
  | text text x y => exact pushed (textEntry r.pen text x y) made

/-- Calls without a clear only add to a log. -/
theorem prefix_of_performAll (keeps : ∀ c ∈ calls, c.isClear = false)
    (made : Surface.performAll r calls = ⟨r', none⟩) : r.entries <+: r'.entries := by
  induction calls generalizing r with
  | nil =>
      obtain ⟨rfl, -⟩ := Outcome.mk.inj made
      exact List.prefix_refl _
  | cons c calls ih =>
      obtain ⟨first, others⟩ := List.forall_mem_cons.mp keeps
      rw [Surface.performAll_cons] at made
      obtain ⟨middle, here, rest⟩ := Outcome.andThen_eq_done_iff.mp made
      exact (prefix_of_perform first here).trans (ih others rest)

/-- Calls without a clear succeed on an artwork exactly when all that they log can be shown, and
it shows the recording again. -/
theorem Shows.performAll (shows : r.Shows a) (keeps : ∀ c ∈ calls, c.isClear = false)
    (made : Surface.performAll r calls = ⟨r', none⟩) :
    SucceedsIf (Showable r'.entries) r'.Shows (Surface.performAll a calls) := by
  induction calls generalizing r a with
  | nil =>
      obtain ⟨rfl, -⟩ := Outcome.mk.inj made
      exact ⟨fun _ => rfl, fun _ => shows⟩
  | cons c calls ih =>
      obtain ⟨first, others⟩ := List.forall_mem_cons.mp keeps
      rw [Surface.performAll_cons] at made ⊢
      obtain ⟨middle, here, rest⟩ := Outcome.andThen_eq_done_iff.mp made
      apply (shows.perform first here).andThen
      · intro shown
        exact shown.of_prefix (prefix_of_performAll others rest)
      · intro a' shows
        exact ih shows others rest

/-- Surfaces of the same integer size agree on which rectangles cover them. -/
theorem covers_of_not_misses {w h : Int} {x y width height : Num} (shows : r.Shows a)
    (wide : r.width = .int w) (high : r.height = .int h)
    (definite : Call.Definite (.clear x y width height))
    (whole : a.misses x y width height = .ok false) :
    r.covers x y width height = .ok true := by
  obtain ⟨numberX, numberY, numberRight, numberBottom⟩ := definite
  unfold Artwork.misses at whole
  split at whole
  · cases whole
  · rename_i inside
    obtain ⟨notLeft, notTop⟩ : Num.lt 0 x = false ∧ Num.lt 0 y = false := by simpa using inside
    obtain ⟨right, toRight, whole⟩ := Result.bind_eq_ok_iff.mp whole
    split at whole
    · cases whole
    · rename_i reaches
      obtain ⟨bottom, toBottom, whole⟩ := Result.bind_eq_ok_iff.mp whole
      have fromLeft : x.le 0 = true := Num.le_int_of_not_lt numberX notLeft
      have fromTop : y.le 0 = true := Num.le_int_of_not_lt numberY notTop
      rw [shows.width, wide, Bool.not_eq_true] at reaches
      rw [shows.height, high, Result.pure_eq_ok_iff] at whole
      have toTheRight := Num.int_le_of_not_lt (numberRight right toRight) reaches
      have toTheBottom := Num.int_le_of_not_lt (numberBottom bottom toBottom) whole
      simp only [covers, fromLeft, fromTop, wide, high, toRight, toBottom, bind, Except.bind, pure,
        Except.pure, toTheRight, toTheBottom, Bool.and_self, if_true]

/-- The step lemma for clears. -/
theorem Shows.clear {w h : Int} {x y width height : Num} (shows : r.Shows a)
    (wide : r.width = .int w) (high : r.height = .int h)
    (definite : Call.Definite (.clear x y width height))
    (made : r.clear x y width height = ⟨r', none⟩)
    (cleared : a.clear x y width height = ⟨a', none⟩) : r'.Shows a' := by
  unfold Artwork.clear at cleared
  split at cleared
  · rename_i whole
    obtain ⟨rfl, -⟩ := Outcome.mk.inj cleared
    simp only [Recording.clear, covers_of_not_misses shows wide high definite whole, if_true]
      at made
    obtain ⟨e, logged, rfl⟩ := push_eq_done_iff.mp made
    simp only [clearEntry, Result.bind_eq_ok_iff, Result.pure_eq_ok_iff] at logged
    obtain ⟨_, -, _, -, _, -, _, -, rfl⟩ := logged
    exact ⟨shows.width, shows.height, shows.pen, rfl⟩
  · cases cleared
  · cases cleared

end Recording

end Straightedge
