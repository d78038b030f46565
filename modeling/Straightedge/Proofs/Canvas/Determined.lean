import Mathlib.Data.List.Basic
import Straightedge.Canvas.Drawing
import Straightedge.Canvas.Recording
import Straightedge.Proofs.Outcome

/-!
# Drawings determined by a part of the pen

What a drawing leaves on a recording may depend on the pen as it was found. A
drawing is `Determined` by some parts of the pen when two recordings whose pens
agree on these parts get the same entries and the same fault from it. The
statement also says on which parts the pens agree afterwards, so that drawings
compose: each style must be set, and each path begun, before an entry shows it.
Such a drawing never clears, so it only adds to what was drawn before.
-/

namespace Straightedge

namespace Surface

variable {σ : Type} [Surface σ]

theorem performAll_cons (s : σ) (c : Call) (calls : List Call) :
    performAll s (c :: calls) = (perform s c).andThen fun s => performAll s calls := rfl

end Surface

namespace Drawing

variable {α β σ : Type} [Surface σ]

theorem on_pure (a : α) (s : σ) : (pure a : Drawing α).on s = ⟨s, none⟩ := rfl

theorem on_call (c : Call) (s : σ) : (call c).on s = Surface.perform s c := by
  simp only [on, call_calls, Surface.performAll, Outcome.fold_cons, Outcome.fold_nil, fault?,
    call_result, Outcome.andThen_done]

/-- A drawing that succeeds is made first and then its continuation. -/
theorem on_bind_of_ok {d : Drawing α} {a : α} (h : d.result = .ok a) (next : α → Drawing β)
    (s : σ) : (d >>= next).on s = (d.on s).andThen (next a).on := by
  have calls : d >>= next = ⟨d.calls ++ (next a).calls, (next a).result⟩ := bind_of_ok h next
  have fault : d.fault? = none := by rw [fault?, h]
  rw [calls, on, on, fault, Outcome.andThen_done, Surface.performAll, Outcome.fold_append,
    Outcome.andThen_assoc]
  rfl

/-- A drawing that fails is all that is made. -/
theorem on_bind_of_error {d : Drawing α} {f : Fault} (h : d.result = .error f)
    (next : α → Drawing β) (s : σ) : (d >>= next).on s = d.on s := by
  have calls : d >>= next = ⟨d.calls, .error f⟩ := bind_of_error h next
  rw [calls, on, on, fault?, fault?, h]

/-- A drawing that fails on a surface is all that is made there. -/
theorem on_bind_of_fault {d : Drawing α} {s : σ} (h : (d.on s).fault ≠ none)
    (next : α → Drawing β) : (d >>= next).on s = d.on s := by
  cases result : d.result with
  | error f => exact on_bind_of_error result next s
  | ok a => rw [on_bind_of_ok result, Outcome.andThen_of_ne_none h]

/-- The calls of a drawing and its continuation are calls of one of them. -/
theorem mem_calls_bind {d : Drawing α} {next : α → Drawing β} {c : Call}
    (member : c ∈ (d >>= next).calls) : c ∈ d.calls ∨ ∃ a, c ∈ (next a).calls := by
  change c ∈ (d.bind next).calls at member
  cases result : d.result with
  | error f =>
      rw [bind_of_error result] at member
      exact .inl member
  | ok a =>
      rw [bind_of_ok result] at member
      exact (List.mem_append.mp member).imp_right (Exists.intro a)

theorem result_of_fault_eq_none {d : Drawing α} {s : σ} (h : (d.on s).fault = none) :
    ∃ a, d.result = .ok a := by
  have made := (Outcome.andThen_fault_eq_none_iff.mp h).2
  cases result : d.result with
  | error f => simp [fault?, result] at made
  | ok a => exact ⟨a, rfl⟩

/-- A drawing with a result is made by its calls. -/
theorem on_of_ok {d : Drawing α} {a : α} (h : d.result = .ok a) (s : σ) :
    d.on s = Surface.performAll s d.calls := by
  have fault : d.fault? = none := by rw [fault?, h]
  rw [on, fault, Outcome.andThen_done]

end Drawing

namespace Pen

/-- The parts of a pen. -/
inductive Part where
  | strokeColor
  | fillColor
  | lineWidth
  | font
  | align
  | baseline
  | path
  deriving DecidableEq

/-- Two pens have the same in one part. -/
def SameIn (p q : Pen) : Part → Prop
  | .strokeColor => p.strokeColor = q.strokeColor
  | .fillColor => p.fillColor = q.fillColor
  | .lineWidth => p.lineWidth = q.lineWidth
  | .font => p.font = q.font
  | .align => p.align = q.align
  | .baseline => p.baseline = q.baseline
  | .path => p.path = q.path

/-- Two pens have the same in each of the given parts. -/
def Agree (known : List Part) (p q : Pen) : Prop := ∀ part ∈ known, p.SameIn q part

theorem Agree.mono {known fewer : List Part} {p q : Pen} (h : p.Agree known q)
    (subset : fewer ⊆ known) : p.Agree fewer q := by
  intro part member
  exact h part (subset member)

end Pen

namespace PenCall

/-- The parts of a pen that a call reads. -/
def reads : PenCall → List Pen.Part
  | .fillAsStroke => [.strokeColor]
  | _ => []

/-- The parts of a pen that a call sets, whatever they were. A step only extends the path. -/
def sets : PenCall → List Pen.Part
  | .beginPath => [.path]
  | .step _ => []
  | .strokeColor _ => [.strokeColor]
  | .fillColor _ | .fillAsStroke => [.fillColor]
  | .lineWidth _ => [.lineWidth]
  | .font _ => [.font]
  | .align _ => [.align]
  | .baseline _ => [.baseline]

end PenCall

namespace Pen

variable {known : List Part} {p q : Pen}

/-- Pens that agree on what a call reads agree afterwards on what it sets as well. -/
theorem Agree.perform (h : p.Agree known q) {c : PenCall} (reads : c.reads ⊆ known) :
    (p.perform c).fault = (q.perform c).fault ∧
      (p.perform c).state.Agree (c.sets ++ known) (q.perform c).state := by
  cases c with
  | step s =>
      simp only [Pen.perform]
      cases s.toFloats with
      | error f => exact ⟨rfl, h⟩
      | ok s =>
          refine ⟨rfl, ?_⟩
          intro part member
          have same := h part member
          cases part with
          | path => exact congrArg (· ++ [s]) same
          | _ => exact same
  | fillAsStroke =>
      have stroke : p.strokeColor = q.strokeColor := h .strokeColor (reads List.mem_cons_self)
      refine ⟨rfl, ?_⟩
      intro part member
      rcases List.mem_cons.mp member with rfl | old
      · exact stroke
      · have same := h part old
        cases part with
        | fillColor => exact stroke
        | _ => exact same
  | _ =>
      refine ⟨rfl, ?_⟩
      intro part member
      rcases List.mem_cons.mp member with rfl | old
      · rfl
      · have same := h part old
        cases part <;> first | exact same | rfl

end Pen

/-- Whether a call clears. -/
def Call.isClear : Call → Bool
  | .clear .. => true
  | _ => false

namespace Drawing

open Pen (Part Agree)

variable {α β : Type} {known middle settled : List Part} {d : Drawing α}

/-- What a drawing makes of two recordings: the same fault, the same new entries, and pens that
agree on the settled parts, unless there was a fault. -/
structure Matching (settled : List Part) (r r' : Recording) (o o' : Outcome Recording) : Prop where
  fault : o.fault = o'.fault
  entries : ∃ drawn, o.state.entries = r.entries ++ drawn ∧ o'.state.entries = r'.entries ++ drawn
  pens : o.fault = none → o.state.pen.Agree settled o'.state.pen

/-- The drawing does not clear, and recordings match after it as soon as their pens agreed on the
known parts before. -/
structure Determined (known settled : List Part) (d : Drawing α) : Prop where
  keeps : ∀ c ∈ d.calls, c.isClear = false
  matching : ∀ r r' : Recording, r.pen.Agree known r'.pen →
    Matching settled r r' (d.on r) (d.on r')

theorem keeps_call {c : Call} (keeps : c.isClear = false) :
    ∀ c' ∈ (call c).calls, c'.isClear = false := by
  intro c' member
  rwa [List.mem_singleton.mp member]

theorem determined_pure (a : α) : (pure a : Drawing α).Determined known known := by
  refine ⟨fun _ member => absurd member List.not_mem_nil, ?_⟩
  intro r r' agree
  exact ⟨rfl, ⟨[], by simp [on_pure]⟩, fun _ => agree⟩

theorem determined_lift (result : Except Fault α) :
    (liftM result : Drawing α).Determined known known := by
  cases result with
  | error f =>
      refine ⟨fun _ member => absurd member List.not_mem_nil, ?_⟩
      intro r r' _
      exact ⟨rfl, ⟨[], (List.append_nil _).symm, (List.append_nil _).symm⟩,
        fun succeeds => absurd succeeds (Option.some_ne_none f)⟩
  | ok a => exact determined_pure a

theorem Determined.mono (h : d.Determined known settled) (fewer : middle ⊆ settled) :
    d.Determined known middle := by
  refine ⟨h.keeps, ?_⟩
  intro r r' agree
  have made := h.matching r r' agree
  exact ⟨made.fault, made.entries, fun succeeds => (made.pens succeeds).mono fewer⟩

/-- A continuation may rely on what the drawing before it has settled. -/
theorem Determined.bind (first : d.Determined known middle) {next : α → Drawing β}
    (rest : ∀ a, (next a).Determined middle settled) :
    (d >>= next).Determined known settled := by
  refine ⟨?_, ?_⟩
  · intro c member
    rcases mem_calls_bind member with here | ⟨a, later⟩
    · exact first.keeps c here
    · exact (rest a).keeps c later
  intro r r' agree
  have made := first.matching r r' agree
  by_cases succeeds : (d.on r).fault = none
  · obtain ⟨a, result⟩ := result_of_fault_eq_none succeeds
    have succeeds' : (d.on r').fault = none := made.fault.symm.trans succeeds
    have continued := (rest a).matching _ _ (made.pens succeeds)
    obtain ⟨drawn, entries, entries'⟩ := made.entries
    obtain ⟨more, added, added'⟩ := continued.entries
    rw [on_bind_of_ok result, on_bind_of_ok result, Outcome.andThen_of_none succeeds,
      Outcome.andThen_of_none succeeds']
    exact ⟨continued.fault, ⟨drawn ++ more, by rw [added, entries, List.append_assoc],
      by rw [added', entries', List.append_assoc]⟩, continued.pens⟩
  · rw [on_bind_of_fault succeeds, on_bind_of_fault (made.fault ▸ succeeds)]
    exact ⟨made.fault, made.entries, fun none => absurd none succeeds⟩

/-- A call on the pen settles what it sets. -/
theorem determined_pen {c : PenCall} (reads : c.reads ⊆ known) :
    (pen c).Determined known (c.sets ++ known) := by
  refine ⟨keeps_call rfl, ?_⟩
  intro r r' agree
  obtain ⟨fault, pens⟩ := agree.perform reads
  rw [pen, on_call, on_call]
  exact ⟨fault, ⟨[], (List.append_nil _).symm, (List.append_nil _).symm⟩, fun _ => pens⟩

/-- A step extends the path as it is. -/
theorem determined_step (s : PathStep Num) : (pen (.step s)).Determined known known := by
  have step : (pen (.step s)).Determined known (PenCall.sets (.step s) ++ known) :=
    determined_pen (List.nil_subset known)
  exact step

/-- What follows a call on the pen may rely on what the call sets. -/
theorem Determined.pen_bind {c : PenCall} {next : Unit → Drawing β} (reads : c.reads = [])
    (rest : (next ()).Determined (c.sets ++ known) settled) :
    (pen c >>= next).Determined known settled := by
  have readsNothing : c.reads ⊆ known := reads ▸ List.nil_subset known
  apply (determined_pen readsNothing).bind
  intro _
  exact rest

theorem Determined.lift_bind {result : Except Fault α} {next : α → Drawing β}
    (rest : ∀ a, (next a).Determined known settled) :
    (liftM result >>= next : Drawing β).Determined known settled :=
  (determined_lift result).bind rest

/-- A drawing that draws nothing unless something is found. -/
theorem Determined.found_bind {found : Except Fault (Option α)} {next : Option α → Drawing Unit}
    (nothing : next none = pure ()) (rest : ∀ a, (next (some a)).Determined known known) :
    (liftM found >>= next : Drawing Unit).Determined known known := by
  apply Determined.lift_bind
  intro found
  cases found with
  | none =>
      rw [nothing]
      exact determined_pure ()
  | some a => exact rest a

/-- An entry that both recordings make alike is added to both. -/
theorem matching_push {r r' : Recording} (agree : r.pen.Agree known r'.pen)
    {entry entry' : Except Fault Entry} (same : entry = entry') :
    Matching known r r' (r.push entry) (r'.push entry') := by
  subst same
  cases entry with
  | error f =>
      exact ⟨rfl, ⟨[], (List.append_nil _).symm, (List.append_nil _).symm⟩,
        fun succeeds => absurd succeeds (Option.some_ne_none f)⟩
  | ok e => exact ⟨rfl, ⟨[e], rfl, rfl⟩, fun _ => agree⟩

theorem determined_stroke (shown : [.strokeColor, .lineWidth, .path] ⊆ known) :
    (call .stroke).Determined known known := by
  refine ⟨keeps_call rfl, ?_⟩
  intro r r' agree
  have color : r.pen.strokeColor = r'.pen.strokeColor := agree .strokeColor (shown (by decide))
  have width : r.pen.lineWidth = r'.pen.lineWidth := agree .lineWidth (shown (by decide))
  have path : r.pen.path = r'.pen.path := agree .path (shown (by decide))
  rw [on_call, on_call]
  exact matching_push agree (by simp only [Recording.strokeEntry, color, width, path])

theorem determined_fill (shown : [.fillColor, .path] ⊆ known) :
    (call .fill).Determined known known := by
  refine ⟨keeps_call rfl, ?_⟩
  intro r r' agree
  have color : r.pen.fillColor = r'.pen.fillColor := agree .fillColor (shown (by decide))
  have path : r.pen.path = r'.pen.path := agree .path (shown (by decide))
  have entry : (Except.ok (.fill r.pen.fillColor r.pen.path) : Except Fault Entry) =
      .ok (.fill r'.pen.fillColor r'.pen.path) := by rw [color, path]
  rw [on_call, on_call]
  exact matching_push agree entry

theorem determined_text (shown : [.fillColor, .font, .align, .baseline] ⊆ known) (text : String)
    (x y : Num) : (call (.text text x y)).Determined known known := by
  refine ⟨keeps_call rfl, ?_⟩
  intro r r' agree
  have color : r.pen.fillColor = r'.pen.fillColor := agree .fillColor (shown (by decide))
  have font : r.pen.font = r'.pen.font := agree .font (shown (by decide))
  have align : r.pen.align = r'.pen.align := agree .align (shown (by decide))
  have baseline : r.pen.baseline = r'.pen.baseline := agree .baseline (shown (by decide))
  rw [on_call, on_call]
  exact matching_push agree (by simp only [Recording.textEntry, color, font, align, baseline])

/-- A drawing that depends on nothing of the pen may follow any other. -/
theorem determined_sequence {ds : List (Drawing Unit)} (each : ∀ d ∈ ds, d.Determined [] []) :
    (sequence ds).Determined [] [] := by
  induction ds with
  | nil => exact determined_pure ()
  | cons d ds ih =>
      obtain ⟨first, rest⟩ := List.forall_mem_cons.mp each
      exact first.bind fun _ => ih rest

/-- The entries that a drawing leaves on a fresh recording. -/
def entries (d : Drawing α) : List Entry := (d.on ({} : Recording)).state.entries

/-- A drawing that depends on nothing of the pen adds the same entries to any recording. -/
theorem Determined.on_eq (h : d.Determined [] settled) (r : Recording) :
    (d.on r).fault = (d.on ({} : Recording)).fault ∧
      (d.on r).state.entries = r.entries ++ d.entries := by
  have made := h.matching r {} fun _ member => absurd member List.not_mem_nil
  obtain ⟨drawn, added, fresh⟩ := made.entries
  rw [entries, fresh, List.nil_append]
  exact ⟨made.fault, added⟩

/-- Drawings that succeed one after the other add their entries one after the other. -/
theorem entries_sequence {ds : List (Drawing Unit)} (each : ∀ d ∈ ds, d.Determined [] [])
    (succeeds : ((sequence ds).on ({} : Recording)).fault = none) :
    (∀ d ∈ ds, (d.on ({} : Recording)).fault = none) ∧
      (sequence ds).entries = ds.flatMap entries := by
  induction ds with
  | nil => exact ⟨fun _ member => absurd member List.not_mem_nil, rfl⟩
  | cons d ds ih =>
      obtain ⟨-, others⟩ := List.forall_mem_cons.mp each
      have whole : sequence (d :: ds) = (d >>= fun _ => sequence ds) := rfl
      rw [whole] at succeeds
      by_cases first : (d.on ({} : Recording)).fault = none
      · obtain ⟨a, result⟩ := result_of_fault_eq_none first
        have later := (determined_sequence others).on_eq (d.on ({} : Recording)).state
        rw [on_bind_of_ok result, Outcome.andThen_of_none first, later.1] at succeeds
        obtain ⟨rest, entries⟩ := ih others succeeds
        refine ⟨List.forall_mem_cons.mpr ⟨first, rest⟩, ?_⟩
        rw [whole, Drawing.entries, on_bind_of_ok result, Outcome.andThen_of_none first, later.2,
          entries, List.flatMap_cons]
        rfl
      · rw [on_bind_of_fault first] at succeeds
        exact absurd succeeds first

/-- One after the other, drawings fail only as one of them does on its own. -/
theorem failsOnly_sequence {allowed : Fault → Prop} {ds : List (Drawing Unit)}
    (each : ∀ d ∈ ds, d.Determined [] [])
    (alone : ∀ d ∈ ds, (d.on ({} : Recording)).FailsOnly fun _ => allowed) (r : Recording) :
    ((sequence ds).on r).FailsOnly fun _ => allowed := by
  induction ds generalizing r with
  | nil => exact Outcome.failsOnly_of_none rfl
  | cons d ds ih =>
      obtain ⟨determined, others⟩ := List.forall_mem_cons.mp each
      obtain ⟨first, rest⟩ := List.forall_mem_cons.mp alone
      have whole : sequence (d :: ds) = (d >>= fun _ => sequence ds) := rfl
      have here : (d.on r).FailsOnly fun _ => allowed := by
        intro f failed
        rw [(determined.on_eq r).1] at failed
        exact first f failed
      rw [whole]
      by_cases succeeds : (d.on r).fault = none
      · obtain ⟨a, result⟩ := result_of_fault_eq_none succeeds
        rw [on_bind_of_ok result]
        exact here.andThen fun _ => ih others rest _
      · rw [on_bind_of_fault succeeds]
        exact here

end Drawing

end Straightedge
