import Straightedge.Proofs.Drag.Run

/-!
# Controllers do not interfere

What is done at a desk reaches a controller in three ways only: as an event of its
own, over its lock, and as the common style at the moment it is added. Two desks
that are the same in these respects stay the same for the controller, whatever else
is done at one of them, so it cannot tell a busy desk from one where it is alone.
-/

namespace Straightedge

/-- What is done at a desk: a controller is added, or a step is made. -/
inductive Action (σ : Type) where
  | add (stage : Stage σ) (lock : Option Lock) (style : Option Style) (options : Options)
      (notifies : Bool)
  | step (s : Step)

/-- Whether a step can concern a controller at a desk with a number of controllers. Events of
others can not, and neither can the common style once the controller is there. -/
def Step.concerns (j count : Nat) : Step → Bool
  | .pointer i _ => i == j
  | .setStyle _ => decide (count ≤ j)
  | .toggle _ | .setGate _ _ => true

/-- What is left of a run, from a desk with a number of controllers, without the steps that do not
concern a controller. -/
def seclude {σ : Type} (j : Nat) : Nat → List (Action σ) → List (Action σ)
  | _, [] => []
  | count, .add stage lock style options notifies :: rest =>
    .add stage lock style options notifies :: seclude j (count + 1) rest
  | count, .step s :: rest =>
    if s.concerns j count then .step s :: seclude j count rest else seclude j count rest

/-- Of the steps only the later events of the other controller and the later common style are left
out. -/
example (stage : Stage Board) (a b : PointerEvent) (style style' : Style) :
    seclude 0 0 [.step (.setStyle style), .add stage none none {} true,
        .add stage none none {} false, .step (.pointer 1 a), .step (.setStyle style'),
        .step (.toggle 0), .step (.pointer 0 b)] =
      [.step (.setStyle style), .add stage none none {} true, .add stage none none {} false,
        .step (.toggle 0), .step (.pointer 0 b)] := rfl

namespace Desk

variable {σ : Type} {d d' : Desk σ} {j : Nat}

/-- Two desks that are the same for one controller, or will be once it is added. -/
structure SameFor (j : Nat) (d d' : Desk σ) : Prop where
  locks : d.locks = d'.locks
  count : d.controllers.length = d'.controllers.length
  controller : d.controllers[j]? = d'.controllers[j]?
  style : d.controllers.length ≤ j → d.style = d'.style

namespace SameFor

theorem refl (j : Nat) (d : Desk σ) : d.SameFor j d := ⟨rfl, rfl, rfl, fun _ => rfl⟩

/-- One more controller at both desks need only be the same if it may be the one in question. -/
theorem push (same : d.SameFor j d') (locks : Locks) {c c' : Controller σ}
    (alike : d.controllers.length ≤ j → c = c') :
    SameFor j { d with locks, controllers := d.controllers ++ [c] }
      { d' with locks, controllers := d'.controllers ++ [c'] } where
  locks := rfl
  count := by rw [List.length_append, List.length_append, same.count]; rfl
  controller := by
    by_cases there : j < d.controllers.length
    · rw [List.getElem?_append_left there, List.getElem?_append_left (same.count ▸ there),
        same.controller]
    · have absent : d.controllers.length ≤ j := Nat.not_lt.mp there
      rw [List.getElem?_append_right absent, List.getElem?_append_right (same.count ▸ absent),
        same.count, alike absent]
  style absent := by
    rw [List.length_append] at absent
    exact same.style (Nat.le_of_add_right_le absent)

theorem add (same : d.SameFor j d') (stage : Stage σ) (lock : Option Lock) (style : Option Style)
    (options : Options) (notifies : Bool) :
    (d.add stage lock style options notifies).SameFor j
      (d'.add stage lock style options notifies) := by
  cases lock with
  | none | some =>
      simp only [Desk.add, same.locks]
      apply same.push
      intro absent
      rw [same.style absent]

end SameFor

variable [Surface σ]

/-- Do one thing at a desk. -/
def act (d : Desk σ) : Action σ → Desk σ
  | .add stage lock style options notifies => d.add stage lock style options notifies
  | .step s => (d.step s).desk

/-- Do one thing after the other, faults or not. -/
def perform (d : Desk σ) (actions : List (Action σ)) : Desk σ := actions.foldl act d

/-- What there is to tell about a step of a controller: what it leaves of the controller, the
report or fault, and the ids of changed points. -/
structure Account (σ : Type) where
  left : Option (Controller σ)
  reply : Except Fault Reply
  changed : List String

/-- The account of an action if it is a step of the given controller. -/
def account? (d : Desk σ) (j : Nat) : Action σ → Option (Account σ)
  | .step (.pointer i event) =>
    if i = j then
      let r := d.step (.pointer i event)
      some ⟨r.desk.controllers[j]?, r.reply, r.changed⟩
    else none
  | _ => none

/-- The accounts of all steps that a controller makes in a run. -/
def accounts (j : Nat) (d : Desk σ) : List (Action σ) → List (Account σ)
  | [] => []
  | a :: rest => (d.account? j a).toList ++ (d.act a).accounts j rest

/-- An event leaves the locks, the common style and all other controllers alone. -/
theorem step_pointer (d : Desk σ) (i : Nat) (event : PointerEvent) :
    (d.step (.pointer i event)).desk.locks = d.locks ∧
      (d.step (.pointer i event)).desk.style = d.style ∧
      ∀ j, i ≠ j → (d.step (.pointer i event)).desk.controllers[j]? = d.controllers[j]? := by
  cases there : d.controllers[i]? with
  | none =>
      rw [step_of_none there]
      exact ⟨rfl, rfl, fun _ _ => rfl⟩
  | some c =>
      rw [step_of_some there]
      exact ⟨rfl, rfl, fun j other => List.getElem?_set_ne other⟩

/-- What an event does to a controller, and what there is to tell about it, is a matter of the
controller and the locks. -/
theorem step_pointer_congr (locks : d.locks = d'.locks)
    (controller : d.controllers[j]? = d'.controllers[j]?) (event : PointerEvent) :
    (d.step (.pointer j event)).desk.controllers[j]? =
        (d'.step (.pointer j event)).desk.controllers[j]? ∧
      d.account? j (.step (.pointer j event)) = d'.account? j (.step (.pointer j event)) := by
  cases there : d.controllers[j]? with
  | none =>
      have there' : d'.controllers[j]? = none := controller.symm.trans there
      simp only [account?, step_of_none there, step_of_none there', there, there', and_self]
  | some c =>
      have there' : d'.controllers[j]? = some c := controller.symm.trans there
      have now : ∀ (d : Desk σ) (c' : Controller σ), d.controllers[j]? = some c →
          (d.setController j c').controllers[j]? = some c' := by
        intro d c' there
        exact List.getElem?_set_self (List.getElem?_eq_some_iff.mp there).1
      simp only [account?, step_of_some there, step_of_some there', now d _ there,
        now d' _ there', locks, and_self]

namespace SameFor

/-- A step that concerns a controller is the same for it at both desks. -/
theorem step (same : d.SameFor j d') {s : Step}
    (concerns : s.concerns j d.controllers.length = true) :
    (d.step s).desk.SameFor j (d'.step s).desk ∧
      d.account? j (.step s) = d'.account? j (.step s) := by
  have count : (d.step s).desk.controllers.length = (d'.step s).desk.controllers.length := by
    rw [length_step, length_step, same.count]
  cases s with
  | pointer i event =>
      obtain rfl : i = j := beq_iff_eq.mp concerns
      obtain ⟨locks, style, -⟩ := d.step_pointer i event
      obtain ⟨locks', style', -⟩ := d'.step_pointer i event
      obtain ⟨controller, account⟩ := step_pointer_congr same.locks same.controller event
      refine ⟨⟨?_, count, controller, ?_⟩, account⟩
      · rw [locks, locks', same.locks]
      · intro absent
        rw [length_step] at absent
        rw [style, style', same.style absent]
  | toggle i =>
      exact ⟨⟨congrArg (·.toggle i) same.locks, same.count, same.controller, same.style⟩, rfl⟩
  | setGate i locked =>
      exact ⟨⟨congrArg (·.setGate i locked) same.locks, same.count, same.controller, same.style⟩,
        rfl⟩
  | setStyle style =>
      refine ⟨?_, rfl⟩
      cases checked : style.checked with
      | error f => rwa [step_setStyle_of_error checked, step_setStyle_of_error checked]
      | ok style' =>
          rw [step_setStyle_of_ok checked, step_setStyle_of_ok checked]
          exact ⟨same.locks, same.count, same.controller, fun _ => rfl⟩

/-- A step that does not concern a controller need not be made. -/
theorem skip (same : d.SameFor j d') {s : Step}
    (other : s.concerns j d.controllers.length = false) :
    (d.step s).desk.SameFor j d' ∧ d.account? j (.step s) = none := by
  cases s with
  | pointer i event =>
      have different : i ≠ j := beq_eq_false_iff_ne.mp other
      obtain ⟨locks, style, elsewhere⟩ := d.step_pointer i event
      refine ⟨⟨locks.trans same.locks, (d.length_step _).trans same.count,
        (elsewhere j different).trans same.controller, ?_⟩, if_neg different⟩
      intro absent
      rw [length_step] at absent
      exact style.trans (same.style absent)
  | toggle | setGate => cases other
  | setStyle style =>
      have there : ¬d.controllers.length ≤ j := of_decide_eq_false other
      refine ⟨?_, rfl⟩
      cases checked : style.checked with
      | error f => rwa [step_setStyle_of_error checked]
      | ok style' =>
          rw [step_setStyle_of_ok checked]
          exact ⟨same.locks, same.count, same.controller, fun absent => absurd absent there⟩

/-- The run lemma: what is left out makes no difference to the controller. -/
theorem seclude (same : d.SameFor j d') (actions : List (Action σ)) :
    (d.perform actions).SameFor j (d'.perform (seclude j d.controllers.length actions)) ∧
      d.accounts j actions = d'.accounts j (seclude j d.controllers.length actions) := by
  induction actions generalizing d d' with
  | nil => exact ⟨same, rfl⟩
  | cons a actions ih =>
      cases a with
      | add stage lock style options notifies =>
          have count : (d.add stage lock style options notifies).controllers.length =
              d.controllers.length + 1 := List.length_append
          obtain ⟨left, accounts⟩ := ih (same.add stage lock style options notifies)
          rw [count] at left accounts
          exact ⟨left, accounts⟩
      | step s =>
          have count := d.length_step s
          rw [Straightedge.seclude]
          cases concerns : s.concerns j d.controllers.length with
          | true =>
              obtain ⟨same, account⟩ := same.step concerns
              obtain ⟨left, accounts⟩ := ih same
              rw [count] at left accounts
              simp only [Desk.accounts, account, if_true]
              exact ⟨left, congrArg (_ ++ ·) accounts⟩
          | false =>
              obtain ⟨same, account⟩ := same.skip concerns
              obtain ⟨left, accounts⟩ := ih same
              rw [count] at left accounts
              simp only [Desk.accounts, account, Bool.false_eq_true, if_false]
              exact ⟨left, accounts⟩

end SameFor

/-- Controllers do not interfere except through a shared lock. In whatever way controllers are
added to a desk and steps are made, faults or not, leaving out all steps of the others, and every
common style that is set once the controller is there, changes nothing for it: neither what each
of its own steps leaves, reports and tells about, nor its scene, its surface and what it holds in
the end. -/
theorem perform_secluded (d : Desk σ) (actions : List (Action σ)) (j : Nat) :
    let alone := seclude j d.controllers.length actions
    (d.perform alone).controllers[j]? = (d.perform actions).controllers[j]? ∧
      d.accounts j alone = d.accounts j actions := by
  obtain ⟨left, accounts⟩ := (SameFor.refl j d).seclude actions
  exact ⟨left.controller.symm, accounts.symm⟩

end Desk

end Straightedge
