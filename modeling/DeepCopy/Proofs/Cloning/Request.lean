import DeepCopy.Proofs.Cloning.Copies

/-!
# Requests

The operations differ in what they clone their value by and in the trail that they start on. What is
true of all of them is told of a `Request`.

## Main definitions

* `Request`, `Request.perform`: the clone operations

## Main results

* `Request.outcome_perform`: every operation clones its value on its trail
* `Request.copied_of_perform`: what the operations make is made by the rules
-/

namespace DeepCopy

open Cloning

/-- A clone operation with the value that it is asked for. -/
inductive Request where
  | fast (v : Value)
  | safe (v : Value)
  /-- A safe clone on the shared trail. -/
  | safeIn (v : Value)
  deriving DecidableEq

namespace Request

/-- The value that is cloned. -/
def value : Request → Value
  | .fast v | .safe v | .safeIn v => v

/-- The operation that clones it. -/
def operation : Request → Operation
  | .fast _ => .fast
  | .safe _ | .safeIn _ => .safe

/-- The trail that the operation starts on, given that of its caller. -/
def trail (t : Trail) : Request → Trail
  | .fast _ | .safe _ => {}
  | .safeIn _ => t

/-- Doing what is asked for. -/
def perform (plans : Catalog) : Request → Cloning Value
  | .fast v => cloneFast plans v
  | .safe v => cloneSafe plans v
  | .safeIn v => cloneSafeIn plans v

/-- **Every operation clones its value on its trail**, and has the trail of its caller back. -/
theorem outcome_perform (plans : Catalog) (s : CloneState) (r : Request) :
    outcome (r.perform plans) s =
      let p := outcome (cloneObject plans (depthLimit s.heap) r.operation r.value)
        { s with trail := r.trail s.trail }
      (p.1, { p.2 with trail := s.trail }) := by
  cases r with
  | fast v => exact outcome_cloneFast plans v s
  | safe v =>
    rw [perform, outcome_cloneSafe, outcome_cloneSafeIn]
    rfl
  | safeIn v =>
    rw [perform, outcome_cloneSafeIn]
    have htrail := (Steady.cloneObject plans (depthLimit s.heap) .safe v s).trail_eq
    exact Prod.ext rfl (with_trail_eq_self htrail).symm

theorem steady_perform (plans : Catalog) (r : Request) : Steady (r.perform plans) := by
  cases r with
  | fast v => exact .cloneFast
  | safe v => exact .cloneSafe
  | safeIn v => exact .cloneSafeIn

/-- **What an operation makes is made by the rules**, on the trail that it starts on. -/
theorem copied_of_perform {plans : Catalog} {s s' : CloneState} {r : Request} {w : Value}
    (hs : s.heap.Closed) (hv : s.heap.Holds r.value)
    (hr : outcome (r.perform plans) s = (.ok w, s')) :
    Copied plans s.heap s'.heap (r.trail s.trail) (.value (.call false r.operation) r.value w)
      s.heap.size s'.heap.size := by
  cases r with
  | fast v => exact copied_of_cloneFast hs hv hr
  | safe v => exact copied_of_cloneSafe hs hv hr
  | safeIn v => exact copied_of_cloneSafeIn hs hv hr

end Request

end DeepCopy
