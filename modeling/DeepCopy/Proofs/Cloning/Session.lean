import DeepCopy.Proofs.Cloning.Nesting

/-!
# The trail across operations

Whoever clones objects may put cells on a trail, have it shared by safe clones, and take cells off
it again. What is on the trail is then only what was put there: a clone operation has its own
objects on the trail for as long as it clones their members, above what was there before, and has
taken them all off when it ends, for whatever reason it ends.

## Main definitions

* `Step`: what is done with a trail that clone operations share
* `Step.run`, `Step.mark`: the state after a step, and what the step itself does to the trail

## Main results

* `InProgress.trail_eq`: the trail at every moment of a run
* `trail_restored`: clone operations leave the trail as it was
-/

namespace DeepCopy

open Cloning

variable {plans : Catalog}

/-! ## The trail while objects are cloned -/

/-- A call from an accessor has the trail on which the accessor is evaluated. -/
theorem Cloning.Makes.trail_eq {call : Operation → Value → Cloning Value} {member : String}
    {work : Accessor} {v : Value} {s : CloneState} {c : Call}
    (hcall : ∀ op w, Steady (call op w)) (hc : Makes call member work v s c) :
    c.state.trail = s.trail := by
  have hwork := fun work => Steady.evaluate hcall member work
  induction hc with
  | here => rfl
  | inner _ _ ih => exact ih
  | item _ hb _ ih => exact ih.trans ((Steady.each (hwork _) _).of_run hb).trail_eq
  | key _ hb _ ih => exact ih.trans ((Steady.eachEntry (hwork _) (hwork _) _).of_run hb).trail_eq
  | value _ hb hk _ ih =>
    have hs' := (Steady.eachEntry (hwork _) (hwork _) _).of_run hb
    exact ih.trans ((((hwork _ _).of_run hk).trans hs').trail_eq)

/-- A call nested in another has the other's trail, with the other's object on it if that is being
cloned safely. -/
theorem Nests.trail_eq {c d : Call} (hn : Nests plans c d) :
    d.state.trail = c.operation.trail c.state.trail c.value := by
  obtain ⟨-, -, hb, hd⟩ := hn
  have hs := (Steady.assign (Steady.cloneObject plans _) _ _ _).of_run hb
  exact (hd.trail_eq (Steady.cloneObject plans _)).trans hs.trail_eq

/-- **The trail at every moment** is what was there at the start, and above it the objects of the
safe clones in progress. -/
theorem InProgress.trail_eq {root c : Call} {calls : List Call}
    (hc : InProgress plans root (c :: calls)) :
    c.state.trail = calls.foldr (fun d t => d.operation.trail t d.value) root.state.trail := by
  -- Each call adds its own object to what the calls before it have put on the trail.
  generalize hcs : c :: calls = cs at hc
  induction hc generalizing c calls with
  | root =>
    cases hcs
    rfl
  | nested _ hn _ ih =>
    cases hcs
    rw [hn.trail_eq, ih rfl, List.foldr_cons]

/-! ## The trail after a step -/

/-- What is done with a trail that clone operations share. -/
inductive Step where
  | fast (v : Value)
  | safe (v : Value)
  /-- A safe clone on the shared trail. -/
  | safeIn (v : Value)
  | push (v : Value)
  | pop
  deriving DecidableEq

namespace Step

/-- The state after a step. Of a clone operation that fails there stays what it made and counted. -/
def run (plans : Catalog) (s : CloneState) : Step → CloneState
  | .fast v => (outcome (cloneFast plans v) s).2
  | .safe v => (outcome (cloneSafe plans v) s).2
  | .safeIn v => (outcome (cloneSafeIn plans v) s).2
  | .push v => { s with trail := s.trail.push v }
  | .pop => { s with trail := s.trail.pop }

/-- What a step itself does to the trail. -/
def mark (t : Trail) : Step → Trail
  | .fast _ | .safe _ | .safeIn _ => t
  | .push v => t.push v
  | .pop => t.pop

theorem trail_run (plans : Catalog) (s : CloneState) (step : Step) :
    (step.run plans s).trail = step.mark s.trail := by
  cases step with
  | fast v => exact (Steady.cloneFast s).trail_eq
  | safe v => exact (Steady.cloneSafe s).trail_eq
  | safeIn v => exact (Steady.cloneSafeIn s).trail_eq
  | push v => rfl
  | pop => rfl

theorem trail_foldl_run (plans : Catalog) (steps : List Step) (s : CloneState) :
    (steps.foldl (run plans) s).trail = steps.foldl mark s.trail := by
  induction steps generalizing s with
  | nil => rfl
  | cons step steps ih => rw [List.foldl_cons, List.foldl_cons, ih, trail_run]

end Step

/-- **The trail is restored**, by whatever plans objects are cloned. While a safe clone goes on, its
trail is that of its caller with the objects of the safe clones in progress above it; however it
ends, and whatever the bound on nested objects is, the trail of its caller is left. After any steps
the trail is what the steps that put cells on it and take cells off it make of it by themselves. -/
theorem trail_restored (plans : Catalog) (s : CloneState) :
    (∀ v c calls, InProgress plans ⟨.safe, v, s⟩ (c :: calls) →
        c.state.trail = calls.foldr (fun d t => d.operation.trail t d.value) s.trail) ∧
      (∀ v depth, (outcome (cloneObject plans depth .safe v) s).2.trail = s.trail) ∧
      (∀ v, (outcome (cloneSafeIn plans v) s).2.trail = s.trail) ∧
      ∀ steps : List Step, (steps.foldl (Step.run plans) s).trail = steps.foldl Step.mark s.trail :=
  ⟨fun _ _ _ hc => hc.trail_eq, fun v depth => (Steady.cloneObject plans depth .safe v s).trail_eq,
    fun _ => (Steady.cloneSafeIn s).trail_eq, fun steps => Step.trail_foldl_run plans steps s⟩

/-- A plan that is not compiled: each operation calls both. -/
def mixedPlan : Plan :=
  { nodePlan with
    fast := [⟨"Peers", .array (.call false .safe)⟩, ⟨"Next", .call false .fast⟩]
    safe := [⟨"Peers", .array (.call false .fast)⟩, ⟨"Next", .call false .safe⟩] }

/-- While the last node of the chain is cloned, its peer is. -/
theorem exists_inProgress_nodeChain :
    ∃ c, InProgress (.ofList [mixedPlan]) ⟨.safe, .ref 3, { heap := nodeChain, trail := ⟨[4]⟩ }⟩
      [c, ⟨.safe, .ref 3, { heap := nodeChain, trail := ⟨[4]⟩ }⟩] ∧ c.operation = .fast := by
  let outer : Call := ⟨.safe, .ref 3, { heap := nodeChain, trail := ⟨[4]⟩ }⟩
  let inner : Call := ⟨.fast, .ref 1, { heap := nodeChain, trail := ⟨[3, 4]⟩, calls := 1 }⟩
  let source : Fields :=
    .ofList [("Label", .text "b"), ("Peers", .ref 2), ("Next", .ref 1), ("Owner", .null)]
  have he : outer.entry (.ofList [mixedPlan]) = .entered "Node" source mixedPlan := rfl
  have hp : mixedPlan.assignments .safe = [] ++
      .cloned ⟨"Peers", .array (.call false .fast)⟩ ::
        [.cloned ⟨"Next", .call false .safe⟩, .kept "Owner"] := rfl
  have hpeers : (Accessor.array (.call false .fast)).action "Peers"
      (inner.state.heap.content (source.get "Peers")) =
        .items (.call false .fast) none ([] ++ .ref 1 :: []) := by decide +kernel
  have hmakes : Makes (cloneObject (.ofList [mixedPlan]) 0) "Peers" (.array (.call false .fast))
      (source.get "Peers") inner.state inner := .item hpeers rfl (.here (by decide +kernel))
  have hnests : Nests (.ofList [mixedPlan]) outer inner := .intro he hp rfl hmakes
  have houter : outer.Passes := ⟨⟨"Node", source, rfl⟩, by decide⟩
  have hinner : inner.Passes := ⟨⟨"Node", _, rfl⟩, by decide⟩
  exact ⟨inner, .nested (.root houter) hnests hinner, rfl⟩

/-- The clone of the last node of the chain fails in the clone of its peer, and leaves the trail of
its caller. -/
theorem trail_restored_nodeChain :
    (outcome (cloneSafeIn (.ofList [mixedPlan]) (.ref 3))
        { heap := nodeChain, trail := ⟨[4]⟩ }).1 = .error (.failure (.nullReference "Next")) ∧
      (outcome (cloneSafeIn (.ofList [mixedPlan]) (.ref 3))
        { heap := nodeChain, trail := ⟨[4]⟩ }).2.trail = ⟨[4]⟩ ∧
      (∃ c, InProgress (.ofList [mixedPlan]) ⟨.safe, .ref 3, { heap := nodeChain, trail := ⟨[4]⟩ }⟩
        [c, ⟨.safe, .ref 3, { heap := nodeChain, trail := ⟨[4]⟩ }⟩] ∧
          c.operation = .fast ∧ c.state.trail = ⟨[3, 4]⟩) ∧
      ([.safeIn (.ref 3), .push (.ref 1), .fast (.ref 3), .pop, .push (.ref 0)].foldl
        (Step.run (.ofList [mixedPlan])) { heap := nodeChain, trail := ⟨[4]⟩ }).trail =
          ⟨[0, 4]⟩ := by
  obtain ⟨hmoment, -, hends, hsteps⟩ :=
    trail_restored (.ofList [mixedPlan]) { heap := nodeChain, trail := ⟨[4]⟩ }
  obtain ⟨c, hc, hop⟩ := exists_inProgress_nodeChain
  exact ⟨by decide +kernel, hends _, ⟨c, hc, hop, hmoment _ _ _ hc⟩, hsteps _⟩

end DeepCopy
