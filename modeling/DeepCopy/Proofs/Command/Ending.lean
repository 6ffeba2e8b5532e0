import DeepCopy.Proofs.Command.Check

/-!
# Sessions that end well

A session that ends well has gone through its parts in order, each of which ended well where the
next one began. A part that only asks what can be read leaves the files as they are.

## Main definitions

* `ReadOnly`: a computation leaves the files as they are
* `Command.Session.ComesTo`: a session ends well, with a result and leaving things in a certain way

## Main results

* `Config.readOnly_discover`, `Config.readOnly_units`: configurations and units are found by reading
* `Command.Session.ComesTo.exists_of_bind`: the parts of a session that ends well
* `Command.exists_of_status`: the status of a session that ended well
-/

namespace DeepCopy

open FileTree (files)

/-! ## Reading -/

/-- A computation leaves the files as they are. -/
def ReadOnly {α : Type} (x : StateM FileTree α) : Prop :=
  ∀ tree, (StateT.run x tree).2 = tree

section ReadOnly

variable {α β : Type} {home : List String}

theorem ReadOnly.pure (a : α) : ReadOnly (Pure.pure a) := fun _ => rfl

theorem ReadOnly.bind {x : StateM FileTree α} {f : α → StateM FileTree β} (hx : ReadOnly x)
    (hf : ∀ a, ReadOnly (f a)) : ReadOnly (x >>= f) := fun tree =>
  (hf (StateT.run x tree).1 (StateT.run x tree).2).trans (hx tree)

theorem readOnly_get : ReadOnly get := fun _ => rfl

theorem readOnly_locate (path : String) : ReadOnly ((files home).locate path) :=
  readOnly_get.bind fun _ => .pure _

theorem readOnly_isPresent (path : String) : ReadOnly ((files home).isPresent path) :=
  readOnly_get.bind fun _ => .pure _

theorem readOnly_isFile (path : String) : ReadOnly ((files home).isFile path) :=
  readOnly_get.bind fun tree => by
    split <;> exact .pure _

theorem readOnly_readText (path : String) : ReadOnly ((files home).readText path) :=
  readOnly_get.bind fun tree => by
    split <;> exact .pure _

namespace Config

theorem readOnly_firstWith (places : List (List String)) :
    ReadOnly (firstWith (files home) places) := by
  induction places with
  | nil => exact .pure _
  | cons place places ih =>
    rw [firstWith]
    refine (readOnly_isFile _).bind fun found => ?_
    split
    · exact .pure _
    · exact ih

theorem readOnly_find (start : String) : ReadOnly (find (files home) start) :=
  (readOnly_locate start).bind fun r => by
    cases r with
    | ok place => exact (readOnly_firstWith _).bind fun _ => .pure _
    | error e => exact .pure _

theorem readOnly_load (path : String) : ReadOnly (load (files home) path) :=
  (readOnly_readText path).bind fun r => by
    cases r <;> exact .pure _

theorem readOnly_discover (start : String) : ReadOnly (discover (files home) start) :=
  (readOnly_find start).bind fun r => by
    rcases r with e | _ | path
    · exact .pure _
    · exact .pure _
    · exact (readOnly_load path).bind fun _ => .pure _

theorem readOnly_template (c : Config) (target : Target) :
    ReadOnly (c.template (files home) target) := by
  rw [template]
  split
  · refine (readOnly_isPresent _).bind fun found => ?_
    split
    · refine (readOnly_readText _).bind fun r => ?_
      cases r <;> exact .pure _
    · exact .pure _
  · exact .pure _

theorem readOnly_units (c : Config) (now : String) (target : Target) (ps : List Plan) :
    ReadOnly (c.units (files home) now target ps) := by
  rw [units]
  split
  · exact .pure _
  · refine (c.readOnly_template target).bind fun r => ?_
    cases r <;> exact .pure _

end Config

end ReadOnly

namespace Command

/-! ## Sessions that end well -/

/-- A session ends well, with a result and leaving what has been printed and the files in a certain
way. -/
def Session.ComesTo {α : Type} (s : Session (StateM FileTree) α) (before : Transcript × FileTree)
    (a : α) (after : Transcript × FileTree) : Prop :=
  StateT.run (s.play before.1) before.2 = pure ((.ok a, after.1), after.2)

section ComesTo

variable {α β : Type} {a : α} {b : β} {before after : Transcript × FileTree}

/-- A session ends well where its first part does, and what follows. -/
theorem Session.ComesTo.exists_of_bind {s : Session (StateM FileTree) α}
    {f : α → Session (StateM FileTree) β} (h : (s >>= f).ComesTo before b after) :
    ∃ a mid, s.ComesTo before a mid ∧ (f a).ComesTo mid b after := by
  rw [ComesTo, play_bind, StateT.run_bind] at h
  -- Had the first part failed, the whole would have failed with it.
  cases hs : StateT.run (s.play before.1) before.2 with
  | mk p tree =>
    rcases p with ⟨e | a, t⟩
    · rw [hs] at h
      cases h
    · rw [hs] at h
      exact ⟨a, (t, tree), hs, h⟩

/-- A session goes on after its first part. -/
theorem Session.ComesTo.bind_iff {s : Session (StateM FileTree) α}
    {f : α → Session (StateM FileTree) β} {mid : Transcript × FileTree}
    (hs : s.ComesTo before a mid) :
    (s >>= f).ComesTo before b after ↔ (f a).ComesTo mid b after := by
  rw [ComesTo, play_bind, StateT.run_bind, hs]
  exact Iff.rfl

theorem Session.ComesTo.bind {s : Session (StateM FileTree) α}
    {f : α → Session (StateM FileTree) β} {mid : Transcript × FileTree}
    (hs : s.ComesTo before a mid) (hf : (f a).ComesTo mid b after) :
    (s >>= f).ComesTo before b after :=
  hs.bind_iff.mpr hf

theorem comesTo_done {r : Except Failure α} (h : (done r).ComesTo before a after) :
    r = .ok a ∧ after = before := by
  obtain ⟨hr, htree⟩ := Prod.mk.inj h
  obtain ⟨hr, ht⟩ := Prod.mk.inj hr
  exact ⟨hr, Prod.ext ht.symm htree.symm⟩

/-- What is asked for is answered, and nothing is printed. -/
theorem comesTo_ask {r : StateM FileTree (Except Failure α)}
    (h : (ask r).ComesTo before a after) :
    StateT.run r before.2 = (.ok a, after.2) ∧ after.1 = before.1 := by
  obtain ⟨hr, htree⟩ := Prod.mk.inj h
  obtain ⟨hr, ht⟩ := Prod.mk.inj hr
  exact ⟨Prod.ext hr htree, ht.symm⟩

/-- What is only read is answered, and everything is left as it is. -/
theorem eq_of_comesTo_ask {r : StateM FileTree (Except Failure α)} (hr : ReadOnly r)
    (h : (ask r).ComesTo before a after) : after = before := by
  obtain ⟨hrun, hprinted⟩ := comesTo_ask h
  have htree : (StateT.run r before.2).2 = before.2 := hr before.2
  rw [hrun] at htree
  exact Prod.ext hprinted htree

/-- Asking what is only read leaves everything as it is. -/
theorem comesTo_ask_of_readOnly {r : StateM FileTree (Except Failure α)} (hr : ReadOnly r)
    {t : Transcript} {tree : FileTree}
    (h : (StateT.run ((ask r : Session _ α).play t) tree).1.1 = .ok a) :
    (ask r).ComesTo (t, tree) a (t, tree) :=
  Prod.ext (Prod.ext h rfl) (hr tree)

/-- An answer is that of the files, whatever its failures are called. -/
theorem comesTo_ask_mapError {ε : Type} {r : StateM FileTree (Except ε α)} {f : ε → Failure}
    (h : (ask do return (← r).mapError f).ComesTo before a after) :
    StateT.run r before.2 = (.ok a, after.2) := by
  obtain ⟨h, -⟩ := comesTo_ask h
  rw [StateT.run_bind] at h
  cases hr : StateT.run r before.2 with
  | mk answer tree =>
    rw [hr] at h
    obtain ⟨hanswer, rfl⟩ := Prod.mk.inj h
    cases answer with
    | error e => cases hanswer
    | ok b =>
      cases hanswer
      rfl

/-- What the files answer is what a session comes to. -/
theorem comesTo_ask_mapError_of_run {ε : Type} {r : StateM FileTree (Except ε α)}
    {f : ε → Failure} {tree : FileTree} (h : StateT.run r before.2 = (.ok a, tree)) :
    (ask do return (← r).mapError f).ComesTo before a (before.1, tree) := by
  rw [Session.ComesTo, Session.play_ask, bind_assoc, StateT.run_bind, h]
  rfl

theorem exists_comesTo_note (line : String) (before : Transcript × FileTree) :
    ∃ printed, (note line).ComesTo before () (printed, before.2) :=
  ⟨_, rfl⟩

theorem comesTo_note {line : String} (h : (note line).ComesTo before () after) :
    after.2 = before.2 :=
  (Prod.mk.inj h).2.symm

/-- A session whose status is zero ended well. -/
theorem exists_of_status {s : Session (StateM FileTree) Unit} {tree : FileTree}
    (h : (StateT.run s.outcome tree).1.status = 0) :
    ∃ t, s.ComesTo ({}, tree) () (t, (StateT.run s.outcome tree).2) := by
  rw [Session.outcome_eq, StateT.run_bind] at h ⊢
  cases hs : StateT.run (s.play {}) tree with
  | mk p after =>
    rcases p with ⟨e | u, t⟩
    · rw [hs] at h
      exact absurd h Nat.one_ne_zero
    · exact ⟨t, hs⟩

theorem status_of_comesTo {s : Session (StateM FileTree) Unit} {tree : FileTree}
    (h : s.ComesTo ({}, tree) () after) : (StateT.run s.outcome tree).1.status = 0 := by
  have hplay : StateT.run (s.play {}) tree = pure ((.ok (), after.1), after.2) := h
  rw [Session.outcome_eq, StateT.run_bind, hplay, pure_bind]
  rfl

end ComesTo

end Command

end DeepCopy
