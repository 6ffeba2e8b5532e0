import DeepCopy.Command.Run
import DeepCopy.Files.Tree

/-!
# What a check says

A session is followed from its first command to its last: what it prints never makes it fail, so
the status of a check depends on the document alone. A check of a document that can be read ends
well exactly when no type of the document has a flaw.

## Main definitions

* `Session.play`: the result of a session, and what has been printed after it

## Main results

* `status_run_check`: a check ends well where there are no issues, and only there
-/

namespace DeepCopy.Command

open FileTree (files)

namespace Session

variable {m : Type → Type} [Monad m] {α β : Type}

/-- The result of a session, and what has been printed after it. -/
def play (s : Session m α) (t : Transcript) : m (Except Failure α × Transcript) :=
  StateT.run (ExceptT.run s) t

@[simp] theorem play_pure (a : α) (t : Transcript) :
    (pure a : Session m α).play t = pure (.ok a, t) := rfl

@[simp] theorem play_throw (e : Failure) (t : Transcript) :
    (throw e : Session m α).play t = pure (.error e, t) := rfl

@[simp] theorem play_done (r : Except Failure α) (t : Transcript) :
    (done r : Session m α).play t = pure (r, t) := rfl

@[simp] theorem play_ask (r : m (Except Failure α)) (t : Transcript) :
    (ask r : Session m α).play t = r >>= fun a => pure (a, t) := rfl

theorem play_bind (s : Session m α) (f : α → Session m β) (t : Transcript) :
    (s >>= f).play t = s.play t >>= fun p =>
      match p.1 with
      | .ok a => (f a).play p.2
      | .error e => pure (.error e, p.2) := by
  simp only [play, ExceptT.run_bind, StateT.run_bind]
  refine congrArg (s.play t >>= ·) (funext fun p => ?_)
  rcases p with ⟨a | e, t'⟩ <;> rfl

/-- What is left of a session is read off its result and what has been printed. -/
theorem outcome_eq (s : Session m Unit) :
    s.outcome = s.play {} >>= fun p =>
      match p.1 with
      | .ok () => pure { p.2 with status := 0 }
      | .error e =>
        pure { p.2 with err := p.2.err ++ "Error: " ++ e.message ++ "\n", status := 1 } := by
  refine congrArg (s.play {} >>= ·) (funext fun p => ?_)
  rcases p with ⟨_ | _, t⟩ <;> rfl

variable [LawfulMonad m]

@[simp] theorem play_print (line : String) (t : Transcript) :
    (print line : Session m Unit).play t =
      pure (.ok (), { t with out := t.out ++ line ++ "\n" }) := by
  have hprint : (print line : Session m Unit) =
      ExceptT.lift (modify fun t => { t with out := t.out ++ line ++ "\n" }) := rfl
  rw [hprint, play, ExceptT.run_lift, StateT.run_map, StateT.run_modify, map_pure]

/-- A session goes on after a part that did not fail. -/
theorem play_bind_of_ok {s : Session m α} {a : α} {t t' : Transcript}
    (h : s.play t = pure (.ok a, t')) (f : α → Session m β) :
    (s >>= f).play t = (f a).play t' := by
  rw [play_bind, h, pure_bind]

/-- Printing lines never fails. -/
theorem exists_play_forM_print (lines : List String) (t : Transcript) :
    ∃ t', (lines.forM print : Session m Unit).play t = pure (.ok (), t') := by
  induction lines generalizing t with
  | nil => exact ⟨t, rfl⟩
  | cons line lines ih =>
    obtain ⟨t', ht'⟩ := ih { t with out := t.out ++ line ++ "\n" }
    refine ⟨t', ?_⟩
    exact (play_bind_of_ok (play_print line t) fun _ => lines.forM print).trans ht'

end Session

/-! ## Checking -/

/-- The document that is read is that of the file which the first argument leads to. -/
theorem run_play_input {home : List String} {tree : FileTree} {path text : String}
    (hfile : tree.find home path = .ok (.file text)) (hpath : path.toList.head? ≠ some '-')
    (usage : String) (args : List String) (t : Transcript) :
    StateT.run ((input (files home) usage (path :: args)).play t) tree =
      pure ((.ok text, t), tree) := by
  have htext : StateT.run ((files home).readText path) tree = pure (.ok text, tree) := by
    simp only [files, StateT.run_bind, StateT.run_get, pure_bind, hfile]
    rfl
  rw [input, if_neg hpath, Session.play_ask, bind_assoc, StateT.run_bind, htext, pure_bind]
  rfl

/-- What is left of a check whose document can be read. -/
theorem exists_play_check {home : List String} {tree : FileTree} {path text : String}
    {ds : List Descriptor} (hfile : tree.find home path = .ok (.file text))
    (hpath : path.toList.head? ≠ some '-') (hread : Descriptor.readAll text = .ok ds)
    (args : List String) (t : Transcript) :
    ∃ r t', StateT.run ((check (files home) (path :: args)).play t) tree = pure ((r, t'), tree) ∧
      (r = .ok () ↔ issues ds = []) := by
  obtain ⟨t', ht'⟩ := Session.exists_play_forM_print (m := StateM FileTree)
    (report ((path :: args).contains "--json") ds) t
  have hdone : (done ((Descriptor.readAll text).mapError .descriptors) :
      Session (StateM FileTree) _).play t = pure (.ok ds, t) := by
    rw [hread]
    rfl
  rw [check, Session.play_bind, StateT.run_bind, run_play_input hfile hpath, pure_bind]
  dsimp only
  rw [Session.play_bind_of_ok hdone, Session.play_bind_of_ok ht']
  cases hissues : issues ds with
  | nil => exact ⟨.ok (), t', rfl, by simp⟩
  | cons i is => exact ⟨_, t', rfl, by simp⟩

/-- **A check ends well where there are no issues, and only there.** -/
theorem status_run_check {home : List String} {tree : FileTree} {path text : String}
    {ds : List Descriptor} (hfile : tree.find home path = .ok (.file text))
    (hpath : path.toList.head? ≠ some '-') (hread : Descriptor.readAll text = .ok ds)
    (now : String) (args : List String) :
    (StateT.run (run (files home) now ("check" :: path :: args)) tree).1.status = 0 ↔
      issues ds = [] := by
  have hrun : run (files home) now ("check" :: path :: args) =
      (check (files home) (path :: args)).outcome := rfl
  obtain ⟨r, t, hplay, hr⟩ := exists_play_check hfile hpath hread args {}
  rw [hrun, Session.outcome_eq, StateT.run_bind, hplay, pure_bind, ← hr]
  cases r with
  | ok u => exact ⟨fun _ => rfl, fun _ => rfl⟩
  | error e => exact ⟨fun h => absurd h Nat.one_ne_zero, fun h => by cases h⟩

end DeepCopy.Command
