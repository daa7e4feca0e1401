import Mathlib.Logic.Relation
import ScriptedStage.Proofs.StageShape
import ScriptedStage.Stage.Store

/-!
Runs of a store. `Step` is one step of a store and the work it still has to do: an operation is
asked for when nothing is left to do, an operation is carried out, an operation fails and the rest
of the work with it, or a listener is told. Operations may be asked for in any number and any order,
and listeners may use the store while they are being told, so the configurations that steps lead to
are all that a store passes through.

What is proved:
  1. `carryOut_steps`: what the store does for an operation is a sequence of such steps;
  2. `wellFormed_along_runs`: from a well-formed stage, the stage is well formed in every
     configuration that steps lead to, and so after every list of operations.
-/
namespace ScriptedStage

/-- A raw request that changes the stage is one of the intents. -/
theorem Stage.dispatchRaw_changed {rules : StageRules} {s new : Stage} {action payload : Value}
    (h : (s.dispatchRaw rules action payload).2 = .ok (some new)) :
    ∃ i, (s.reduce rules i).1 = some new := by
  simp only [dispatchRaw] at h
  split at h
  · rename_i i _
    exact ⟨i, Except.ok.inj h⟩
  · simp at h
  · simp at h

namespace Store

/-- One step of a store with the work it has to do. -/
inductive Step : Store × List StoreTask → Store × List StoreTask → Prop where
  /-- An operation is asked for once all work is done. -/
  | asked (s : Store) (o : StoreOp) : Step (s, []) (s, [.operation o])
  /-- An operation is carried out; what follows from it comes before the rest. -/
  | performed {s s' : Store} {o : StoreOp} {e : Effect} (rest : List StoreTask)
      (h : s.perform o = (s', .ok e)) : Step (s, .operation o :: rest) (s', e.tasks ++ rest)
  /-- An operation fails, and nothing of the rest is done. -/
  | failed {s s' : Store} {o : StoreOp} {fault : Fault} (rest : List StoreTask)
      (h : s.perform o = (s', .error fault)) : Step (s, .operation o :: rest) (s', [])
  /-- A listener is told. -/
  | told (s : Store) (i : Nat) (action : String) (before after : Stage) (rest : List StoreTask) :
      Step (s, .tell i action before after :: rest)
        ((s.tell i action before after).1, (s.tell i action before after).2 ++ rest)

/-- Any number of steps. -/
abbrev Steps : Store × List StoreTask → Store × List StoreTask → Prop := Relation.ReflTransGen Step

/-! ## The store takes these steps -/

theorem run_steps (s : Store) (tasks : List StoreTask) : Steps (s, tasks) ((s.run tasks).1, []) := by
  induction s, tasks using Store.run.induct with
  | case1 s => simpa only [run] using Relation.ReflTransGen.refl
  | case2 s o rest s' fault h =>
    rw [run, h]
    exact .single (.failed rest h)
  | case3 s o rest s' e h ih =>
    rw [run, h]
    exact .head (.performed rest h) ih
  | case4 s i action before after rest ih =>
    rw [run]
    exact .head (.told s i action before after rest) ih

theorem carryOut_steps (s : Store) (o : StoreOp) : Steps (s, []) ((s.carryOut o).1, []) := by
  refine .head (.asked s o) ?_
  simp only [carryOut]
  cases h : s.perform o with
  | mk s' outcome =>
    cases outcome with
    | error fault => exact .single (.failed [] h)
    | ok e =>
      have hrun := run_steps s' e.tasks
      have hfirst : Step (s, [.operation o]) (s', e.tasks) := by simpa using Step.performed [] h
      dsimp only
      split
      · rename_i t fault ht
        rw [ht] at hrun
        exact .head hfirst hrun
      · rename_i t u ht
        rw [ht] at hrun
        exact .head hfirst hrun

/-! ## Every step keeps the stage well formed -/

theorem takeUp_stage (s : Store) (action : String) (reported : List Note × Except Fault (Option Stage)) :
    (s.takeUp action reported).1.stage = s.stage ∨
      reported.2 = .ok (some (s.takeUp action reported).1.stage) := by
  simp only [takeUp]
  split
  · exact .inl rfl
  · exact .inl rfl
  · rename_i j new h
    exact .inr (Journal.settle_ok h)

/-- An operation leaves the stage as it is or changes it by an intent. -/
theorem perform_stage (s : Store) (o : StoreOp) :
    (s.perform o).1.stage = s.stage ∨ ∃ i, (s.stage.reduce s.rules i).1 = some (s.perform o).1.stage := by
  cases o with
  | raw action payload =>
    refine (takeUp_stage s _ _).imp_right fun h => ?_
    exact Stage.dispatchRaw_changed h
  | intent i =>
    refine (takeUp_stage s _ _).imp_right fun h => ⟨i, ?_⟩
    exact Except.ok.inj h
  | unknown => exact .inl rfl
  | subscribe name reaction => exact .inl rfl
  | unsubscribe name =>
    refine .inl ?_
    simp only [perform]
    split <;> rfl

theorem tell_stage (s : Store) (i : Nat) (action : String) (before after : Stage) :
    (s.tell i action before after).1.stage = s.stage := by
  simp only [tell]
  split <;> rfl

theorem perform_wellFormed {s : Store} (h : s.stage.WellFormed) (o : StoreOp) :
    (s.perform o).1.stage.WellFormed := by
  rcases perform_stage s o with hs | ⟨i, hi⟩
  · rw [hs]; exact h
  · exact h.reduce hi

theorem Step.wellFormed {c c' : Store × List StoreTask} (hstep : Step c c') (h : c.1.stage.WellFormed) :
    c'.1.stage.WellFormed := by
  cases hstep with
  | asked s o => exact h
  | @performed _ _ o _ _ hp =>
    have := perform_wellFormed h o
    rwa [hp] at this
  | @failed _ _ o _ _ hp =>
    have := perform_wellFormed h o
    rwa [hp] at this
  | told s i action before after rest => rw [tell_stage]; exact h

theorem Steps.wellFormed {c c' : Store × List StoreTask} (hsteps : Steps c c') (h : c.1.stage.WellFormed) :
    c'.1.stage.WellFormed := by
  induction hsteps with
  | refl => exact h
  | tail _ hstep ih => exact hstep.wellFormed ih

/-- The store after operations, one after another; one that fails leaves the store as it
found it to the next. -/
def carryOutAll (s : Store) (ops : List StoreOp) : Store := ops.foldl (fun s o => (s.carryOut o).1) s

theorem carryOutAll_steps (s : Store) (ops : List StoreOp) : Steps (s, []) (s.carryOutAll ops, []) := by
  induction ops generalizing s with
  | nil => exact .refl
  | cons o ops ih => exact (carryOut_steps s o).trans (ih (s.carryOut o).1)

/-- **Every stage that a store passes through is well formed**, from a well-formed one on: in
the middle of an operation, while listeners use the store, after a failure, and after any
list of operations. -/
theorem wellFormed_along_runs (s : Store) (h : s.stage.WellFormed) :
    (∀ c, Steps (s, []) c → c.1.stage.WellFormed) ∧
      ∀ ops, Steps (s, []) (s.carryOutAll ops, []) ∧ (s.carryOutAll ops).stage.WellFormed := by
  have hall : ∀ c, Steps (s, []) c → c.1.stage.WellFormed := fun c hc => hc.wellFormed h
  exact ⟨hall, fun ops => ⟨carryOutAll_steps s ops, hall _ (carryOutAll_steps s ops)⟩⟩

/-- A container that had no room for children takes a repeat block with a move in it,
and the actor goes. -/
theorem wellFormed_along_repair :
    let flag : Block := ⟨"f", BlockType.flagClicked, [], none⟩
    let outer : Block := ⟨"r", BlockType.repeatTimes, [.int 2], none⟩
    let move : Block := ⟨"m", BlockType.moveSteps, [.int 10], none⟩
    let inner : Block := ⟨"q", BlockType.repeatTimes, [.int 3], some [move]⟩
    let s : Store :=
      { stage := { actors := [{ id := "cat-1", script := [flag, outer] }, { id := "dog-1" }]
                   selected := some "cat-1" } }
    s.stage.WellFormed ∧
      (s.carryOutAll [.intent (.addBlockTo "cat-1" "r" inner), .intent (.removeActor "cat-1"),
        .raw (.str "ADD_ACTOR") (.record [("kind", .str "dog")])]).stage.WellFormed :=
  ⟨by decide, ((wellFormed_along_runs _ (by decide)).2 _).2⟩

end Store

end ScriptedStage
