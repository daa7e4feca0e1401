import ScriptedStage.Stage.Reduce

/-!
A store holds a stage and tells listeners about every change. Listeners are told in the order in
which they were added, those that were there when the change was made; a listener that is told for
the first time may itself use the store before the next one is told. The work still to be done is
kept as a list of tasks.

Each operation is carried out once and each listener has its own operations to do
once, so the work ends.
-/
namespace ScriptedStage

/-- An operation on a store. -/
inductive StoreOp where
  /-- Reads an intent and applies it. -/
  | raw (action payload : Value)
  /-- Applies an intent that is at hand. -/
  | intent (i : Intent)
  /-- Dispatches something that is none of the known intents. -/
  | unknown
  /-- Adds a listener under a name, with what it does when first told. -/
  | subscribe (name : String) (reaction : List StoreOp)
  /-- Takes away the listener that was added last under a name. -/
  | unsubscribe (name : String)
  deriving Inhabited

mutual
/-- How many operations an operation stands for. -/
def StoreOp.cost : StoreOp → Nat
  | .subscribe _ reaction => StoreOp.costs reaction + 1
  | .raw _ _ | .intent _ | .unknown | .unsubscribe _ => 1
/-- How many operations a list of operations stands for. -/
def StoreOp.costs : List StoreOp → Nat
  | [] => 0
  | o :: rest => o.cost + StoreOp.costs rest
end

/-- What a listener was told. -/
structure StoreCall where
  listener : String
  action : String
  before : Stage
  after : Stage

/-- A listener: its name and what it does when first told. -/
structure Listener where
  name : String
  reaction : List StoreOp

/-- A stage with its listeners and what was printed. -/
structure Store where
  rules : StageRules := {}
  stage : Stage := {}
  journal : Journal := {}
  /-- Every listener ever added. -/
  listeners : List Listener := []
  /-- The positions of the listeners that are told, in order. -/
  active : List Nat := []
  /-- The listener that was added last under each name. -/
  names : Assoc Nat := []
  /-- What listeners were told, newest first. -/
  calls : List StoreCall := []

/-- Work to be done on a store. -/
inductive StoreTask where
  | operation (o : StoreOp)
  | tell (listener : Nat) (action : String) (before after : Stage)

namespace StoreTask

/-- How many operations are among tasks. -/
def costs : List StoreTask → Nat
  | [] => 0
  | .operation o :: rest => o.cost + costs rest
  | .tell .. :: rest => costs rest

/-- How many listeners are still to be told. -/
def tellCount : List StoreTask → Nat
  | [] => 0
  | .operation _ :: rest => tellCount rest
  | .tell .. :: rest => tellCount rest + 1

theorem costs_append (a b : List StoreTask) : costs (a ++ b) = costs a + costs b := by
  induction a with
  | nil => simp [costs]
  | cons t rest ih => cases t <;> simp [costs, ih] <;> omega

theorem tellCount_append (a b : List StoreTask) : tellCount (a ++ b) = tellCount a + tellCount b := by
  induction a with
  | nil => simp [tellCount]
  | cons t rest ih => cases t <;> simp [tellCount, ih] <;> omega

theorem costs_operations (ops : List StoreOp) : costs (ops.map .operation) = StoreOp.costs ops := by
  induction ops with
  | nil => simp [costs, StoreOp.costs]
  | cons o rest ih => simp [costs, StoreOp.costs, ih]

theorem tellCount_operations (ops : List StoreOp) : tellCount (ops.map .operation) = 0 := by
  induction ops with
  | nil => simp [tellCount]
  | cons o rest ih => simp [tellCount, ih]

theorem costs_tells (listeners : List Nat) (action : String) (before after : Stage) :
    costs (listeners.map (.tell · action before after)) = 0 := by
  induction listeners with
  | nil => simp [costs]
  | cons h rest ih => simp [costs, ih]

end StoreTask

namespace Store

/-- How many operations the listeners have not done yet. -/
def reactionCosts : List Listener → Nat
  | [] => 0
  | l :: rest => StoreOp.costs l.reaction + reactionCosts rest

theorem reactionCosts_append (a b : List Listener) :
    reactionCosts (a ++ b) = reactionCosts a + reactionCosts b := by
  induction a with
  | nil => simp [reactionCosts]
  | cons l rest ih => simp [reactionCosts, ih]; omega

theorem reactionCosts_set_nil {ls : List Listener} {i : Nat} {l : Listener} (h : ls[i]? = some l) :
    reactionCosts (ls.set i ⟨l.name, []⟩) + StoreOp.costs l.reaction = reactionCosts ls := by
  induction ls generalizing i with
  | nil => simp at h
  | cons m rest ih =>
    cases i with
    | zero =>
      simp only [List.getElem?_cons_zero, Option.some.injEq] at h
      subst h
      simp [reactionCosts, StoreOp.costs]; omega
    | succ j =>
      simp only [List.getElem?_cons_succ] at h
      have := ih h
      simp [reactionCosts]; omega

/-- Whether an operation changed the stage, and whom it is to be told. -/
structure Effect where
  changed : Bool := false
  tasks : List StoreTask := []

/-- Takes up what a dispatch came to; a change becomes listeners to be told. -/
def takeUp (s : Store) (action : String) (reported : List Note × Except Fault (Option Stage)) :
    Store × Except Fault Effect :=
  match s.journal.settle reported with
  | (j, .error e) => ({ s with journal := j }, .error e)
  | (j, .ok none) => ({ s with journal := j }, .ok {})
  | (j, .ok (some new)) =>
    ({ s with journal := j, stage := new },
      .ok ⟨true, s.active.map (.tell · action s.stage new)⟩)

theorem takeUp_cost {s s' : Store} {action : String}
    {reported : List Note × Except Fault (Option Stage)} {e : Effect}
    (h : s.takeUp action reported = (s', .ok e)) :
    reactionCosts s'.listeners + StoreTask.costs e.tasks = reactionCosts s.listeners := by
  simp only [takeUp] at h
  split at h
  · simp at h
  · simp only [Prod.mk.injEq, Except.ok.injEq] at h
    obtain ⟨rfl, rfl⟩ := h
    simp [StoreTask.costs]
  · simp only [Prod.mk.injEq, Except.ok.injEq] at h
    obtain ⟨rfl, rfl⟩ := h
    simp [StoreTask.costs_tells]

/-- The name under which a raw action is told. -/
def actionName : Value → String
  | .str name => name
  | _ => ""

/-- Carries out one operation. -/
def perform (s : Store) : StoreOp → Store × Except Fault Effect
  | .raw action payload =>
    s.takeUp (actionName action) (s.stage.dispatchRaw s.rules action payload)
  | .intent i =>
    let (notes, new) := s.stage.dispatch s.rules i
    s.takeUp i.action (notes, .ok new)
  | .unknown =>
    let note := Stage.storeNote .error "No reducer for intent Intent"
    match s.journal.settle ([note], .ok ()) with
    | (j, outcome) => ({ s with journal := j }, outcome.map fun _ => {})
  | .subscribe name reaction =>
    let i := s.listeners.length
    ({ s with
        listeners := s.listeners ++ [⟨name, reaction⟩], active := s.active ++ [i]
        names := s.names.set name i }, .ok {})
  | .unsubscribe name =>
    match s.names.get? name with
    | none => (s, .error (.missingKey name))
    | some i => ({ s with active := s.active.erase i }, .ok {})

theorem perform_cost {s s' : Store} {o : StoreOp} {e : Effect} (h : s.perform o = (s', .ok e)) :
    reactionCosts s'.listeners + StoreTask.costs e.tasks < reactionCosts s.listeners + o.cost := by
  cases o with
  | raw action payload =>
    have := takeUp_cost h
    simp only [StoreOp.cost]; omega
  | intent i =>
    have := takeUp_cost h
    simp only [StoreOp.cost]; omega
  | unknown =>
    simp only [perform] at h
    generalize s.journal.settle _ = r at h
    obtain ⟨j, outcome⟩ := r
    cases outcome with
    | error e => simp [Except.map] at h
    | ok u =>
      simp only [Except.map, Prod.mk.injEq, Except.ok.injEq] at h
      obtain ⟨rfl, rfl⟩ := h
      simp [StoreTask.costs, StoreOp.cost]
  | subscribe name reaction =>
    simp only [perform, Prod.mk.injEq, Except.ok.injEq] at h
    obtain ⟨rfl, rfl⟩ := h
    simp [reactionCosts_append, reactionCosts, StoreTask.costs, StoreOp.cost]
  | unsubscribe name =>
    simp only [perform] at h
    split at h
    · simp at h
    · simp only [Prod.mk.injEq, Except.ok.injEq] at h
      obtain ⟨rfl, rfl⟩ := h
      simp [StoreTask.costs, StoreOp.cost]

/-- Tells a listener. The operations of its first time come before everything else. -/
def tell (s : Store) (listener : Nat) (action : String) (before after : Stage) : Store × List StoreTask :=
  match s.listeners[listener]? with
  | none => (s, [])
  | some l =>
    ({ s with
        calls := ⟨l.name, action, before, after⟩ :: s.calls
        listeners := s.listeners.set listener ⟨l.name, []⟩ }, l.reaction.map .operation)

theorem tell_cost (s : Store) (i : Nat) (action : String) (before after : Stage) :
    reactionCosts (s.tell i action before after).1.listeners +
      StoreTask.costs (s.tell i action before after).2 = reactionCosts s.listeners := by
  cases h : s.listeners[i]? with
  | none => simp [tell, h, StoreTask.costs]
  | some l => simp [tell, h, StoreTask.costs_operations, reactionCosts_set_nil h]

theorem tell_tellCount (s : Store) (i : Nat) (action : String) (before after : Stage) :
    StoreTask.tellCount (s.tell i action before after).2 = 0 := by
  cases h : s.listeners[i]? with
  | none => simp [tell, h, StoreTask.tellCount]
  | some l => simp [tell, h, StoreTask.tellCount_operations]

/-- Does all tasks. A fault ends the work and keeps what was done. -/
def run (s : Store) (tasks : List StoreTask) : Store × Except Fault Unit :=
  match tasks with
  | [] => (s, .ok ())
  | .operation o :: rest =>
    match _h : s.perform o with
    | (s', .error fault) => (s', .error fault)
    | (s', .ok e) => run s' (e.tasks ++ rest)
  | .tell i action before after :: rest =>
    run (s.tell i action before after).1 ((s.tell i action before after).2 ++ rest)
termination_by (reactionCosts s.listeners + StoreTask.costs tasks, StoreTask.tellCount tasks)
decreasing_by
  · apply Prod.Lex.left
    have := perform_cost _h
    simp only [StoreTask.costs_append, StoreTask.costs]
    omega
  · have hc := tell_cost s i action before after
    have hn := tell_tellCount s i action before after
    simp only [StoreTask.costs_append, StoreTask.tellCount_append, StoreTask.costs, StoreTask.tellCount, hn]
    rw [show reactionCosts (s.tell i action before after).1.listeners +
        (StoreTask.costs (s.tell i action before after).2 + StoreTask.costs rest) =
        reactionCosts s.listeners + StoreTask.costs rest by omega]
    apply Prod.Lex.right
    omega

/-- Carries out one operation and all that follows from it; says whether the operation
itself changed the stage. -/
def carryOut (s : Store) (o : StoreOp) : Store × Except Fault Bool :=
  match s.perform o with
  | (s, .error fault) => (s, .error fault)
  | (s, .ok e) =>
    match s.run e.tasks with
    | (s, .error fault) => (s, .error fault)
    | (s, .ok _) => (s, .ok e.changed)

end Store

end ScriptedStage
