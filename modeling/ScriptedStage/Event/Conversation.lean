import ScriptedStage.Event.Bus

/-!
A conversation on a bus: operations one after another, where a handler that is called for the first
time carries out operations of its own before the next handler is called. The work still to be done
is kept as a list of tasks, so that every step looks at one operation or one call.

Each operation is carried out once and each handler has its own operations to do once, so a
conversation ends: every step either uses up an operation or, keeping all operations, a call or
the end of a publication.
-/
namespace ScriptedStage

/-- An operation on a bus. -/
inductive BusOp where
  /-- Subscribes the handler of a name; what it does when first called is settled when
  the name is new. -/
  | subscribe (name : String) (kind : EventKind) (reaction : List BusOp)
  /-- Takes back the subscription that was made at a position. -/
  | unsubscribe (position : Nat)
  | publish (e : Checked Event)
  | clear
  | fail
  deriving Inhabited

mutual
/-- How many operations an operation stands for. -/
def BusOp.cost : BusOp → Nat
  | .subscribe _ _ reaction => BusOp.costs reaction + 1
  | .unsubscribe _ | .publish _ | .clear | .fail => 1
/-- How many operations a list of operations stands for. -/
def BusOp.costs : List BusOp → Nat
  | [] => 0
  | o :: rest => o.cost + BusOp.costs rest
end

/-- The bus, what the handlers still have to do, and what has happened. -/
structure Conversation where
  bus : EventBus String := {}
  /-- What each handler does at its first call; nothing once it was called. -/
  reactions : Assoc (List BusOp) := []
  /-- The subscriptions in the order in which they were made. -/
  subscriptions : List (EventKind × String) := []
  /-- The calls, newest first. -/
  calls : List (String × Event) := []
  /-- The records, newest first. -/
  records : List Record := []
  /-- The notes, newest first. -/
  notes : List Note := []
  /-- What the operation that ended last gave back: a publication the number of
  handlers it called. -/
  result : Option Nat := none
  deriving Inhabited

/-- Work to be done on a bus. -/
inductive BusTask where
  | operation (o : BusOp)
  | call (handler : String) (e : Event)
  /-- The end of a publication that has called so many handlers. -/
  | ended (called : Nat)
  deriving Inhabited

namespace BusTask

/-- How many operations a task stands for. -/
def cost : BusTask → Nat
  | .operation o => o.cost
  | .call _ _ | .ended _ => 0

/-- Counts a task if it is no operation. -/
def follows : BusTask → Nat
  | .operation _ => 0
  | .call _ _ | .ended _ => 1

/-- How many operations tasks stand for. -/
def costs : List BusTask → Nat
  | [] => 0
  | t :: rest => t.cost + costs rest

/-- How many of the tasks are no operations. -/
def followers : List BusTask → Nat
  | [] => 0
  | t :: rest => t.follows + followers rest

theorem costs_append (a b : List BusTask) : costs (a ++ b) = costs a + costs b := by
  induction a with
  | nil => simp [costs]
  | cons t rest ih => simp [costs, ih]; omega

theorem followers_append (a b : List BusTask) : followers (a ++ b) = followers a + followers b := by
  induction a with
  | nil => simp [followers]
  | cons t rest ih => simp [followers, ih]; omega

theorem costs_operations (ops : List BusOp) : costs (ops.map .operation) = BusOp.costs ops := by
  induction ops with
  | nil => rfl
  | cons o rest ih => simp [costs, cost, BusOp.costs, ih]

theorem followers_operations (ops : List BusOp) : followers (ops.map .operation) = 0 := by
  induction ops with
  | nil => rfl
  | cons o rest ih => simp [followers, follows, ih]

theorem costs_calls (handlers : List String) (e : Event) : costs (handlers.map (.call · e)) = 0 := by
  induction handlers with
  | nil => rfl
  | cons h rest ih => simp [costs, cost, ih]

end BusTask

namespace Conversation

/-- How many operations the handlers have not done yet. -/
def reactionCosts : Assoc (List BusOp) → Nat
  | [] => 0
  | (_, ops) :: rest => BusOp.costs ops + reactionCosts rest

theorem reactionCosts_set_of_none {rs : Assoc (List BusOp)} {name : String} (h : rs.get? name = none)
    (ops : List BusOp) : reactionCosts (rs.set name ops) = reactionCosts rs + BusOp.costs ops := by
  induction rs with
  | nil => simp [Assoc.set, reactionCosts]
  | cons r rest ih =>
    obtain ⟨n, os⟩ := r
    by_cases hn : n = name
    · simp [Assoc.get?, hn] at h
    · simp only [Assoc.get?, hn, if_false] at h
      simp [Assoc.set, hn, reactionCosts, ih h]; omega

theorem reactionCosts_set_nil {rs : Assoc (List BusOp)} {name : String} {ops : List BusOp}
    (h : rs.get? name = some ops) :
    reactionCosts (rs.set name []) + BusOp.costs ops = reactionCosts rs := by
  induction rs with
  | nil => simp at h
  | cons r rest ih =>
    obtain ⟨n, os⟩ := r
    by_cases hn : n = name
    · simp only [Assoc.get?, hn, if_true, Option.some.injEq] at h
      simp [Assoc.set, hn, reactionCosts, BusOp.costs, h]; omega
    · simp only [Assoc.get?, hn, if_false] at h
      have := ih h
      simp [Assoc.set, hn, reactionCosts]; omega

/-- Carries out one operation; a published event becomes calls to be made, and the end
of the publication. -/
def perform (c : Conversation) : BusOp → Except Fault (Conversation × List BusTask)
  | .subscribe name kind reaction =>
    .ok ({ c with
      bus := c.bus.subscribe kind name
      subscriptions := c.subscriptions ++ [(kind, name)]
      reactions := match c.reactions.get? name with
        | some _ => c.reactions
        | none => c.reactions.set name reaction
      result := none }, [])
  | .unsubscribe position =>
    match c.subscriptions[position]? with
    | none => .error .outOfRange
    | some (kind, name) => .ok ({ c with bus := c.bus.unsubscribe kind name, result := none }, [])
  | .publish (.error issues) => .error (.invalid issues)
  | .publish (.ok e) =>
    let (bus, handlers) := c.bus.publish e
    .ok ({ c with
      bus := bus
      records := e.record?.toList ++ c.records
      notes := EventBus.publishNotes e handlers ++ c.notes },
      handlers.map (.call · e) ++ [.ended handlers.length])
  | .clear => .ok ({ c with bus := c.bus.clearHistory, result := none }, [])
  | .fail => .error .aborted

theorem perform_cost {c c' : Conversation} {o : BusOp} {tasks : List BusTask}
    (h : c.perform o = .ok (c', tasks)) :
    reactionCosts c'.reactions + BusTask.costs tasks < reactionCosts c.reactions + o.cost := by
  cases o with
  | subscribe name kind reaction =>
    simp only [perform, Except.ok.injEq, Prod.mk.injEq] at h
    obtain ⟨rfl, rfl⟩ := h
    cases hr : c.reactions.get? name with
    | none => simp [reactionCosts_set_of_none hr, BusTask.costs, BusOp.cost]
    | some _ => simp [BusTask.costs, BusOp.cost]
  | unsubscribe position =>
    cases hp : c.subscriptions[position]? with
    | none => simp [perform, hp] at h
    | some s =>
      simp only [perform, hp, Except.ok.injEq, Prod.mk.injEq] at h
      obtain ⟨rfl, rfl⟩ := h
      simp [BusTask.costs, BusOp.cost]
  | publish e =>
    cases e with
    | error issues => simp [perform] at h
    | ok e =>
      simp only [perform, EventBus.publish, Except.ok.injEq, Prod.mk.injEq] at h
      obtain ⟨rfl, rfl⟩ := h
      rw [BusTask.costs_append, BusTask.costs_calls]
      simp [BusTask.costs, BusTask.cost, BusOp.cost]
  | clear =>
    simp only [perform, Except.ok.injEq, Prod.mk.injEq] at h
    obtain ⟨rfl, rfl⟩ := h
    simp [BusTask.costs, BusOp.cost]
  | fail => simp [perform] at h

/-- Calls a handler. The operations of its first call come before everything else. -/
def answer (c : Conversation) (handler : String) (e : Event) : Conversation × List BusTask :=
  let c := { c with calls := (handler, e) :: c.calls }
  match c.reactions.get? handler with
  | none => (c, [])
  | some ops => ({ c with reactions := c.reactions.set handler [] }, ops.map .operation)

theorem answer_cost (c : Conversation) (handler : String) (e : Event) :
    reactionCosts (c.answer handler e).1.reactions + BusTask.costs (c.answer handler e).2 =
      reactionCosts c.reactions := by
  cases h : c.reactions.get? handler with
  | none => simp [answer, h, BusTask.costs]
  | some ops => simp [answer, h, BusTask.costs_operations, reactionCosts_set_nil h]

theorem answer_followers (c : Conversation) (handler : String) (e : Event) :
    BusTask.followers (c.answer handler e).2 = 0 := by
  cases h : c.reactions.get? handler with
  | none => simp [answer, h, BusTask.followers]
  | some ops => simp [answer, h, BusTask.followers_operations]

/-- Does one task, and gives the tasks that come of it. -/
def work (c : Conversation) : BusTask → Except Fault (Conversation × List BusTask)
  | .operation o => c.perform o
  | .call handler e => .ok (c.answer handler e)
  | .ended called => .ok ({ c with result := some called }, [])

/-- A task leaves fewer operations, or as many and fewer of the tasks that are none. -/
theorem work_less {c c' : Conversation} {t : BusTask} {new : List BusTask} (h : c.work t = .ok (c', new)) :
    reactionCosts c'.reactions + BusTask.costs new < reactionCosts c.reactions + t.cost ∨
      reactionCosts c'.reactions + BusTask.costs new = reactionCosts c.reactions + t.cost ∧
        BusTask.followers new < t.follows := by
  cases t with
  | operation o => exact .inl (perform_cost h)
  | call handler e =>
    simp only [work, Except.ok.injEq] at h
    have hcost := answer_cost c handler e
    have hfollowers := answer_followers c handler e
    rw [h] at hcost hfollowers
    dsimp only at hcost hfollowers
    right
    simp only [BusTask.cost, BusTask.follows]
    omega
  | ended called =>
    simp only [work, Except.ok.injEq, Prod.mk.injEq] at h
    obtain ⟨rfl, rfl⟩ := h
    exact .inr ⟨rfl, Nat.one_pos⟩

/-- Does all tasks. A fault ends the work and keeps what was done. -/
def run (c : Conversation) (tasks : List BusTask) : Conversation × Except Fault Unit :=
  match tasks with
  | [] => (c, .ok ())
  | t :: rest =>
    match _h : c.work t with
    | .error fault => (c, .error fault)
    | .ok (c', new) => run c' (new ++ rest)
termination_by (reactionCosts c.reactions + BusTask.costs tasks, BusTask.followers tasks)
decreasing_by
  have hless := work_less _h
  have hcosts : BusTask.costs (t :: rest) = t.cost + BusTask.costs rest := rfl
  have hfollowers : BusTask.followers (t :: rest) = t.follows + BusTask.followers rest := rfl
  rw [BusTask.costs_append, BusTask.followers_append, hcosts, hfollowers, Prod.lex_def]
  dsimp only
  omega

/-- Carries out one operation and all that follows from it. -/
def carryOut (c : Conversation) (o : BusOp) : Conversation × Except Fault Unit := c.run [.operation o]

/-- How many handlers an event would go to now. -/
def audience (c : Conversation) (e : Event) : Nat := (c.bus.handlersOf e.kind).length

end Conversation

end ScriptedStage
