import ScriptedStage.Fault
import ScriptedStage.Frame.Host

/-!
Programs for a frame host: requests, withdrawals and frames, where a callback may itself carry out
such operations whenever it is called. The work still to be done is kept as a list of tasks.

A request is called at most once, so a program ends: every step makes the weight of
what is left smaller.
-/
namespace ScriptedStage

/-- An operation on a frame host. -/
inductive FrameOp where
  /-- Requests a callback that leaves its name and carries out operations. -/
  | request (name : String) (body : List FrameOp)
  | cancel (handle : Int)
  /-- Runs one frame. -/
  | step
  /-- Runs frames until nothing waits, at most the given number. -/
  | run (most : Int)
  | fail
  deriving Inhabited

mutual
/-- What an operation adds to the weight of a program. -/
def FrameOp.weight : FrameOp → Nat
  | .request _ body => FrameOp.weights body + 6
  | .cancel _ | .fail => 1
  | .step | .run _ => 2
/-- The weight of a list of operations. -/
def FrameOp.weights : List FrameOp → Nat
  | [] => 0
  | o :: rest => o.weight + FrameOp.weights rest
end

/-- A callback: its name and what it does. -/
structure FrameCallback where
  name : String
  body : List FrameOp

/-- What an operation gives back. -/
inductive FrameResult where
  | nothing
  | handle (n : Nat)
  /-- Whether any callback ran. -/
  | ran (b : Bool)
  /-- How many frames ran. -/
  | frames (n : Nat)
  deriving Repr, Inhabited

/-- Work to be done on a frame host. -/
inductive FrameTask where
  | operation (o : FrameOp)
  /-- Calls the callback that was requested under a handle. -/
  | call (handle : Nat) (c : FrameCallback)
  /-- The end of a frame. -/
  | frameEnd
  /-- Frames still to be run, after some that have run. -/
  | frames (most : Int) (ran : Nat)

namespace FrameTask

/-- The weight of a task. -/
def weight : FrameTask → Nat
  | .operation o => o.weight
  | .call _ c => FrameOp.weights c.body + 1
  | .frameEnd | .frames _ _ => 1

/-- The weight of tasks. -/
def weights : List FrameTask → Nat
  | [] => 0
  | t :: rest => t.weight + weights rest

theorem weights_append (a b : List FrameTask) : weights (a ++ b) = weights a + weights b := by
  induction a with
  | nil => simp [weights]
  | cons t rest ih => simp [weights, ih]; omega

theorem weights_operations (ops : List FrameOp) : weights (ops.map .operation) = FrameOp.weights ops := by
  induction ops with
  | nil => simp [weights, FrameOp.weights]
  | cons o rest ih => simp [weights, weight, FrameOp.weights, ih]

end FrameTask

/-- A frame host with the names of the callbacks that were called, newest first, and the result of
the operation that ended last. -/
structure FrameProgram where
  host : FrameHost FrameCallback := {}
  calls : List String := []
  result : FrameResult := .nothing

namespace FrameProgram

/-- The weight of waiting requests. -/
def pendingWeight : List (Nat × FrameCallback) → Nat
  | [] => 0
  | (_, c) :: rest => FrameOp.weights c.body + 5 + pendingWeight rest

theorem pendingWeight_append (a b : List (Nat × FrameCallback)) :
    pendingWeight (a ++ b) = pendingWeight a + pendingWeight b := by
  induction a with
  | nil => simp [pendingWeight]
  | cons p rest ih => simp [pendingWeight, ih]; omega

theorem pendingWeight_filter_le (p : Nat × FrameCallback → Bool) (l : List (Nat × FrameCallback)) :
    pendingWeight (l.filter p) ≤ pendingWeight l := by
  induction l with
  | nil => simp [pendingWeight]
  | cons e rest ih =>
    by_cases h : p e = true
    · simp [h, pendingWeight]; omega
    · simp [h, pendingWeight]; omega

/-- The calls of a frame that takes requests. -/
def calling (requests : List (Nat × FrameCallback)) : List FrameTask := requests.map fun r => .call r.1 r.2

theorem weights_calling (l : List (Nat × FrameCallback)) :
    FrameTask.weights (calling l) + 4 * l.length = pendingWeight l := by
  induction l with
  | nil => simp [calling, FrameTask.weights, pendingWeight]
  | cons e rest ih => simp [calling, FrameTask.weights, FrameTask.weight, pendingWeight] at ih ⊢; omega

/-- Begins a frame: the waiting callbacks are to be called, and then the frame ends. -/
def beginFrame (p : FrameProgram) : FrameProgram × List FrameTask :=
  ({ p with host := p.host.takeBatch.1 }, calling p.host.pending ++ [.frameEnd])

/-- Does one task, and gives the tasks that come of it. -/
def perform (p : FrameProgram) : FrameTask → Except Fault (FrameProgram × List FrameTask)
  | .operation (.request name body) =>
    .ok ({ p with host := (p.host.request ⟨name, body⟩).1, result := .handle p.host.nextHandle }, [])
  | .operation (.cancel handle) => .ok ({ p with host := p.host.cancel handle, result := .nothing }, [])
  | .operation .step =>
    .ok (if p.host.pending.isEmpty then ({ p with result := .ran false }, []) else p.beginFrame)
  | .operation (.run most) => .ok (p, [.frames most 0])
  | .operation .fail => .error .aborted
  | .call _ c => .ok ({ p with calls := c.name :: p.calls }, c.body.map .operation)
  | .frameEnd => .ok ({ p with host := p.host.finishFrame, result := .ran true }, [])
  | .frames most ran =>
    .ok (if (ran : Int) < most && !p.host.pending.isEmpty then
      (p.beginFrame.1, p.beginFrame.2 ++ [.frames most (ran + 1)])
    else ({ p with result := .frames ran }, []))

theorem beginFrame_weight (p : FrameProgram) (h : p.host.pending.isEmpty = false) :
    pendingWeight p.beginFrame.1.host.pending + FrameTask.weights p.beginFrame.2 + 3 ≤
      pendingWeight p.host.pending := by
  have hc := weights_calling p.host.pending
  have hl : 1 ≤ p.host.pending.length := by
    cases hp : p.host.pending with
    | nil => simp [hp] at h
    | cons _ _ => simp
  simp only [beginFrame, FrameHost.takeBatch, FrameTask.weights_append, FrameTask.weights,
    FrameTask.weight, pendingWeight]
  omega

theorem perform_weight {p p' : FrameProgram} {t : FrameTask} {tasks : List FrameTask}
    (h : p.perform t = .ok (p', tasks)) :
    pendingWeight p'.host.pending + FrameTask.weights tasks < pendingWeight p.host.pending + t.weight := by
  match t with
  | .operation (.request name body) =>
    simp only [perform, Except.ok.injEq, Prod.mk.injEq] at h
    obtain ⟨rfl, rfl⟩ := h
    simp [FrameHost.request, pendingWeight_append, pendingWeight, FrameTask.weights, FrameTask.weight,
      FrameOp.weight]
  | .operation (.cancel handle) =>
    simp only [perform, Except.ok.injEq, Prod.mk.injEq] at h
    obtain ⟨rfl, rfl⟩ := h
    have := pendingWeight_filter_le (fun e => decide ((e.1 : Int) ≠ handle)) p.host.pending
    simp only [FrameHost.cancel, FrameTask.weights, FrameTask.weight, FrameOp.weight]
    omega
  | .operation .step =>
    cases hp : p.host.pending.isEmpty with
    | true =>
      simp only [perform, hp, if_true, Except.ok.injEq, Prod.mk.injEq] at h
      obtain ⟨rfl, rfl⟩ := h
      simp [FrameTask.weights, FrameTask.weight, FrameOp.weight]
    | false =>
      have hb := beginFrame_weight p hp
      simp only [perform, hp, Bool.false_eq_true, if_false, Except.ok.injEq] at h
      rw [h] at hb
      dsimp only at hb
      simp only [FrameTask.weight, FrameOp.weight]
      omega
  | .operation (.run most) =>
    simp only [perform, Except.ok.injEq, Prod.mk.injEq] at h
    obtain ⟨rfl, rfl⟩ := h
    simp [FrameTask.weights, FrameTask.weight, FrameOp.weight]
  | .operation .fail => simp [perform] at h
  | .call handle c =>
    simp only [perform, Except.ok.injEq, Prod.mk.injEq] at h
    obtain ⟨rfl, rfl⟩ := h
    simp [FrameTask.weights_operations, FrameTask.weight]
  | .frameEnd =>
    simp only [perform, Except.ok.injEq, Prod.mk.injEq] at h
    obtain ⟨rfl, rfl⟩ := h
    simp [FrameHost.finishFrame, FrameTask.weights, FrameTask.weight]
  | .frames most ran =>
    cases hg : decide ((ran : Int) < most) && !p.host.pending.isEmpty with
    | true =>
      have hp : p.host.pending.isEmpty = false := by simp at hg; simp [hg.2]
      have hb := beginFrame_weight p hp
      simp only [perform, hg, if_true, Except.ok.injEq, Prod.mk.injEq] at h
      obtain ⟨rfl, rfl⟩ := h
      simp only [FrameTask.weights_append, FrameTask.weights, FrameTask.weight]
      omega
    | false =>
      simp only [perform, hg, Bool.false_eq_true, if_false, Except.ok.injEq, Prod.mk.injEq] at h
      obtain ⟨rfl, rfl⟩ := h
      simp [FrameTask.weights, FrameTask.weight]

/-- Does all tasks. A fault ends the work and keeps what was done. -/
def runTasks (p : FrameProgram) (tasks : List FrameTask) : FrameProgram × Except Fault Unit :=
  match tasks with
  | [] => (p, .ok ())
  | t :: rest =>
    match _h : p.perform t with
    | .error fault => (p, .error fault)
    | .ok (p', new) => runTasks p' (new ++ rest)
termination_by pendingWeight p.host.pending + FrameTask.weights tasks
decreasing_by
  have := perform_weight _h
  simp only [FrameTask.weights_append, FrameTask.weights]
  omega

/-- Carries out one operation and all that follows from it. -/
def carryOut (p : FrameProgram) (o : FrameOp) : FrameProgram × Except Fault FrameResult :=
  match p.runTasks [.operation o] with
  | (p, .ok _) => (p, .ok p.result)
  | (p, .error fault) => (p, .error fault)

end FrameProgram

end ScriptedStage
