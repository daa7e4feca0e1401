import Mathlib.Logic.Relation
import ScriptedStage.Frame.Program

/-!
Withdrawn requests for frames. A request can be withdrawn at any time: between frames, by a callback
of an earlier frame, and by a callback of the frame that is running. A frame takes all requests that
are waiting when it begins, so those of its callbacks that have not been called yet are not waiting
any more, and withdrawing one of them does nothing.

`Step` is one step of a program and the work that it still has to do: an operation is asked for
when nothing is left to do, a task is done, or a task fails and the rest of the work with it.
Callbacks are called when their tasks are done, so the configurations that steps lead to are all
the moments of all programs.

What is proved:
  1. `carryOut_steps`: what a program does for an operation is a sequence of such steps;
  2. `Steps.gone`: a request that neither waits nor is to be called is never called again;
  3. `withdrawn_runs_iff_taken`: a withdrawn request is called exactly if the frame that is running
     has taken it and comes to it;
  4. `neighbour_withdrawn_in_vain`: a callback that withdraws the next callback of its own frame.
-/
namespace ScriptedStage

namespace FrameProgram

variable {p p' : FrameProgram} {n : Nat} {t : FrameTask} {tasks new : List FrameTask}

/-- One step of a program with the work that it has to do. -/
inductive Step : FrameProgram × List FrameTask → FrameProgram × List FrameTask → Prop where
  /-- An operation is asked for once all work is done. -/
  | asked (p : FrameProgram) (o : FrameOp) : Step (p, []) (p, [.operation o])
  /-- A task is done; what comes of it is done before the rest. -/
  | performed {p p' : FrameProgram} {t : FrameTask} {new : List FrameTask} (rest : List FrameTask)
      (h : p.perform t = .ok (p', new)) : Step (p, t :: rest) (p', new ++ rest)
  /-- A task fails, and nothing of the rest is done. -/
  | failed {p : FrameProgram} {t : FrameTask} {fault : Fault} (rest : List FrameTask)
      (h : p.perform t = .error fault) : Step (p, t :: rest) (p, [])

/-- Any number of steps. -/
abbrev Steps : FrameProgram × List FrameTask → FrameProgram × List FrameTask → Prop :=
  Relation.ReflTransGen Step

theorem runTasks_steps (p : FrameProgram) (tasks : List FrameTask) :
    Steps (p, tasks) ((p.runTasks tasks).1, []) := by
  induction p, tasks using FrameProgram.runTasks.induct with
  | case1 p =>
    rw [runTasks]
  | case2 p t rest fault h =>
    rw [runTasks, h]
    exact .single (.failed rest h)
  | case3 p t rest p' new h ih =>
    rw [runTasks, h]
    exact .head (.performed rest h) ih

theorem carryOut_steps (p : FrameProgram) (o : FrameOp) : Steps (p, []) ((p.carryOut o).1, []) := by
  have hsame : (p.carryOut o).1 = (p.runTasks [.operation o]).1 := by
    unfold carryOut
    split
    · next h => rw [h]
    · next h => rw [h]
  rw [hsame]
  exact .head (.asked p o) (runTasks_steps p [.operation o])

/-! ## Requests that are gone -/

/-- A request that was made and does not wait any more. -/
structure Gone (n : Nat) (p : FrameProgram) : Prop where
  issued : n < p.host.nextHandle
  notWaiting : ∀ c, (n, c) ∉ p.host.pending

theorem Gone.not_mem_calling (h : Gone n p) (c : FrameCallback) : .call n c ∉ calling p.host.pending := by
  intro hmem
  simp only [calling, List.mem_map, FrameTask.call.injEq] at hmem
  obtain ⟨r, hr, rfl, rfl⟩ := hmem
  exact h.notWaiting _ hr

/-- No task brings back a request that is gone. -/
theorem Gone.perform (h : Gone n p) (hperform : p.perform t = .ok (p', new)) :
    Gone n p' ∧ ∀ c, .call n c ∉ new := by
  have hissued := h.issued
  have hbegin : Gone n p.beginFrame.1 ∧ ∀ c, .call n c ∉ p.beginFrame.2 := by
    refine ⟨⟨hissued, fun c => by simp [beginFrame, FrameHost.takeBatch]⟩, fun c => ?_⟩
    simpa [beginFrame] using h.not_mem_calling c
  cases t with
  | operation o =>
    cases o with
    | request name body =>
      cases hperform
      refine ⟨⟨Nat.lt_succ_of_lt hissued, fun c => ?_⟩, by simp⟩
      -- a new request has a handle of its own
      have hne : n ≠ p.host.nextHandle := by omega
      simp [FrameHost.request, h.notWaiting c, hne]
    | cancel handle =>
      cases hperform
      refine ⟨⟨hissued, fun c => ?_⟩, by simp⟩
      simp [FrameHost.cancel, h.notWaiting c]
    | step =>
      simp only [FrameProgram.perform, Except.ok.injEq] at hperform
      split at hperform
      · cases hperform
        exact ⟨⟨hissued, h.notWaiting⟩, by simp⟩
      · rw [hperform] at hbegin
        exact hbegin
    | run most =>
      cases hperform
      exact ⟨h, by simp⟩
    | fail => cases hperform
  | call handle c =>
    cases hperform
    exact ⟨⟨hissued, h.notWaiting⟩, by simp⟩
  | frameEnd =>
    cases hperform
    exact ⟨⟨hissued, h.notWaiting⟩, by simp⟩
  | frames most ran =>
    simp only [FrameProgram.perform, Except.ok.injEq] at hperform
    split at hperform
    · cases hperform
      refine ⟨hbegin.1, fun c => ?_⟩
      simpa using hbegin.2 c
    · cases hperform
      exact ⟨⟨hissued, h.notWaiting⟩, by simp⟩

/-- A request that neither waits nor is to be called is never called again. -/
theorem Steps.gone {x y : FrameProgram × List FrameTask} (hsteps : Steps x y) (h : Gone n x.1)
    (hnot : ∀ c, .call n c ∉ x.2) : Gone n y.1 ∧ ∀ c, .call n c ∉ y.2 := by
  induction hsteps with
  | refl => exact ⟨h, hnot⟩
  | tail _ hstep ih =>
    obtain ⟨hgone, htasks⟩ := ih
    cases hstep with
    | asked p o => exact ⟨hgone, by simp⟩
    | performed rest hperform =>
      obtain ⟨hgone', hnew⟩ := hgone.perform hperform
      refine ⟨hgone', fun c => ?_⟩
      have hc := htasks c
      simp only [List.mem_cons, not_or, List.mem_append] at hc ⊢
      exact ⟨hnew c, hc.2⟩
    | failed rest hperform => exact ⟨hgone, by simp⟩

/-! ## Requests that a frame has taken -/

/-- The first step of a program that has work to do is the first task. -/
theorem Steps.of_cons {rest : List FrameTask} {y : FrameProgram × List FrameTask}
    (hsteps : Steps (p, t :: rest) y) :
    y = (p, t :: rest) ∨ (∃ p' new, p.perform t = .ok (p', new) ∧ Steps (p', new ++ rest) y) ∨
      ((∃ fault, p.perform t = .error fault) ∧ Steps (p, []) y) := by
  rcases Relation.ReflTransGen.cases_head hsteps with heq | ⟨z, hstep, hlater⟩
  · exact .inl heq.symm
  · cases hstep with
    | performed _ hperform => exact .inr (.inl ⟨_, _, hperform, hlater⟩)
    | failed _ hperform => exact .inr (.inr ⟨⟨_, hperform⟩, hlater⟩)

/-- Work that does not fail leads to the work after it. -/
theorem Steps.of_run {before : List FrameTask} (hrun : (p.runTasks before).2 = .ok ())
    (later : List FrameTask) :
    Steps (p, before ++ later) ((p.runTasks before).1, later) := by
  induction p, before using FrameProgram.runTasks.induct with
  | case1 p =>
    rw [runTasks]
    exact .refl
  | case2 p t rest fault hfails =>
    rw [runTasks, hfails] at hrun
    cases hrun
  | case3 p t rest p' new hperform ih =>
    rw [runTasks, hperform] at hrun ⊢
    have hlater := ih hrun
    rw [List.append_assoc] at hlater
    exact .head (.performed (rest ++ later) hperform) hlater

/-- A request that does not wait any more is called only if its call is among the work that is left
and no work before it fails. -/
theorem Gone.called (h : Gone n p) {y : FrameProgram × List FrameTask} (hsteps : Steps (p, tasks) y)
    {c : FrameCallback} {later : List FrameTask} (hy : y.2 = .call n c :: later) :
    ∃ before c' later', tasks = before ++ .call n c' :: later' ∧ (p.runTasks before).2 = .ok () := by
  have hnever : ∀ q, Gone n q → ¬ Steps (q, []) y := by
    intro q hq hnone
    have hnot := (hnone.gone hq (by simp)).2 c
    simp [hy] at hnot
  have hnow : ∀ {q : FrameProgram} {tasks : List FrameTask}, y = (q, tasks) →
      ∃ before c' later', tasks = before ++ .call n c' :: later' ∧ (q.runTasks before).2 = .ok () := by
    rintro q tasks rfl
    exact ⟨[], c, later, hy, by rw [runTasks]⟩
  induction p, tasks using FrameProgram.runTasks.induct with
  | case1 p => exact absurd hsteps (hnever p h)
  | case2 p t rest fault hfails =>
    rcases hsteps.of_cons with heq | ⟨p', new, hperform, -⟩ | ⟨-, hnone⟩
    · exact hnow heq
    · rw [hfails] at hperform
      cases hperform
    · exact absurd hnone (hnever p h)
  | case3 p t rest p' new hperform ih =>
    obtain ⟨hgone, hnew⟩ := h.perform hperform
    rcases hsteps.of_cons with heq | ⟨p'', new', hperform', hlater⟩ | ⟨⟨fault, hfails⟩, -⟩
    · exact hnow heq
    · rw [hperform] at hperform'
      cases hperform'
      obtain ⟨before, c', later', hsplit, hrun⟩ := ih hgone hlater
      -- the call is none of the tasks that come of the first one
      rcases List.append_eq_append_iff.mp hsplit with ⟨more, rfl, hrest⟩ | ⟨more, hnew', hrest⟩
      · refine ⟨t :: more, c', later', by rw [hrest, List.cons_append], ?_⟩
        rw [runTasks, hperform]
        exact hrun
      · cases more with
        | nil =>
          refine ⟨[t], c', later', by simpa using hrest.symm, ?_⟩
          rw [runTasks, hperform]
          simpa [hnew'] using hrun
        | cons first more =>
          obtain ⟨rfl, -⟩ := List.cons_eq_cons.mp hrest
          exact absurd (by simp [hnew']) (hnew c')
    · rw [hperform] at hfails
      cases hfails

/-- A program whose request is withdrawn. -/
def withdrawing (p : FrameProgram) (n : Nat) : FrameProgram :=
  { p with host := p.host.cancel n, result := .nothing }

theorem perform_cancel (p : FrameProgram) (n : Nat) :
    p.perform (.operation (.cancel n)) = .ok (p.withdrawing n, []) := rfl

theorem withdrawing_gone (hissued : n < p.host.nextHandle) : Gone n (p.withdrawing n) := by
  refine ⟨hissued, fun c hmem => ?_⟩
  simp [withdrawing, FrameHost.cancel] at hmem

/-- **A withdrawn request is called exactly if a frame has taken it.** A request is withdrawn while
other work is still to be done: the callbacks of the frame that is running, if one is, and what
they have begun. If the call of the request is among that work, and what comes before it does not
fail, then the callback is called all the same. Otherwise it is never called, whatever the program
is asked for later. -/
theorem withdrawn_runs_iff_taken (p : FrameProgram) (hissued : n < p.host.nextHandle)
    (rest : List FrameTask) :
    (∃ q c later, Steps (p, .operation (.cancel n) :: rest) (q, .call n c :: later)) ↔
      ∃ before c later, rest = before ++ .call n c :: later ∧
        ((p.withdrawing n).runTasks before).2 = .ok () := by
  constructor
  · rintro ⟨q, c, later, hsteps⟩
    rcases hsteps.of_cons with heq | ⟨p', new, hperform, hlater⟩ | ⟨⟨fault, hfails⟩, -⟩
    · cases heq
    · cases hperform
      exact (withdrawing_gone hissued).called hlater rfl
    · cases hfails
  · rintro ⟨before, c, later, rfl, hrun⟩
    refine ⟨((p.withdrawing n).runTasks before).1, c, later, ?_⟩
    exact .head (.performed _ (perform_cancel p n)) (Steps.of_run hrun _)

/-- A program that has requested two callbacks, of which the first withdraws the second. -/
def twoNeighbours : FrameProgram :=
  { host := { pending := [(1, ⟨"first", [.cancel 2]⟩), (2, ⟨"second", []⟩)], nextHandle := 3 } }

/-- The frame that calls the first callback comes to the withdrawal with the second
callback still to be called, and calls it. If the second callback is withdrawn before that
frame, it is never called. -/
theorem withdrawn_runs_iff_taken_twoNeighbours :
    (∃ p rest, Steps (twoNeighbours, [.operation .step]) (p, .operation (.cancel (2 : Nat)) :: rest) ∧
        ∃ q c later, Steps (p, .operation (.cancel (2 : Nat)) :: rest) (q, .call 2 c :: later)) ∧
      ¬ ∃ q c later, Steps (twoNeighbours, [.operation (.cancel (2 : Nat))]) (q, .call 2 c :: later) := by
  refine ⟨?_, ?_⟩
  · let begun : FrameProgram := { host := { nextHandle := 3 }, calls := ["first"] }
    refine ⟨begun, [.call 2 ⟨"second", []⟩, .frameEnd], ?_, ?_⟩
    · have hframe : twoNeighbours.perform (.operation .step) = .ok ({ host := { nextHandle := 3 } },
          [.call 1 ⟨"first", [.cancel 2]⟩, .call 2 ⟨"second", []⟩, .frameEnd]) := rfl
      have hfirst : perform { host := { nextHandle := 3 } } (.call 1 ⟨"first", [.cancel 2]⟩) =
          .ok (begun, [.operation (.cancel (2 : Nat))]) := rfl
      exact .head (.performed [] hframe) (.single (.performed [.call 2 ⟨"second", []⟩, .frameEnd] hfirst))
    · exact (withdrawn_runs_iff_taken begun (by decide) _).mpr ⟨[], ⟨"second", []⟩, [.frameEnd],
        rfl, by rw [runTasks]⟩
  · rw [withdrawn_runs_iff_taken twoNeighbours (by decide)]
    rintro ⟨before, c, later, hnone, -⟩
    simp at hnone

/-- Of the two callbacks, the first withdraws the second in the frame that calls them both, before
the second has been called, and both are called. -/
theorem neighbour_withdrawn_in_vain :
    (({} : FrameProgram).runTasks
        [.operation (.request "first" [.cancel 2]), .operation (.request "second" []),
          .operation .step]).1.calls =
      ["second", "first"] := by
  simp [runTasks, perform, beginFrame, calling, FrameHost.request, FrameHost.takeBatch]

end FrameProgram

end ScriptedStage
