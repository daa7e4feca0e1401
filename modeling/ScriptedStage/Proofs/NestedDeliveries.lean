import Mathlib.Data.List.Permutation
import ScriptedStage.Event.Conversation
import ScriptedStage.Proofs.CollisionEdges

/-!
Publications inside publications. A handler may use the bus while it is being called: it may
publish, subscribe, take subscriptions back and clear the history, and so may the handlers that this
calls. The bus does its work as a list of tasks, in which the calls of all publications that are
under way stand one after another. Here the list is read as a tree again: a step is a task with the
steps that came of it, and these are all done before the next step beside it.

So the calls of a publication are the steps right below it. They are settled when the publication
begins, and what the handlers do to the subscriptions meanwhile is of no account for them. The
history, on the other hand, is written when a publication begins, and not when it ends, so that an
event stands before those that are published while it is delivered.

What is proved, for conversations in which nothing fails:
  1. `run_unfolds`: a conversation is such a tree, and the steps of the tree in the order
     of time are its moments;
  2. `Unfolds.moments`: what every task keeps up holds at every moment;
  3. `Unfolds.publication`: what stands right below a publication, and what it gives back;
  4. `Unfolds.remembered`: what the history holds at every moment;
  5. `publications_reach_subscribers`: all of this for every conversation on a new bus.
-/
namespace ScriptedStage

/-- A step of a conversation: the moments before it and after all that came of it, the task, and the
steps that came of it. -/
structure BusStep where
  before : Conversation
  task : BusTask
  inner : List BusStep
  after : Conversation

/-- The call that a task is, if it is one. -/
def BusTask.call? : BusTask → Option (String × Event)
  | .call handler e => some (handler, e)
  | .operation _ | .ended _ => none

namespace BusStep

mutual
/-- A step and all that came of it, in the order of time. -/
def all : BusStep → List BusStep
  | ⟨before, task, inner, after⟩ => ⟨before, task, inner, after⟩ :: allOf inner
/-- Steps and all that came of them, in the order of time. -/
def allOf : List BusStep → List BusStep
  | [] => []
  | s :: rest => s.all ++ allOf rest
end

@[simp] theorem allOf_nil : allOf [] = [] := rfl

@[simp] theorem allOf_cons (s : BusStep) (rest : List BusStep) :
    allOf (s :: rest) = s :: (allOf s.inner ++ allOf rest) := by
  obtain ⟨before, task, inner, after⟩ := s
  rfl

end BusStep

namespace Conversation

variable {c c' : Conversation} {steps : List BusStep}

/-! ## The tree of a conversation -/

/-- Steps lead from one conversation to another, one after another. What comes of a step is
done before the next. -/
inductive Unfolds : Conversation → List BusStep → Conversation → Prop where
  | nil (c : Conversation) : Unfolds c [] c
  | cons {c c₁ c₂ c₃ : Conversation} {t : BusTask} {inner rest : List BusStep}
      (hwork : c.work t = .ok (c₁, inner.map (·.task))) (hinner : Unfolds c₁ inner c₂)
      (hrest : Unfolds c₂ rest c₃) : Unfolds c (⟨c, t, inner, c₂⟩ :: rest) c₃

theorem Unfolds.of_append {a b : List BusStep} (h : Unfolds c (a ++ b) c') :
    ∃ m, Unfolds c a m ∧ Unfolds m b c' := by
  induction a generalizing c with
  | nil => exact ⟨c, .nil c, h⟩
  | cons s a ih =>
    cases h with
    | cons hwork hinner hrest =>
      obtain ⟨m, ha, hb⟩ := ih hrest
      exact ⟨m, .cons hwork hinner ha, hb⟩

/-- A conversation in which nothing fails is a tree of steps. -/
theorem run_unfolds {tasks : List BusTask} (h : c.run tasks = (c', .ok ())) :
    ∃ steps : List BusStep, steps.map (·.task) = tasks ∧ Unfolds c steps c' := by
  induction c, tasks using Conversation.run.induct with
  | case1 c =>
    rw [run] at h
    cases h
    exact ⟨[], rfl, .nil _⟩
  | case2 c t rest fault hwork =>
    rw [run, hwork] at h
    cases h
  | case3 c t rest c₁ new hwork ih =>
    rw [run, hwork] at h
    obtain ⟨below, htasks, hunfolds⟩ := ih h
    -- the tasks that come of the first one are at the front, so the tree is cut there
    obtain ⟨inner, beside, rfl, rfl, rfl⟩ := List.map_eq_append_iff.mp htasks
    obtain ⟨m, hinner, hbeside⟩ := hunfolds.of_append
    exact ⟨⟨c, t, inner, m⟩ :: beside, rfl, .cons hwork hinner hbeside⟩

/-- Wherever a step stands in the tree, the steps below it are what its task brings
about at that moment. -/
theorem Unfolds.step (h : Unfolds c steps c') {s : BusStep} (hs : s ∈ BusStep.allOf steps) :
    ∃ c₁, s.before.work s.task = .ok (c₁, s.inner.map (·.task)) ∧ Unfolds c₁ s.inner s.after := by
  induction h with
  | nil c => simp at hs
  | cons hwork hinner hrest ihinner ihrest =>
    simp only [BusStep.allOf_cons, List.mem_cons, List.mem_append] at hs
    rcases hs with rfl | hs | hs
    · exact ⟨_, hwork, hinner⟩
    · exact ihinner hs
    · exact ihrest hs

/-- What every task keeps up holds at the end of steps and before each of them, wherever it stands
in the tree. What is noted of a task is noted in the order of time. -/
theorem Unfolds.moments {σ : Type} {holds : Conversation → σ → Prop} {note : σ → BusTask → σ}
    (hstep : ∀ {c c' t new a}, c.work t = .ok (c', new) → holds c a → holds c' (note a t))
    (h : Unfolds c steps c') {a : σ} (hc : holds c a) :
    holds c' (((BusStep.allOf steps).map (·.task)).foldl note a) ∧
      ∀ past s future, BusStep.allOf steps = past ++ s :: future →
        holds s.before ((past.map (·.task)).foldl note a) := by
  induction h generalizing a with
  | nil c => exact ⟨hc, fun past s future hsplit => by simp at hsplit⟩
  | @cons c c₁ c₂ c₃ t inner rest hwork hinner hrest ihinner ihrest =>
    obtain ⟨hend, hwithin⟩ := ihinner (hstep hwork hc)
    obtain ⟨hlast, hlater⟩ := ihrest hend
    rw [BusStep.allOf_cons]
    refine ⟨by simpa using hlast, fun past s future hsplit => ?_⟩
    -- the moment is that of the step itself, one below it, or one of the steps beside it
    rcases List.cons_eq_append_iff.mp hsplit with ⟨rfl, hfirst⟩ | ⟨past, rfl, htail⟩
    · cases hfirst
      exact hc
    · rcases List.append_eq_append_iff.mp htail with ⟨more, rfl, hrest'⟩ | ⟨more, hinner', hfuture⟩
      · simpa using hlater more s future hrest'
      · cases more with
        | nil =>
          have hhere := hlater [] s future (by simpa using hfuture.symm)
          simpa [hinner'] using hhere
        | cons s' more =>
          obtain ⟨rfl, rfl⟩ := List.cons_eq_cons.mp hfuture
          simpa using hwithin past s more hinner'

/-! ## What a publication does -/

/-- Steps that end with the end of a publication give back the number of its calls. -/
theorem Unfolds.result (h : Unfolds c steps c') {tasks : List BusTask} {called : Nat}
    (htasks : steps.map (·.task) = tasks ++ [.ended called]) : c'.result = some called := by
  obtain ⟨before, last, rfl, -, hlast⟩ := List.map_eq_append_iff.mp htasks
  obtain ⟨s, rfl, hended⟩ := List.map_eq_singleton_iff.mp hlast
  obtain ⟨m, -, hm⟩ := h.of_append
  cases hm with
  | @cons _ c₁ c₂ _ t inner _ hwork hinner hrest =>
    obtain rfl : t = .ended called := hended
    simp only [work, Except.ok.injEq, Prod.mk.injEq] at hwork
    obtain ⟨rfl, hnone⟩ := hwork
    obtain rfl := List.map_eq_nil_iff.mp hnone.symm
    cases hinner
    cases hrest
    rfl

/-- A publication calls the handlers that were subscribed to the kind of its event when it began,
and no others, and gives back their number. -/
theorem Unfolds.publication (h : Unfolds c steps c') {s : BusStep} (hs : s ∈ BusStep.allOf steps)
    {e : Event} (he : s.task = .operation (.publish (.ok e))) :
    s.inner.map (·.task) =
        (s.before.bus.handlersOf e.kind).map (.call · e) ++ [.ended (s.before.audience e)] ∧
      s.after.result = some (s.before.audience e) := by
  obtain ⟨c₁, hwork, hinner⟩ := h.step hs
  rw [he] at hwork
  simp only [work, perform, EventBus.publish, Except.ok.injEq, Prod.mk.injEq] at hwork
  obtain ⟨-, hcalls⟩ := hwork
  exact ⟨hcalls.symm, hinner.result hcalls.symm⟩

/-! ## What a task does -/

/-- What a task adds to the events whose publication has begun since the history was cleared. -/
def noted (log : List Event) : BusTask → List Event
  | .operation (.publish (.ok e)) => log ++ [e]
  | .operation .clear => []
  | _ => log

/-- The events whose publication has begun since the history was cleared, after tasks
in the order of time. -/
def begun (tasks : List BusTask) : List Event := tasks.foldl noted []

/-- What a task does to the calls and to the history. -/
structure Worked (c : Conversation) (t : BusTask) (c' : Conversation) : Prop where
  calls : c'.calls.reverse = c.calls.reverse ++ t.call?.toList
  keeping : c'.bus.recent = c.bus.recent
  history : ∀ log, c.bus.history = c.bus.recent log → c'.bus.history = c.bus.recent (noted log t)

theorem work_ok {t : BusTask} {new : List BusTask} (h : c.work t = .ok (c', new)) :
    Worked c t c' := by
  -- a task that publishes nothing and clears nothing leaves the history alone
  have hquiet : ∀ {o : BusOp}, c'.calls = c.calls → c'.bus.recent = c.bus.recent →
    c'.bus.history = c.bus.history →
      (∀ log, noted log (.operation o) = log) → Worked c (.operation o) c' := by
    intro o hcalls hkeeping hhistory hnoted
    refine ⟨by simp [hcalls, BusTask.call?], hkeeping, fun log hlog => ?_⟩
    rw [hnoted, hhistory, hlog]
  cases t with
  | call handler e =>
    simp only [work, answer, Except.ok.injEq] at h
    split at h
    · cases h
      exact ⟨by simp [BusTask.call?], rfl, fun log hlog => hlog⟩
    · cases h
      exact ⟨by simp [BusTask.call?], rfl, fun log hlog => hlog⟩
  | ended called =>
    cases h
    exact ⟨by simp [BusTask.call?], rfl, fun log hlog => hlog⟩
  | operation o =>
    cases o with
    | subscribe name kind reaction =>
      cases h
      exact hquiet rfl rfl rfl fun _ => rfl
    | unsubscribe position =>
      simp only [work, perform] at h
      split at h
      · cases h
      · cases h
        exact hquiet rfl rfl rfl fun _ => rfl
    | publish e =>
      cases e with
      | error issues => cases h
      | ok e =>
        cases h
        refine ⟨by simp [BusTask.call?], rfl, fun log hlog => ?_⟩
        calc c.bus.recent (c.bus.history ++ [e])
            = c.bus.recent (c.bus.recent log ++ [e]) := by rw [hlog]
          _ = c.bus.recent (log ++ [e]) := c.bus.recent_append log [e]
    | clear =>
      cases h
      refine ⟨by simp [BusTask.call?], rfl, fun log _ => ?_⟩
      show [] = c.bus.recent []
      simp [EventBus.recent]
    | fail => cases h

/-- The calls that were made are the steps of the tree that are calls. -/
theorem Unfolds.calls (h : Unfolds c steps c') :
    c'.calls.reverse = c.calls.reverse ++ (BusStep.allOf steps).filterMap (·.task.call?) := by
  induction h with
  | nil c => simp
  | @cons c c₁ c₂ c₃ t inner rest hwork hinner hrest ihinner ihrest =>
    rw [ihrest, ihinner, (work_ok hwork).calls, BusStep.allOf_cons]
    cases hcall : t.call? <;> simp [hcall]

/-- The history is what a bus keeps of events. -/
structure Remembers (b : EventBus String) (c : Conversation) (events : List Event) : Prop where
  keeping : c.bus.recent = b.recent
  history : c.bus.history = b.recent events

variable {b : EventBus String} {log : List Event}

/-- A publication is noted when it begins. -/
theorem Remembers.work {t : BusTask} {new : List BusTask} (h : Remembers b c log)
    (hwork : c.work t = .ok (c', new)) : Remembers b c' (noted log t) := by
  obtain ⟨-, hkeeping, hhistory⟩ := work_ok hwork
  refine ⟨hkeeping.trans h.keeping, ?_⟩
  rw [hhistory log (by rw [h.history, h.keeping]), h.keeping]

/-- The history at the end of steps, and before each of them, wherever it stands in the tree. -/
theorem Unfolds.remembered (h : Unfolds c steps c') (hc : Remembers b c log) :
    Remembers b c' (((BusStep.allOf steps).map (·.task)).foldl noted log) ∧
      ∀ past s future, BusStep.allOf steps = past ++ s :: future →
        Remembers b s.before ((past.map (·.task)).foldl noted log) :=
  h.moments (fun hwork hlog => hlog.work hwork) hc

/-- **A publication reaches those who were subscribed when it began**, in a conversation on a new
bus in which nothing fails, whatever the handlers do with the bus while they are called. All that
happens is a tree of steps, with all calls in it. A publication, wherever it stands, has one call
below it for each subscription to the kind of its event that was there when it began, in the order
of the subscriptions, and gives back their number. At every moment, the history holds the last
events whose publication has begun since the last clearing, in the order of their beginnings: as
many as the bus keeps, or all of them if it is not bounded. -/
theorem publications_reach_subscribers (b : EventBus String) (hnew : b.history = [])
    {ops : List BusOp} (hrun : run { bus := b } (ops.map .operation) = (c, .ok ())) :
    let kept (events : List Event) :=
      if b.bounded = true then events.drop (events.length - b.capacity) else events
    ∃ steps : List BusStep, steps.map (·.task) = ops.map .operation ∧ Unfolds { bus := b } steps c ∧
      c.calls.reverse = (BusStep.allOf steps).filterMap (·.task.call?) ∧
      (∀ s ∈ BusStep.allOf steps, ∀ e, s.task = .operation (.publish (.ok e)) →
        let subscribed := (s.before.bus.handlers.filter fun h => h.1 = e.kind).map (·.2)
        s.inner.map (·.task) = subscribed.map (.call · e) ++ [.ended subscribed.length] ∧
          s.after.result = some subscribed.length) ∧
      (∀ past s future, BusStep.allOf steps = past ++ s :: future →
        s.before.bus.history = kept (begun (past.map (·.task)))) ∧
      c.bus.history = kept (begun ((BusStep.allOf steps).map (·.task))) := by
  intro kept
  obtain ⟨steps, htasks, hunfolds⟩ := run_unfolds hrun
  have hstart : Remembers b { bus := b } [] := ⟨rfl, by simp [hnew, EventBus.recent]⟩
  obtain ⟨hlast, hmoments⟩ := hunfolds.remembered hstart
  refine ⟨steps, htasks, hunfolds, ?_, ?_, ?_, hlast.history⟩
  · simpa using hunfolds.calls
  · intro s hs e he
    exact hunfolds.publication hs he
  · intro past s future hsplit
    exact (hmoments past s future hsplit).history

/-- A text as an event. -/
def textEvent (text : String) : Event := .plain (.str text)

/-- The first handler takes back the subscription of the second, lets a third one in and publishes
an event of its own, all while it is called. -/
def meddling : List BusOp :=
  [.subscribe "first" .text
     [.subscribe "third" .text [], .unsubscribe 1, .publish (.ok (textEvent "inner")),
      .publish (.ok (textEvent "last"))],
   .subscribe "second" .text [], .publish (.ok (textEvent "outer"))]

/-- The second handler is called for the outer event all the same, and the third one is not. The
outer event is older than the inner ones, so it is the one that a history of two events drops. -/
theorem publications_reach_subscribers_meddling :
    ∃ (c : Conversation) (steps : List BusStep),
      run { bus := { capacity := 2 } } (meddling.map .operation) = (c, .ok ()) ∧
      Unfolds { bus := { capacity := 2 } } steps c ∧
      (BusStep.allOf steps).filterMap (·.task.call?) =
        [("first", textEvent "outer"), ("first", textEvent "inner"), ("third", textEvent "inner"),
          ("first", textEvent "last"), ("third", textEvent "last"), ("second", textEvent "outer")] ∧
      c.bus.history = [textEvent "inner", textEvent "last"] ∧ c.result = some 2 := by
  have hok : (run { bus := { capacity := 2 } } (meddling.map .operation)).2 = .ok () := by cbv
  have hcalls : (run { bus := { capacity := 2 } } (meddling.map .operation)).1.calls.reverse =
      [("first", textEvent "outer"), ("first", textEvent "inner"), ("third", textEvent "inner"),
        ("first", textEvent "last"), ("third", textEvent "last"), ("second", textEvent "outer")] := by
    cbv
  have hhistory : (run { bus := { capacity := 2 } } (meddling.map .operation)).1.bus.history =
      [textEvent "inner", textEvent "last"] := by cbv
  have hresult : (run { bus := { capacity := 2 } } (meddling.map .operation)).1.result =
      some 2 := by cbv
  obtain ⟨steps, -, hunfolds, hsteps, -⟩ :=
    publications_reach_subscribers { capacity := 2 } rfl (Prod.ext rfl hok)
  exact ⟨_, steps, Prod.ext rfl hok, hunfolds, hsteps.symm.trans hcalls, hhistory, hresult⟩

end Conversation

end ScriptedStage
