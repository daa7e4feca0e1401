import Mathlib.Algebra.GroupWithZero.Nat
import ScriptedStage.Proofs.Frames
import ScriptedStage.Proofs.Printing

/-!
How long a run is. A script costs as many frames as its unrolling behind the trigger has leaves, and
a run ends with the first script that is complete. So the length of a run can be read off the stage
on which it starts: it is the least cost of a script that takes part. Collisions reverse moves in
the scripts while the run goes on, and change nothing about this.

What is proved:
  1. `frames_count`: from a run under way, frames run until the least number of leaves
     left is used up;
  2. `run_length`: the number of frames of a run from its start, and whether it is
     still on afterwards.
-/
namespace ScriptedStage

open Block

/-- The frames that a script takes: the leaves of the blocks behind its trigger. -/
def Script.cost (s : Script) : Nat := ((s.drop 1).map (·.unroll.length)).sum

theorem Script.length_unrollAll (s : Script) : (unrollAll s).length = (s.map (·.unroll.length)).sum := by
  induction s with
  | nil => rfl
  | cons b s ih => rw [unrollAll, List.length_append, ih, List.map_cons, List.sum_cons]

/-- The frames of the shortest script that takes part in a run, if any does. -/
def Stage.shortest (s : Stage) : Option Nat :=
  ((s.actors.filter (·.script.Runnable)).map (·.script.cost)).min?

theorem Stage.shortest_eq_some {s : Stage} {m : Nat} : s.shortest = some m ↔
    (∃ a ∈ s.actors, a.script.Runnable ∧ a.script.cost = m) ∧
      ∀ a ∈ s.actors, a.script.Runnable → m ≤ a.script.cost := by
  rw [shortest, List.min?_eq_some_iff]
  simp only [List.mem_map, List.mem_filter, decide_eq_true_eq, and_assoc]
  refine and_congr_right fun _ => ⟨fun h a ha hrun => h _ ⟨a, ha, hrun, rfl⟩, ?_⟩
  rintro h _ ⟨a, ha, hrun, rfl⟩
  exact h a ha hrun

namespace Session

variable {s s' : Session}

/-! ## Frames until a script is complete -/

theorem length_left_congr {a b : Actor} (hid : a.id = b.id)
    (hskel : skeletonAll a.script = skeletonAll b.script) :
    (s.left a).length = (s.left b).length := by
  simp only [left, hid]
  split
  · rfl
  · exact length_resumeNth_congr hskel _

/-- In a run that goes on, each actor has a counterpart with one leaf more before. -/
theorem GoesOn.before (h : GoesOn s s') (hs : s.Underway) {a' : Actor} (ha' : a' ∈ s'.stage.actors)
    (hrun' : a'.script.Runnable) :
    ∃ a ∈ s.stage.actors, a.script.Runnable ∧ (s.left a).length = (s'.left a').length + 1 := by
  obtain ⟨a, ha, hid, hskel⟩ := Stage.exists_of_shapes h.shapes ha'
  have hrun := (Script.runnable_congr hskel).mpr hrun'
  refine ⟨a, ha, hrun, ?_⟩
  have hpos := hs.left_pos ha hrun
  rw [← length_left_congr hid hskel, h.left a ha hrun, List.length_tail]
  omega

/-- In a run that goes on, each actor has a counterpart with one leaf less after. -/
theorem GoesOn.after (h : GoesOn s s') (hs : s.Underway) {a : Actor} (ha : a ∈ s.stage.actors)
    (hrun : a.script.Runnable) :
    ∃ a' ∈ s'.stage.actors, a'.script.Runnable ∧ (s.left a).length = (s'.left a').length + 1 := by
  obtain ⟨a', ha', hid, hskel⟩ := Stage.exists_of_shapes h.shapes.symm ha
  refine ⟨a', ha', (Script.runnable_congr hskel).mpr hrun, ?_⟩
  have hpos := hs.left_pos ha hrun
  rw [length_left_congr hid hskel, h.left a ha hrun, List.length_tail]
  omega

/-- A run that is given `k` frames lasts `n` of them, where `cost` says how many leaves an actor has
to run: all frames run and everyone has more to do, or the run ends with the frame in which the
first actor has run its last leaf. -/
def Lasts (actors : List Actor) (cost : Actor → Nat) (k n : Nat) (running : Bool) : Prop :=
  (running = true ∧ n = k ∧ ∀ a ∈ actors, a.script.Runnable → k < cost a) ∨
    (running = false ∧ n ≤ k ∧ (∃ a ∈ actors, a.script.Runnable ∧ cost a = n) ∧
      ∀ a ∈ actors, a.script.Runnable → n ≤ cost a)

theorem Lasts.congr {actors : List Actor} {cost cost' : Actor → Nat} {k n : Nat} {running : Bool}
    (hcost : ∀ a ∈ actors, a.script.Runnable → cost a = cost' a) (h : Lasts actors cost k n running) :
    Lasts actors cost' k n running := by
  rcases h with ⟨hrunning, hall, hmore⟩ | ⟨hover, hle, ⟨a, ha, hrun, hlen⟩, hleast⟩
  · exact .inl ⟨hrunning, hall, fun a ha hrun => hcost a ha hrun ▸ hmore a ha hrun⟩
  · exact .inr ⟨hover, hle, ⟨a, ha, hrun, hcost a ha hrun ▸ hlen⟩,
      fun b hb hrunb => hcost b hb hrunb ▸ hleast b hb hrunb⟩

/-- Frames from a run under way last as long as the leaves that are left. -/
theorem frames_count {caller : String} {k n : Nat} (h : s.Underway) (hw : s.HostWaits)
    (hf : frames caller k s = (s', .ok n)) :
    Lasts s.stage.actors (fun a => (s.left a).length) k n s'.stage.running := by
  induction k generalizing s n with
  | zero =>
    obtain ⟨rfl, rfl⟩ := Act.pure_ok.mp hf
    exact .inl ⟨h.running, rfl, fun a ha hrun => h.left_pos ha hrun⟩
  | succ k ih =>
    obtain ⟨s₁, b, hframe, hrest⟩ := frames_succ hf
    obtain ⟨rfl, hcases⟩ := frame_underway h hw hframe
    obtain ⟨m, hrest, rfl⟩ := hrest
    rcases hcases with ⟨⟨a, ha, hrun, hone⟩, hstopped, hidle⟩ | ⟨-, hon, hw₁⟩
    · -- the run ends with this frame
      rw [frames_of_idle hidle, Prod.mk.injEq] at hrest
      obtain ⟨rfl, hzero⟩ := hrest
      obtain rfl : 0 = m := Except.ok.inj hzero
      refine .inr ⟨hstopped, by omega, ⟨a, ha, hrun, hone⟩, fun b hb hrunb => ?_⟩
      exact h.left_pos hb hrunb
    · -- one frame more, and one leaf more for everyone, than the induction hypothesis counts
      rcases ih hon.underway hw₁ hrest with
        ⟨hrunning, rfl, hmore⟩ | ⟨hstopped, hle, ⟨a', ha', hrun', hm⟩, hleast⟩
      · refine .inl ⟨hrunning, rfl, fun a ha hrun => ?_⟩
        obtain ⟨a', ha', hrun', hlen⟩ := hon.after h ha hrun
        show _ < (s.left a).length
        rw [hlen]
        exact Nat.succ_lt_succ (hmore a' ha' hrun')
      · obtain ⟨a, ha, hrun, hlen⟩ := hon.before h ha' hrun'
        refine .inr ⟨hstopped, Nat.succ_le_succ hle, ⟨a, ha, hrun, ?_⟩, fun b hb hrunb => ?_⟩
        · exact hlen.trans (congrArg (· + 1) hm)
        · obtain ⟨b', hb', hrunb', hlenb⟩ := hon.after h hb hrunb
          show _ ≤ (s.left b).length
          rw [hlenb]
          exact Nat.succ_le_succ (hleast b' hb' hrunb')

/-! ## Operations that cannot fail -/

end Session

/-- The start of a run is told in notes that can be printed. -/
theorem Stage.dispatch_startRun {s : Stage} (h : s.running = false) (rules : StageRules) :
    ∃ notes, s.dispatch rules .startRun = (notes, some { s with running := true }) ∧
      ∀ n ∈ notes, ∃ t, n.text = .ok t := by
  refine ⟨[.form "store" .debug "Intent dispatched: %s %s" [.str Intent.startRun.action,
    Intent.startRun.dump], storeNote .info "Run started"], by simp [dispatch, reduce, startRun, h],
    fun n hn => ?_⟩
  rcases List.mem_cons.mp hn with rfl | hn
  · exact ⟨"Intent dispatched: START_RUN {}", rfl⟩
  · obtain rfl := List.mem_singleton.mp hn
    exact ⟨_, rfl⟩

theorem Act.report_of_texts {α : Type} {notes : List Note} (h : ∀ n ∈ notes, ∃ t, n.text = .ok t) (a : α)
    (s : Session) : ∃ j, Act.report (notes, .ok a) s = ({ s with journal := j }, .ok a) := by
  obtain ⟨j, hj⟩ := Journal.writeAll_of_texts h s.journal
  refine ⟨j, ?_⟩
  simp only [Act.report, Journal.settle, hj]

theorem Act.note_say (source text : String) (level : Level) (s : Session) :
    ∃ j, Act.note (.say source level text) s = ({ s with journal := j }, .ok ()) :=
  report_of_texts (by simp [Note.say]) () s

namespace Session

variable {s s' : Session}

theorem beginRun_ok (h : s.awaited = none) : ∃ s', beginRun s = (s', .ok ()) := by
  unfold beginRun
  rw [Act.change_bind, Act.read_bind]
  obtain ⟨j, hj⟩ := Act.note_say "scheduler" _ .info { s with executions := .rewind s.stage.actors }
  rw [Act.bind_of_ok hj]
  exact ⟨_, requestFrame_of_none h⟩

/-- A stage at rest can be started. -/
theorem start_ok (hstopped : s.stage.running = false) (hfollow : s.following = true)
    (hawait : s.awaited = none) :
    ∃ s', start s = (s', .ok true) := by
  obtain ⟨notes, hstage, htexts⟩ := Stage.dispatch_startRun hstopped s.rules
  obtain ⟨j, hj⟩ := Act.report_of_texts htexts (some { s.stage with running := true }) s
  obtain ⟨s', hbegin⟩ :=
    beginRun_ok (s := { s with journal := j, stage := { s.stage with running := true } }) hawait
  have hdispatch : dispatch .startRun s = (s', .ok (some { s.stage with running := true })) := by
    unfold dispatch
    rw [Act.read_bind, Act.read_bind, hstage]
    simp only
    rw [Act.bind_of_ok hj]
    simp only
    rw [Act.change_bind, Act.read_bind]
    simp only [if_pos hfollow]
    rw [Act.bind_of_ok ((follow_start hstopped rfl _).trans hbegin)]
    rfl
  refine ⟨s', ?_⟩
  unfold start
  rw [Act.bind_of_ok hdispatch]
  rfl

/-- A run of frames that do not fail does not fail either. -/
theorem run_ok {h : FrameHost FrameRequest} (most : Int) {n : Nat} (hhost : s.host = .manual h)
    (hf : frames "run" most.toNat s = (s', .ok n)) :
    ∃ j, run most s = ({ s' with journal := j }, .ok n) := by
  unfold run
  rw [Act.read_bind, hhost]
  simp only
  rw [Act.bind_of_ok hf, Act.read_bind]
  by_cases hrun : s'.stage.running = true
  · obtain ⟨j, hj⟩ :=
      Act.note_say "session" ("Run still active after " ++ toString n ++ " frame(s)") .warning s'
    refine ⟨j, ?_⟩
    simp only [if_pos hrun]
    rw [Act.bind_of_ok hj]
    rfl
  · refine ⟨s'.journal, ?_⟩
    simp only [if_neg hrun]
    rfl

/-! ## The length of a run -/

/-- A number of frames that ends as the costs of the scripts say is read off the shortest script. -/
theorem count_shortest {stage : Stage} {k n : Nat} {running : Bool}
    (h : Lasts stage.actors (·.script.cost) k n running) :
    n = (match stage.shortest with
      | some m => min k m
      | none => k) ∧
      (running = false ↔ ∃ m ∈ stage.shortest, m ≤ k) := by
  rcases h with ⟨rfl, rfl, hmore⟩ | ⟨rfl, hle, hsome, hleast⟩
  · cases hs : stage.shortest with
    | none => simp
    | some m =>
      obtain ⟨⟨a, ha, hrun, rfl⟩, -⟩ := Stage.shortest_eq_some.mp hs
      have hlt := hmore a ha hrun
      refine ⟨(Nat.min_eq_left (Nat.le_of_lt hlt)).symm, ?_⟩
      simp
      omega
  · rw [Stage.shortest_eq_some.mpr ⟨hsome, hleast⟩]
    exact ⟨(Nat.min_eq_right hle).symm, by simpa using hle⟩

/-- A session over a stage at rest: the run can be started, and if no frame fails it takes as many
frames as the shortest script, or as many as it was given if that is less. It is over afterwards
exactly when the shortest script is complete. Nothing that collides on the way changes this. -/
theorem run_length (o : SessionOptions) (most : Nat) {h : FrameHost FrameRequest}
    (hhost : o.host = .manual h) (hpending : h.pending = []) (hstopped : o.initial.running = false)
    (hdistinct : o.initial.Distinct) (hframes : ∃ n, (frames "run" most (start (create o)).1).2 = .ok n) :
    (start (create o)).2 = .ok true ∧
      ∃ s', run most (start (create o)).1 = (s', .ok (match o.initial.shortest with
          | some m => min most m
          | none => most)) ∧
        (s'.stage.running = false ↔ ∃ m ∈ o.initial.shortest, m ≤ most) := by
  obtain ⟨n, hn⟩ := hframes
  obtain ⟨s₁, hstart⟩ : ∃ s₁, start (create o) = (s₁, .ok true) := by
    obtain ⟨j, recording, hcreate⟩ := create_eq hstopped
    rw [hcreate]
    exact start_ok hstopped rfl rfl
  rw [hstart] at hn ⊢
  obtain ⟨hway, hactors, hrequest, -, -, hleft⟩ := create_underway hstopped hdistinct hstart
  rw [hhost] at hrequest
  have hcost : ∀ a ∈ o.initial.actors, a.script.Runnable → (s₁.left a).length = a.script.cost := by
    intro a ha hrun
    rw [hleft a ha hrun, Script.length_unrollAll]
    rfl
  have hframes : frames "run" most s₁ = ((frames "run" most s₁).1, .ok n) := Prod.ext rfl hn
  have hcount := frames_count hway (.of_request hrequest hpending) hframes
  rw [hactors] at hcount
  obtain ⟨hnumber, hover⟩ := count_shortest (hcount.congr hcost)
  obtain ⟨j', hrun⟩ := run_ok most hrequest hframes
  refine ⟨rfl, { (frames "run" most s₁).1 with journal := j' }, ?_, hover⟩
  rw [← hnumber]
  exact hrun

/-- Two actors on one spot, the first with a move in a loop that the second does not give
it the time to reach. -/
def collidingActors : SessionOptions :=
  let flag : Block := ⟨"f", BlockType.flagClicked, [], none⟩
  let say (id : String) : Block := ⟨id, BlockType.say, [.str "hi"], none⟩
  let move : Block := ⟨"m", BlockType.moveSteps, [.int 10], none⟩
  let loop (id : String) (n : Int) (body : List Block) : Block :=
    ⟨id, BlockType.repeatTimes, [.int n], some body⟩
  { initial :=
      { actors :=
          [{ id := "cat-1", script := [flag, loop "r" 2 [loop "q" 4 [say "a"], move]] },
           { id := "dog-1", script := [flag, loop "r" 1 [say "a", loop "q" 0 [], say "b"]] }] } }

/-- A collision reverses the move while its loop is under way, and the run still ends
with the third frame. -/
theorem run_length_collidingActors :
    collidingActors.initial.shortest = some 3 ∧
      ((frames "run" 10 (start (create collidingActors)).1).1.handled = 1) ∧
      ∃ s', run 10 (start (create collidingActors)).1 = (s', .ok 3) ∧ s'.stage.running = false := by
  have hquiet : ∃ n, (frames "run" 10 (start (create collidingActors)).1).2 = .ok n := by
    have hthree : (frames "run" 10 (start (create collidingActors)).1).2.toOption = some 3 := by
      decide +kernel
    cases hr : (frames "run" 10 (start (create collidingActors)).1).2 with
    | error e => rw [hr] at hthree; cases hthree
    | ok n => exact ⟨n, rfl⟩
  have hshortest : collidingActors.initial.shortest = some 3 := by decide +kernel
  obtain ⟨-, s', hrun, hover⟩ := run_length collidingActors 10 rfl rfl rfl (by decide) hquiet
  rw [hshortest] at hrun hover
  exact ⟨hshortest, by decide +kernel, s', hrun, hover.mpr ⟨3, rfl, by decide⟩⟩

end Session

end ScriptedStage
