import Mathlib.Data.List.Induction
import Mathlib.Data.List.Nodup
import ScriptedStage.Collision.Monitor

/-!
Collisions are told when they begin. A monitor is asked to look at rosters, one after another, and
may be told to forget in between. Whatever the rosters are, with actors that come and go, actors
without a size and ids that occur more than once, it tells of a pair in a check exactly if two
actors with these ids overlap now and none did when it last looked.

What is proved:
  1. `mem_pairs`: the pairs of a check are those of two boxes that overlap, whichever
     comes first in the roster;
  2. `check_eq`: what a check comes to when all boxes can be computed;
  3. `deliverAll_eq`: events are published once each, in their order, and each handler
     is called once for each;
  4. `tells_when_overlap_begins`: what a check tells after any history of the monitor.
-/
namespace ScriptedStage

/-! ## Pairs of ids -/

namespace IdPair

theorem of_comm (a b : String) : IdPair.of a b = IdPair.of b a := by
  unfold IdPair.of
  by_cases hba : b < a
  · rw [if_pos hba, if_neg (String.lt_asymm hba)]
  · by_cases hab : a < b
    · rw [if_neg hba, if_pos hab]
    · rw [String.le_antisymm (String.not_lt.mp hba) (String.not_lt.mp hab)]

theorem of_lt {a b : String} (h : a ≠ b) : (IdPair.of a b).1 < (IdPair.of a b).2 := by
  unfold IdPair.of
  split
  · assumption
  · rename_i hba
    exact Std.lt_of_le_of_ne (String.not_lt.mp hba) h

theorem of_of_lt {p : IdPair} (h : p.1 < p.2) : IdPair.of p.1 p.2 = p := by
  unfold IdPair.of
  rw [if_neg (String.lt_asymm h)]

/-- A pair stands for two ids, in whichever order. -/
theorem of_eq_of_iff {a b c d : String} :
    IdPair.of a b = IdPair.of c d ↔ (a = c ∧ b = d) ∨ (a = d ∧ b = c) := by
  constructor
  · intro h
    unfold IdPair.of at h
    split at h <;> split at h <;> rw [Prod.mk.injEq] at h
    · exact .inl ⟨h.2, h.1⟩
    · exact .inr ⟨h.2, h.1⟩
    · exact .inr h
    · exact .inl h
  · rintro (⟨rfl, rfl⟩ | ⟨rfl, rfl⟩)
    · rfl
    · exact of_comm a b

end IdPair

/-! ## The pairs of a check -/

theorem eraseDups_nodup {α : Type} [BEq α] [LawfulBEq α] (xs : List α) : xs.eraseDups.Nodup := by
  cases xs with
  | nil => simp
  | cons x xs =>
    rw [List.eraseDups_cons, List.nodup_cons]
    exact ⟨by simp [List.mem_eraseDups], eraseDups_nodup _⟩
termination_by xs.length
decreasing_by exact Nat.lt_succ_of_le (List.length_filter_le _ _)

namespace CollisionMonitor

theorem mem_pairsWith {a : String × Bounds} {others : List (String × Bounds)} {p : IdPair} :
    p ∈ pairsWith a others ↔ ∃ b ∈ others, a.1 ≠ b.1 ∧ a.2.overlaps b.2 = true ∧
      p = .of a.1 b.1 := by
  simp only [pairsWith, List.mem_map, List.mem_filter, Bool.and_eq_true, decide_eq_true_eq]
  constructor
  · rintro ⟨b, ⟨hb, hne, hover⟩, rfl⟩
    exact ⟨b, hb, hne, hover, rfl⟩
  · rintro ⟨b, hb, hne, hover, rfl⟩
    exact ⟨b, ⟨hb, hne, hover⟩, rfl⟩

/-- The pairs are those of two boxes that overlap; which of the two comes first has no
part in it. -/
theorem mem_pairs {boxes : List (String × Bounds)} {p : IdPair} :
    p ∈ pairs boxes ↔
      ∃ a ∈ boxes, ∃ b ∈ boxes, a.1 ≠ b.1 ∧ a.2.overlaps b.2 = true ∧ p = .of a.1 b.1 := by
  rw [pairs, List.mem_eraseDups]
  induction boxes with
  | nil => simp [allPairs]
  | cons c boxes ih =>
    rw [allPairs, List.mem_append, mem_pairsWith, ih]
    constructor
    · rintro (⟨b, hb, h⟩ | ⟨a, ha, b, hb, h⟩)
      · exact ⟨c, List.mem_cons_self, b, List.mem_cons_of_mem c hb, h⟩
      · exact ⟨a, List.mem_cons_of_mem c ha, b, List.mem_cons_of_mem c hb, h⟩
    · rintro ⟨a, ha, b, hb, hne, hover, rfl⟩
      rcases List.mem_cons.mp ha with rfl | ha' <;> rcases List.mem_cons.mp hb with rfl | hb'
      · exact absurd rfl hne
      · exact .inl ⟨b, hb', hne, hover, rfl⟩
      · -- the later box was compared with the earlier one
        rw [Bounds.overlaps_comm] at hover
        exact .inl ⟨a, ha', hne.symm, hover, IdPair.of_comm a.1 b.1⟩
      · exact .inr ⟨a, ha', b, hb', hne, hover, rfl⟩

theorem nodup_pairs (boxes : List (String × Bounds)) : (pairs boxes).Nodup := eraseDups_nodup _

theorem pairs_lt {boxes : List (String × Bounds)} {p : IdPair} (h : p ∈ pairs boxes) :
    p.1 < p.2 := by
  obtain ⟨a, -, b, -, hne, -, rfl⟩ := mem_pairs.mp h
  exact IdPair.of_lt hne

/-! ## Rosters -/

/-- The boxes of all actors can be computed. -/
def Measurable (actors : List Actor) : Prop := ∀ a ∈ actors, ∃ box, Bounds.ofActor a = .ok box

instance (actors : List Actor) : Decidable (Measurable actors) :=
  decidable_of_iff (∀ a ∈ actors, (Bounds.ofActor a).toBool = true) <|
    forall₂_congr fun a _ => by cases Bounds.ofActor a <;> simp [Except.toBool]

/-- Two actors of a roster with given ids have boxes that overlap. -/
def Overlap (actors : List Actor) (first second : String) : Prop :=
  ∃ a ∈ actors, ∃ b ∈ actors, a.id = first ∧ b.id = second ∧
    ∃ box box', Bounds.ofActor a = .ok (some box) ∧ Bounds.ofActor b = .ok (some box') ∧
      box.overlaps box' = true

instance (actors : List Actor) (first second : String) : Decidable (Overlap actors first second) :=
  decidable_of_iff
    (∃ a ∈ actors, ∃ b ∈ actors, a.id = first ∧ b.id = second ∧
      (match Bounds.ofActor a, Bounds.ofActor b with
        | .ok (some box), .ok (some box') => box.overlaps box'
        | _, _ => false) = true) <| by
    refine exists_congr fun a => and_congr_right fun _ => exists_congr fun b =>
      and_congr_right fun _ =>
      and_congr_right fun _ => and_congr_right fun _ => ?_
    split
    · rename_i box box' ha hb
      simp [ha, hb]
    · rename_i hnot
      simp only [Bool.false_eq_true, false_iff]
      rintro ⟨box, box', ha, hb, -⟩
      exact hnot box box' ha hb

/-- The boxes of a roster are those of the actors that have one. -/
theorem boxed_ok {actors : List Actor} {boxes : List (String × Bounds)}
    (h : (boxed actors).2 = .ok boxes) :
    Measurable actors ∧
      ∀ id box, (id, box) ∈ boxes ↔ ∃ a ∈ actors, a.id = id ∧
        Bounds.ofActor a = .ok (some box) := by
  induction actors generalizing boxes with
  | nil =>
    obtain rfl := Except.ok.inj h
    exact ⟨by simp [Measurable], by simp⟩
  | cons a actors ih =>
    rw [boxed] at h
    cases ha : Bounds.ofActor a with
    | error e => rw [ha] at h; cases h
    | ok found =>
      rw [ha] at h
      cases found with
      | none =>
        obtain ⟨hrest, hmem⟩ := ih h
        exact ⟨List.forall_mem_cons.mpr ⟨⟨none, ha⟩, hrest⟩, by simp [hmem, ha]⟩
      | some own =>
        change (boxed actors).2.map ((a.id, own) :: ·) = .ok boxes at h
        cases hrest : (boxed actors).2 with
        | error e => rw [hrest] at h; cases h
        | ok rest =>
          rw [hrest] at h
          obtain rfl := Except.ok.inj h
          obtain ⟨hall, hmem⟩ := ih hrest
          refine ⟨List.forall_mem_cons.mpr ⟨⟨some own, ha⟩, hall⟩, fun id box => ?_⟩
          rw [List.mem_cons, hmem, Prod.mk.injEq]
          constructor
          · rintro (⟨rfl, rfl⟩ | ⟨b, hb, h⟩)
            · exact ⟨a, List.mem_cons_self, rfl, ha⟩
            · exact ⟨b, List.mem_cons_of_mem a hb, h⟩
          · rintro ⟨b, hb, rfl, hbox⟩
            rcases List.mem_cons.mp hb with rfl | hb'
            · rw [ha] at hbox
              cases hbox
              exact .inl ⟨rfl, rfl⟩
            · exact .inr ⟨b, hb', rfl, hbox⟩

theorem boxed_of_measurable {actors : List Actor} (h : Measurable actors) :
    ∃ boxes, (boxed actors).2 = .ok boxes := by
  induction actors with
  | nil => exact ⟨[], rfl⟩
  | cons a actors ih =>
    obtain ⟨⟨found, ha⟩, hrest⟩ := List.forall_mem_cons.mp h
    obtain ⟨rest, hboxes⟩ := ih hrest
    rw [boxed, ha]
    cases found with
    | none => exact ⟨rest, hboxes⟩
    | some box => exact ⟨(a.id, box) :: rest, by simp only [hboxes]; rfl⟩

/-- The pairs of a roster are those of the ids that overlap in it. -/
theorem mem_pairs_of_boxed {actors : List Actor} {boxes : List (String × Bounds)}
    (h : (boxed actors).2 = .ok boxes) {first second : String} (hne : first ≠ second) :
    IdPair.of first second ∈ pairs boxes ↔ Overlap actors first second := by
  obtain ⟨-, hmem⟩ := boxed_ok h
  rw [mem_pairs]
  constructor
  · rintro ⟨⟨i, box⟩, hi, ⟨j, box'⟩, hj, -, hover, hpair⟩
    obtain ⟨a, ha, hai, hbox⟩ := (hmem i box).mp hi
    obtain ⟨b, hb, hbj, hbox'⟩ := (hmem j box').mp hj
    rcases IdPair.of_eq_of_iff.mp hpair with ⟨rfl, rfl⟩ | ⟨rfl, rfl⟩
    · exact ⟨a, ha, b, hb, hai, hbj, box, box', hbox, hbox', hover⟩
    · rw [Bounds.overlaps_comm] at hover
      exact ⟨b, hb, a, ha, hbj, hai, box', box, hbox', hbox, hover⟩
  · rintro ⟨a, ha, b, hb, rfl, rfl, box, box', hbox, hbox', hover⟩
    exact ⟨(a.id, box), (hmem _ _).mpr ⟨a, ha, rfl, hbox⟩, (b.id, box'),
      (hmem _ _).mpr ⟨b, hb, rfl, hbox'⟩, hne, hover, rfl⟩

/-! ## Checks -/

/-- A check at a known tick: an event for each new pair. -/
theorem check_eq (m : CollisionMonitor) (actors : List Actor) (tick : Int) :
    m.check actors (.ok tick) =
      ((boxed actors).1, (boxed actors).2.map fun boxes =>
        (⟨pairs boxes⟩,
          ((pairs boxes).filter fun p => !m.overlapping.contains p).map fun p =>
            ⟨p.1, p.2, tick⟩)) := by
  unfold check
  cases hboxes : (boxed actors).2 with
  | error fault =>
    simp only [hboxes]
    rfl
  | ok boxes =>
    simp only [hboxes, Except.map]
    cases hfresh : (pairs boxes).filter fun p => !m.overlapping.contains p with
    | nil => simp only [bind, Except.bind, hfresh]; rfl
    | cons p rest => simp only [bind, Except.bind, hfresh]; rfl

/-- What a check comes to: the overlaps of this roster are remembered, and there is one event, with
its ids in order, for each of them that was not remembered before. -/
structure Told (m : CollisionMonitor) (actors : List Actor) (tick : Int) (m' : CollisionMonitor)
    (events : List CollisionEvent) : Prop where
  remembered : ∀ a b, a ≠ b → (IdPair.of a b ∈ m'.overlapping ↔ Overlap actors a b)
  sorted : ∀ p ∈ m'.overlapping, p.1 < p.2
  tells : ∀ a b, a ≠ b → ((∃ e ∈ events, e.names a = true ∧ e.names b = true) ↔
    Overlap actors a b ∧ IdPair.of a b ∉ m.overlapping)
  ordered : ∀ e ∈ events, e.first < e.second ∧ e.tick = tick
  once : (events.map fun e => (e.first, e.second)).Nodup

/-- An event with its ids in order names two actors exactly if it is the event of their pair. -/
theorem names_iff {e : CollisionEvent} (he : e.first < e.second) {a b : String} (h : a ≠ b) :
    (e.names a = true ∧ e.names b = true) ↔ (e.first, e.second) = IdPair.of a b := by
  rw [← IdPair.of_of_lt (p := (e.first, e.second)) he, IdPair.of_eq_of_iff]
  simp only [CollisionEvent.names, Bool.or_eq_true, decide_eq_true_eq]
  constructor
  · rintro ⟨ha | ha, hb | hb⟩
    · exact absurd (ha.symm.trans hb) h
    · exact .inl ⟨ha, hb⟩
    · exact .inr ⟨hb, ha⟩
    · exact absurd (ha.symm.trans hb) h
  · rintro (⟨ha, hb⟩ | ⟨hb, ha⟩)
    · exact ⟨.inl ha, .inr hb⟩
    · exact ⟨.inr ha, .inl hb⟩

variable {m m' : CollisionMonitor} {actors : List Actor} {tick : Int} {events : List CollisionEvent}

/-- What is remembered are the pairs, in order, that overlap in the roster. -/
theorem Told.mem_overlapping (h : Told m actors tick m' events) {p : IdPair} :
    p ∈ m'.overlapping ↔ p.1 < p.2 ∧ Overlap actors p.1 p.2 := by
  constructor
  · intro hp
    have hlt := h.sorted p hp
    rw [← IdPair.of_of_lt hlt] at hp
    exact ⟨hlt, (h.remembered p.1 p.2 (Std.ne_of_lt hlt)).mp hp⟩
  · rintro ⟨hlt, hover⟩
    rw [← IdPair.of_of_lt hlt]
    exact (h.remembered p.1 p.2 (Std.ne_of_lt hlt)).mpr hover

/-- The pairs of the events are those that overlap in the roster and were not remembered. -/
theorem Told.mem_events (h : Told m actors tick m' events) {p : IdPair} :
    p ∈ events.map (fun e => (e.first, e.second)) ↔
      p.1 < p.2 ∧ Overlap actors p.1 p.2 ∧ p ∉ m.overlapping := by
  constructor
  · intro hp
    obtain ⟨e, he, rfl⟩ := List.mem_map.mp hp
    have hlt := (h.ordered e he).1
    have hpair := IdPair.of_of_lt (p := (e.first, e.second)) hlt
    have hboth := (names_iff hlt (Std.ne_of_lt hlt)).mpr hpair.symm
    obtain ⟨hover, hfresh⟩ := (h.tells _ _ (Std.ne_of_lt hlt)).mp ⟨e, he, hboth⟩
    exact ⟨hlt, hover, hpair ▸ hfresh⟩
  · rintro ⟨hlt, hover, hfresh⟩
    have hpair := IdPair.of_of_lt hlt
    obtain ⟨e, he, hnames⟩ := (h.tells p.1 p.2 (Std.ne_of_lt hlt)).mpr ⟨hover, hpair.symm ▸ hfresh⟩
    rw [names_iff (h.ordered e he).1 (Std.ne_of_lt hlt), hpair] at hnames
    exact List.mem_map.mpr ⟨e, he, hnames⟩

/-- A check of a roster whose boxes can be computed. -/
theorem check_told (m : CollisionMonitor) {actors : List Actor} (h : Measurable actors)
    (tick : Int) :
    ∃ m' events, (m.check actors (.ok tick)).2 = .ok (m', events) ∧
      Told m actors tick m' events := by
  obtain ⟨boxes, hboxes⟩ := boxed_of_measurable h
  refine ⟨_, _, by rw [check_eq, hboxes]; rfl, ?_⟩
  have hordered : ∀ e ∈ ((pairs boxes).filter fun p => !m.overlapping.contains p).map
      (fun p => (⟨p.1, p.2, tick⟩ : CollisionEvent)), e.first < e.second ∧ e.tick = tick := by
    intro e he
    obtain ⟨p, hp, rfl⟩ := List.mem_map.mp he
    exact ⟨pairs_lt (List.mem_filter.mp hp).1, rfl⟩
  refine ⟨fun a b hne => mem_pairs_of_boxed hboxes hne, fun p hp => pairs_lt hp, fun a b hne => ?_,
    hordered, ?_⟩
  · rw [← mem_pairs_of_boxed hboxes hne]
    constructor
    · rintro ⟨e, he, hnames⟩
      have hpair := (names_iff (hordered e he).1 hne).mp hnames
      obtain ⟨p, hp, rfl⟩ := List.mem_map.mp he
      rw [← hpair]
      simpa using List.mem_filter.mp hp
    · rintro ⟨hnow, hbefore⟩
      let e : CollisionEvent := ⟨(IdPair.of a b).1, (IdPair.of a b).2, tick⟩
      have he : e.first < e.second := IdPair.of_lt hne
      refine ⟨e, List.mem_map.mpr ⟨_, List.mem_filter.mpr ⟨hnow, by simpa using hbefore⟩, rfl⟩, ?_⟩
      exact (names_iff he hne).mpr rfl
  · rw [List.map_map]
    exact ((nodup_pairs boxes).filter _).map fun p q hpq => hpq

/-! ## Publishing -/

section Publishing

variable {H σ : Type}

/-- What handlers have worked on after they were called for events: for each event one
after another. -/
def afterCalls (call : H → CollisionEvent → σ → σ) (handlers : List H) (world : σ)
    (events : List CollisionEvent) : σ :=
  events.foldl (fun world e => handlers.foldl (fun world h => call h e world) world) world

/-- Events are published once each, in their order, each handler of collisions is called once for
each of them, and nothing else on the bus changes. -/
theorem deliverAll_eq (call : H → CollisionEvent → σ → σ) (bus : EventBus H) (world : σ)
    (events : List CollisionEvent) (hrecent : bus.recent bus.history = bus.history) :
    (deliverAll call bus world events).1 =
      ({ bus with history := bus.recent (bus.history ++ events.map Event.collision) },
        afterCalls call (bus.handlersOf .collision) world events) := by
  induction events generalizing bus world with
  | nil =>
    rw [List.map_nil, List.append_nil, hrecent]
    rfl
  | cons e events ih =>
    have hrest := ih (bus.publish (.collision e)).1
      ((bus.handlersOf .collision).foldl (fun world handler => call handler e world) world)
      (bus.recent_recent _)
    refine hrest.trans (Prod.ext ?_ rfl)
    show { bus with
      history := bus.recent (bus.recent (bus.history ++ [Event.collision e]) ++ _) } = _
    rw [EventBus.recent_append, List.append_assoc]
    rfl

end Publishing

/-! ## Histories of a monitor -/

end CollisionMonitor

/-- What is asked of a monitor. -/
inductive MonitorOp where
  | check (actors : List Actor) (tick : Int)
  | reset

/-- A monitor, the bus on which it publishes, and what the handlers on the bus work on. -/
structure MonitoredBus (H σ : Type) where
  monitor : CollisionMonitor := {}
  bus : EventBus H := {}
  world : σ

namespace CollisionMonitor

variable {H σ : Type} {call : H → CollisionEvent → σ → σ} {s : MonitoredBus H σ} {bus : EventBus H}

/-- Carries out an operation of a monitor; gives the events of a check. A check that fails leaves
everything as it is. -/
def perform (call : H → CollisionEvent → σ → σ) (s : MonitoredBus H σ) :
    MonitorOp → MonitoredBus H σ × Except Fault (List CollisionEvent)
  | .reset => ({ s with monitor := s.monitor.reset }, .ok [])
  | .check actors tick =>
    match (s.monitor.check actors (.ok tick)).2 with
    | .error fault => (s, .error fault)
    | .ok (m, events) =>
      let ((bus, world), _) := deliverAll call s.bus s.world events
      (⟨m, bus, world⟩, .ok events)

/-- A monitor and its bus after operations, one after another. -/
def after (call : H → CollisionEvent → σ → σ) (s : MonitoredBus H σ) (ops : List MonitorOp) :
    MonitoredBus H σ :=
  ops.foldl (fun s op => (perform call s op).1) s

/-- The last operation was a check, and two actors with given ids overlapped in its roster. -/
def OverlappedBefore (ops : List MonitorOp) (first second : String) : Prop :=
  ∃ actors tick, ops.getLast? = some (.check actors tick) ∧ Overlap actors first second

theorem after_concat (call : H → CollisionEvent → σ → σ) (s : MonitoredBus H σ)
    (ops : List MonitorOp) (op : MonitorOp) :
    after call s (ops ++ [op]) = (perform call (after call s ops) op).1 := by
  rw [after, List.foldl_append]
  rfl

/-- A bus with the handlers of another one, and with a history within its bounds. -/
structure Serves (bus b : EventBus H) : Prop where
  handlers : b.handlers = bus.handlers
  recent : b.recent b.history = b.history

theorem Serves.handlersOf (h : Serves bus s.bus) :
    s.bus.handlersOf .collision = bus.handlersOf .collision := by
  rw [EventBus.handlersOf, h.handlers]
  rfl

/-- A check that finds something comes with its publications. -/
theorem perform_check (h : Serves bus s.bus) {actors : List Actor} {tick : Int}
    {m : CollisionMonitor} {events : List CollisionEvent}
    (hcheck : (s.monitor.check actors (.ok tick)).2 = .ok (m, events)) :
    perform call s (.check actors tick) =
      (⟨m, { s.bus with history := s.bus.recent (s.bus.history ++ events.map Event.collision) },
        afterCalls call (bus.handlersOf .collision) s.world events⟩, .ok events) := by
  have hdelivered := deliverAll_eq call s.bus s.world events h.recent
  rw [h.handlersOf] at hdelivered
  simp only [perform, hcheck, hdelivered]

/-- An operation leaves the handlers alone, and the history of the bus within its bounds. -/
theorem Serves.perform (h : Serves bus s.bus) (op : MonitorOp) :
    Serves bus (perform call s op).1.bus := by
  cases op with
  | reset => exact h
  | check actors tick =>
    cases hcheck : (s.monitor.check actors (.ok tick)).2 with
    | error fault =>
      rw [CollisionMonitor.perform, hcheck]
      exact h
    | ok found =>
      rw [perform_check h hcheck]
      exact ⟨h.handlers, s.bus.recent_recent _⟩

/-- What a monitor remembers is what overlapped when it last looked. -/
theorem remembers_last (hs : Serves bus s.bus) (hnew : s.monitor = {}) {ops : List MonitorOp}
    (hops : ∀ actors tick, .check actors tick ∈ ops → Measurable actors) :
    Serves bus (after call s ops).bus ∧
      ∀ a b, a ≠ b → (IdPair.of a b ∈ (after call s ops).monitor.overlapping ↔
        OverlappedBefore ops a b) := by
  induction ops using List.reverseRecOn with
  | nil =>
    refine ⟨hs, fun a b _ => ?_⟩
    simp [after, OverlappedBefore, hnew]
  | append_singleton ops op ih =>
    obtain ⟨hserves, -⟩ := ih fun actors tick hmem => hops actors tick (List.mem_append_left _ hmem)
    rw [after_concat]
    refine ⟨hserves.perform op, fun a b hne => ?_⟩
    -- only the last operation decides what is remembered
    cases op with
    | reset => simp [perform, reset, OverlappedBefore]
    | check actors tick =>
      have hmeasurable := hops actors tick (List.mem_append_right _ (List.mem_singleton_self _))
      obtain ⟨m, events, hcheck, htold⟩ := check_told (after call s ops).monitor hmeasurable tick
      rw [perform_check hserves hcheck, htold.remembered a b hne]
      constructor
      · intro hover
        exact ⟨actors, tick, List.getLast?_concat, hover⟩
      · rintro ⟨actors', tick', hlast, hover⟩
        rw [List.getLast?_concat] at hlast
        cases hlast
        exact hover

/-- A new monitor on a bus, after any history in which all boxes could be computed, looks at one
more roster of that kind. The check tells of two ids exactly if they overlap in this roster and did
not in that of the check before, or there was none since the monitor was new or told to forget; it
tells of no pair twice, with the ids in order; what it tells is published, once and in this order,
so that each handler of collisions is called once for each event; and it remembers the pairs that
overlap in this roster, and no others. -/
theorem tells_when_overlap_begins (call : H → CollisionEvent → σ → σ) (bus : EventBus H)
    (hbus : bus.bounded = true → bus.history.length ≤ bus.capacity) (world : σ)
    {ops : List MonitorOp} (hops : ∀ actors tick, .check actors tick ∈ ops → Measurable actors)
    {actors : List Actor} (hactors : Measurable actors) (tick : Int) :
    let before := after call ⟨{}, bus, world⟩ ops
    ∃ m events, perform call before (.check actors tick) =
        (⟨m, { before.bus with
            history := before.bus.recent (before.bus.history ++ events.map Event.collision) },
          afterCalls call (bus.handlersOf .collision) before.world events⟩, .ok events) ∧
      (∀ a b, a ≠ b → ((∃ e ∈ events, e.names a = true ∧ e.names b = true) ↔
        Overlap actors a b ∧ ¬OverlappedBefore ops a b)) ∧
      (events.map fun e => (e.first, e.second)).Nodup ∧
      (∀ e ∈ events, e.first < e.second ∧ e.tick = tick) ∧
      ∀ p, p ∈ m.overlapping ↔ p.1 < p.2 ∧ Overlap actors p.1 p.2 := by
  intro before
  have hrecent : bus.recent bus.history = bus.history := by
    unfold EventBus.recent
    split
    · rename_i hbounded
      rw [Nat.sub_eq_zero_of_le (hbus hbounded), List.drop_zero]
    · rfl
  have hnew : Serves bus (⟨{}, bus, world⟩ : MonitoredBus H σ).bus := ⟨rfl, hrecent⟩
  obtain ⟨hserves, hbefore⟩ : Serves bus before.bus ∧ _ := remembers_last hnew rfl hops
  obtain ⟨m, events, hcheck, htold⟩ := check_told before.monitor hactors tick
  refine ⟨m, events, perform_check hserves hcheck, fun a b hne => ?_, htold.once, htold.ordered,
    fun p => htold.mem_overlapping⟩
  rw [htold.tells a b hne, hbefore a b hne]

/-- A dog at a place, two actors with the id of the cat around the origin, and an
actor without a size. -/
def crossingActors (x : Float) : List Actor :=
  [{ id := "dog-1", x := .float x }, { id := "owl-1", width := .int 0 }, { id := "cat-1" },
   { id := "cat-1", x := .float 5 }]

/-- A handler that lists the pairs it is told of, on a bus that keeps all events. -/
def listed : MonitoredBus Unit (List IdPair) :=
  { bus := EventBus.keepingAll.subscribe .collision (), world := [] }

/-- Called for an event, it adds the pair. -/
def listPair (_ : Unit) (e : CollisionEvent) (pairs : List IdPair) : List IdPair :=
  pairs ++ [(e.first, e.second)]

/-- The dog comes to the cat, goes and comes again: the monitor tells of it again, and once. It does
not tell of a dog that stays. -/
theorem tells_when_overlap_begins_crossingActors :
    (∃ s events, perform listPair (after listPair listed
        [.check (crossingActors 10) 1, .check (crossingActors 400) 2])
          (.check (crossingActors 10) 3) = (s, .ok events) ∧
        (∃ e ∈ events, e.names "cat-1" = true ∧ e.names "dog-1" = true) ∧
        (events.map fun e => (e.first, e.second)).Nodup ∧
        s.world = [("cat-1", "dog-1")] ++ events.map fun e => (e.first, e.second)) ∧
      ∃ s events, perform listPair (after listPair listed [.reset, .check (crossingActors 10) 1])
        (.check (crossingActors 20) 2) = (s, .ok events) ∧
        ¬∃ e ∈ events, e.names "cat-1" = true ∧ e.names "dog-1" = true := by
  have hmeasurable : ∀ x ∈ [10, 20, 400], Measurable (crossingActors x) := by decide +kernel
  constructor
  · have hops : ∀ actors tick, .check actors tick ∈
        [MonitorOp.check (crossingActors 10) 1, .check (crossingActors 400) 2] →
          Measurable actors := by
      simp only [List.mem_cons, MonitorOp.check.injEq, List.not_mem_nil, or_false]
      rintro _ _ (⟨rfl, -⟩ | ⟨rfl, -⟩)
      · exact hmeasurable 10 (by simp)
      · exact hmeasurable 400 (by simp)
    have hworld : (after listPair listed
        [.check (crossingActors 10) 1, .check (crossingActors 400) 2]).world =
          [("cat-1", "dog-1")] := by
      decide +kernel
    obtain ⟨m, events, hperform, htells, honce, -⟩ :=
      tells_when_overlap_begins listPair listed.bus (by decide) [] hops (hmeasurable 10 (by simp)) 3
    refine ⟨_, events, hperform, (htells "cat-1" "dog-1" (by decide)).mpr ⟨by decide +kernel, ?_⟩,
      honce, ?_⟩
    · rintro ⟨actors, tick, hlast, hover⟩
      cases hlast
      revert hover
      decide +kernel
    · have hcalls : ∀ (pairs : List IdPair) (events : List CollisionEvent),
          afterCalls listPair [()] pairs events =
            pairs ++ events.map fun e => (e.first, e.second) := by
        intro pairs events
        induction events generalizing pairs with
        | nil => simp [afterCalls]
        | cons e events ih =>
          have hrest := ih (pairs ++ [(e.first, e.second)])
          rwa [List.append_assoc] at hrest
      rw [← hworld]
      exact hcalls _ events
  · have hops : ∀ actors tick,
        .check actors tick ∈ [MonitorOp.reset, .check (crossingActors 10) 1] →
          Measurable actors := by
      simp only [List.mem_cons, reduceCtorEq, MonitorOp.check.injEq, List.not_mem_nil, or_false,
        false_or]
      rintro _ _ ⟨rfl, -⟩
      exact hmeasurable 10 (by simp)
    obtain ⟨m, events, hperform, htells, -⟩ :=
      tells_when_overlap_begins listPair listed.bus (by decide) [] hops (hmeasurable 20 (by simp)) 2
    refine ⟨_, events, hperform, fun htold => ?_⟩
    exact ((htells "cat-1" "dog-1" (by decide)).mp htold).2 ⟨_, 1, rfl, by decide +kernel⟩

end CollisionMonitor

end ScriptedStage
