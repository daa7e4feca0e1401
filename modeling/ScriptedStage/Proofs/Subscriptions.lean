import Mathlib.Data.List.ReduceOption
import ScriptedStage.Proofs.NestedDeliveries

/-!
Taking subscriptions back. A subscription is answered with a function that takes it back, and the
function may be called at any time and any number of times. It finds what it takes back by the
handler and the kind of events, and not by the subscription that it came with: it takes away the
oldest subscription of that handler to that kind that is still there.

A handler that is subscribed to a kind once cannot tell the difference. If it is subscribed twice,
the functions of the two subscriptions do the same: what counts is how often they are called
between them, and what stays are the latest subscriptions. So a function that is called once takes
back one subscription of its handler, if not always its own, and a function that is called twice
takes back one too many.

What is proved, at every moment of every conversation on a new bus in which nothing fails:
  1. `Kept.work`: the bus follows the rule of the latest subscriptions;
  2. `Owned.work`: if no handler is subscribed twice, these are the subscriptions whose
     own functions have not been called, and if no function is called twice, they are
     as many of each handler;
  3. `publications_reach_latest`: whom a publication calls, therefore;
  4. `second_call_takes_another`: a function that is called twice takes back a
     subscription that is not its own.
-/
namespace ScriptedStage

/-! ## The latest of a list -/

section Latest

variable {α : Type} [DecidableEq α]

/-- The latest items of a list: of each item as many as are left of it. -/
def latest (left : α → Nat) : List α → List α
  | [] => []
  | x :: rest => if rest.count x < left x then x :: latest left rest else latest left rest

/-- How many are left of an item makes no difference once it is as many as there are. -/
theorem latest_congr {left left' : α → Nat} {items : List α}
    (h : ∀ x, left x = left' x ∨ items.count x ≤ left x ∧ items.count x ≤ left' x) :
    latest left items = latest left' items := by
  induction items with
  | nil => rfl
  | cons y rest ih =>
    have hrest : ∀ x, left x = left' x ∨ rest.count x ≤ left x ∧ rest.count x ≤ left' x := by
      intro x
      have hle : rest.count x ≤ (y :: rest).count x := List.count_le_count_cons
      rcases h x with hsame | ⟨hleft, hleft'⟩
      · exact .inl hsame
      · right
        omega
    have hkept : rest.count y < left y ↔ rest.count y < left' y := by
      have hself : (y :: rest).count y = rest.count y + 1 := List.count_cons_self
      rcases h y with hsame | ⟨hleft, hleft'⟩
      · rw [hsame]
      · omega
    simp only [latest, hkept, ih hrest]

/-- A new item is the latest. -/
theorem latest_concat (left : α → Nat) (items : List α) (x : α) :
    latest (fun y => if y = x then left y + 1 else left y) (items ++ [x]) = latest left items ++ [x] := by
  induction items with
  | nil => simp [latest]
  | cons y rest ih =>
    have hkept : (rest ++ [x]).count y < (if y = x then left y + 1 else left y) ↔
        rest.count y < left y := by
      by_cases hy : y = x
      · simp [hy]
      · simp [hy, Ne.symm hy]
    simp only [List.cons_append, latest, hkept, ih]
    split
    · rfl
    · rfl

/-- With one item fewer left, the oldest of the latest goes. -/
theorem latest_erase {left : α → Nat} {items : List α} {x : α} (h : left x ≤ items.count x) :
    latest (fun y => if y = x then left y - 1 else left y) items = (latest left items).erase x := by
  induction items with
  | nil => rfl
  | cons y rest ih =>
    by_cases hy : y = x
    · subst hy
      have hself : (y :: rest).count y = rest.count y + 1 := List.count_cons_self
      by_cases hkept : rest.count y < left y
      · -- the first item is the oldest that is left, and all that come after it stay
        have hgone : ¬ rest.count y < left y - 1 := by omega
        simp only [latest, if_true, if_neg hgone, if_pos hkept, List.erase_cons_head]
        apply latest_congr
        intro z
        by_cases hz : z = y
        · subst hz
          right
          simp only [if_true]
          omega
        · exact .inl (if_neg hz)
      · have hgone : ¬ rest.count y < left y - 1 := by omega
        simp only [latest, if_true, if_neg hgone, if_neg hkept]
        apply ih
        omega
    · have hcount : (y :: rest).count x = rest.count x := List.count_cons_of_ne hy
      simp only [latest, if_neg hy]
      split
      · rw [ih (by omega), List.erase_cons_tail (by simpa using hy)]
      · exact ih (by omega)

end Latest

/-! ## Slots -/

section Slots

variable {α : Type} {slots : List (Option α)} {p : Nat} {x : α}

/-- Emptying a slot takes one item away. -/
theorem reduceOption_set_perm [DecidableEq α] (h : slots[p]? = some (some x)) :
    (slots.set p none).reduceOption.Perm (slots.reduceOption.erase x) := by
  induction slots generalizing p with
  | nil => simp at h
  | cons slot rest ih =>
    cases p with
    | zero =>
      obtain rfl : slot = some x := by simpa using h
      simp
    | succ p =>
      have hrest := ih (p := p) (by simpa using h)
      cases slot with
      | none => simpa using hrest
      | some y =>
        simp only [List.set_cons_succ, List.reduceOption_cons_of_some]
        by_cases hy : y = x
        · subst hy
          have hmem : y ∈ rest.reduceOption :=
            List.reduceOption_mem_iff.mpr (List.mem_of_getElem? (by simpa using h))
          rw [List.erase_cons_head]
          exact (hrest.cons y).trans (List.perm_cons_erase hmem).symm
        · rw [List.erase_cons_tail (by simpa using hy)]
          exact hrest.cons y

/-- If an item is in one slot at most, emptying that slot leaves the others in their order. -/
theorem reduceOption_set_of_unique [DecidableEq α] (hunique : ∀ q : Nat, slots[q]? = some (some x) → q = p)
    (hitem : ∀ y, slots[p]? = some (some y) → y = x) :
    (slots.set p none).reduceOption = slots.reduceOption.erase x := by
  induction slots generalizing p with
  | nil => rfl
  | cons slot rest ih =>
    have hlater : ∀ q : Nat, rest[q]? = some (some x) → q + 1 = p := by
      intro q hq
      apply hunique
      simpa using hq
    cases p with
    | zero =>
      cases slot with
      | none =>
        have hnot : x ∉ rest.reduceOption := by
          intro hmem
          obtain ⟨q, hq⟩ := List.mem_iff_getElem?.mp (List.reduceOption_mem_iff.mp hmem)
          exact absurd (hlater q hq) (by omega)
        simp [List.erase_of_not_mem hnot]
      | some y =>
        obtain rfl := hitem y (by simp)
        simp
    | succ p =>
      have hrest :=
        ih (p := p) (fun q hq => by have := hlater q hq; omega)
        (fun y hy => hitem y (by simpa using hy))
      cases slot with
      | none => simpa using hrest
      | some y =>
        have hy : y ≠ x := by
          rintro rfl
          exact absurd (hunique 0 (by simp)) (by omega)
        simp only [List.set_cons_succ, List.reduceOption_cons_of_some, hrest]
        rw [List.erase_cons_tail (by simpa using hy)]

/-- Where no item is in two slots, each one is in its own. -/
theorem slot_unique {q : Nat} (hnodup : slots.reduceOption.Nodup) (hp : slots[p]? = some (some x))
    (hq : slots[q]? = some (some x)) : p = q := by
  induction slots generalizing p q with
  | nil => simp at hp
  | cons slot rest ih =>
    have hrest : rest.reduceOption.Nodup := by
      cases slot with
      | none => simpa using hnodup
      | some y =>
        rw [List.reduceOption_cons_of_some] at hnodup
        exact hnodup.of_cons
    have hfirst : ∀ q : Nat, slot = some x → rest[q]? ≠ some (some x) := by
      rintro q rfl hq
      rw [List.reduceOption_cons_of_some, List.nodup_cons] at hnodup
      exact hnodup.1 (List.reduceOption_mem_iff.mpr (List.mem_of_getElem? hq))
    cases p with
    | zero =>
      cases q with
      | zero => rfl
      | succ q => exact absurd (by simpa using hq) (hfirst q (by simpa using hp))
    | succ p =>
      cases q with
      | zero => exact absurd (by simpa using hp) (hfirst p (by simpa using hq))
      | succ q =>
        have hpq := ih hrest (p := p) (q := q) (by simpa using hp) (by simpa using hq)
        omega

/-- Emptying an empty slot does nothing. -/
theorem set_none_of_empty (h : ∀ x, slots[p]? ≠ some (some x)) : slots.set p none = slots := by
  apply List.ext_getElem?
  intro q
  rw [List.getElem?_set]
  split
  · next hpq =>
    subst hpq
    split
    · next hlt =>
      cases hslot : slots[p]? with
      | none => simp [hlt] at hslot
      | some slot =>
        cases slot with
        | none => rfl
        | some x => exact absurd hslot (h x)
    · next hge => simp [hge]
  · rfl

end Slots

/-! ## The ledger of a kind -/

/-- The handler of a subscription, if the subscription is to a kind of events. -/
def slotOf (kind : EventKind) (s : EventKind × String) : Option String :=
  if s.1 = kind then some s.2 else none

theorem EventBus.handlersOf_eq (b : EventBus String) (kind : EventKind) :
    b.handlersOf kind = b.handlers.filterMap (slotOf kind) := by
  rw [EventBus.handlersOf, ← List.filterMap_eq_map, List.filterMap_filter]
  apply List.filterMap_congr
  intro s _
  simp [slotOf]

/-- A subscription to another kind is of no account, and the oldest of a handler goes. -/
theorem filterMap_erase_slot (handlers : List (EventKind × String)) (kind : EventKind)
    (s : EventKind × String) :
    (handlers.erase s).filterMap (slotOf kind) =
      match slotOf kind s with
      | some name => (handlers.filterMap (slotOf kind)).erase name
      | none => handlers.filterMap (slotOf kind) := by
  induction handlers with
  | nil => cases slotOf kind s <;> rfl
  | cons h rest ih =>
    by_cases hs : h = s
    · subst hs
      rw [List.erase_cons_head]
      cases hslot : slotOf kind h with
      | none => simp [hslot]
      | some name => simp [hslot]
    · rw [List.erase_cons_tail (by simpa using hs)]
      cases hslot : slotOf kind s with
      | none =>
        rw [hslot] at ih
        simp only [List.filterMap_cons, ih]
      | some name =>
        rw [hslot] at ih
        cases hslot' : slotOf kind h with
        | none => simp only [List.filterMap_cons, hslot', ih]
        | some other =>
          -- two subscriptions to one kind that differ are of different handlers
          have hne : other ≠ name := by
            intro heq
            unfold slotOf at hslot hslot'
            grind
          simp only [List.filterMap_cons, hslot', ih]
          rw [List.erase_cons_tail (by simpa using hne)]

/-- The subscriptions to one kind of events, and how their functions were called. -/
structure Ledger where
  /-- For each subscription its handler; a subscription to another kind has an empty slot. -/
  made : List (Option String) := []
  /-- The same, where a subscription whose own function has been called has an empty slot too. -/
  own : List (Option String) := []
  /-- How many subscriptions are left of a handler, if each call of a function of its
  takes away one. -/
  left : String → Nat := fun _ => 0
  /-- The positions of the functions that have been called. -/
  taken : List Nat := []

namespace Ledger

/-- What a task adds to the ledger of a kind. -/
def noting (kind : EventKind) (l : Ledger) : BusTask → Ledger
  | .operation (.subscribe name k _) =>
    let slot := slotOf kind (k, name)
    { l with
      made := l.made ++ [slot]
      own := l.own ++ [slot]
      left := fun n => if slot = some n then l.left n + 1 else l.left n }
  | .operation (.unsubscribe position) =>
    { l with
      own := l.own.set position none
      left := fun n => if l.made[position]? = some (some n) then l.left n - 1 else l.left n
      taken := l.taken ++ [position] }
  | _ => l

/-- The ledger of a kind after tasks in the order of time. -/
def of (kind : EventKind) (tasks : List BusTask) : Ledger := tasks.foldl (noting kind) {}

end Ledger

namespace Conversation

variable {c c' : Conversation} {t : BusTask} {new : List BusTask} {kind : EventKind} {l : Ledger}

/-- What a task does to the subscriptions. -/
inductive Subscribed (c c' : Conversation) : BusTask → Prop where
  | made {name : String} {k : EventKind} {reaction : List BusOp}
      (hmade : c'.subscriptions = c.subscriptions ++ [(k, name)])
      (hhandlers : c'.bus.handlers = c.bus.handlers ++ [(k, name)]) :
      Subscribed c c' (.operation (.subscribe name k reaction))
  | taken {position : Nat} {s : EventKind × String} (hs : c.subscriptions[position]? = some s)
      (hmade : c'.subscriptions = c.subscriptions) (hhandlers : c'.bus.handlers = c.bus.handlers.erase s) :
      Subscribed c c' (.operation (.unsubscribe position))
  | other {t : BusTask} (ht : ∀ kind l, Ledger.noting kind l t = l)
      (hmade : c'.subscriptions = c.subscriptions)
      (hhandlers : c'.bus.handlers = c.bus.handlers) : Subscribed c c' t

theorem work_subscribed (h : c.work t = .ok (c', new)) : Subscribed c c' t := by
  cases t with
  | call handler e =>
    simp only [work, answer, Except.ok.injEq] at h
    split at h
    · cases h
      exact .other (fun _ _ => rfl) rfl rfl
    · cases h
      exact .other (fun _ _ => rfl) rfl rfl
  | ended called =>
    cases h
    exact .other (fun _ _ => rfl) rfl rfl
  | operation o =>
    cases o with
    | subscribe name k reaction =>
      cases h
      exact .made rfl rfl
    | unsubscribe position =>
      simp only [work, perform] at h
      split at h
      · cases h
      · next k name hs =>
        cases h
        exact .taken hs rfl rfl
    | publish e =>
      cases e with
      | error issues => cases h
      | ok e =>
        cases h
        exact .other (fun _ _ => rfl) rfl rfl
    | clear =>
      cases h
      exact .other (fun _ _ => rfl) rfl rfl
    | fail => cases h

/-! ## The rule of the latest subscriptions -/

/-- The handlers of a kind are the latest of those that were subscribed. -/
structure Kept (kind : EventKind) (c : Conversation) (l : Ledger) : Prop where
  made : l.made = c.subscriptions.map (slotOf kind)
  called : c.bus.handlersOf kind = latest l.left l.made.reduceOption
  enough : ∀ n, l.left n ≤ l.made.reduceOption.count n

theorem Kept.work (h : Kept kind c l) (hwork : c.work t = .ok (c', new)) :
    Kept kind c' (l.noting kind t) := by
  have hcalled := h.called
  rw [EventBus.handlersOf_eq] at hcalled
  cases work_subscribed hwork with
  | @made name k reaction hmade hhandlers =>
    refine ⟨?_, ?_, ?_⟩
    · simp [Ledger.noting, hmade, h.made]
    · rw [EventBus.handlersOf_eq, hhandlers, List.filterMap_append, hcalled]
      simp only [Ledger.noting, List.reduceOption_append]
      cases hslot : slotOf kind (k, name) with
      | none => simp [hslot]
      | some n => simpa [hslot, eq_comm] using (latest_concat l.left l.made.reduceOption n).symm
    · intro n
      have hn := h.enough n
      simp only [Ledger.noting, List.reduceOption_append, List.count_append]
      split
      · next hslot =>
        simp [hslot]
        omega
      · omega
  | @taken position s hs hmade hhandlers =>
    have hslot : l.made[position]? = some (slotOf kind s) := by simp [h.made, hs]
    refine ⟨h.made.trans (by rw [hmade]), ?_, ?_⟩
    · rw [EventBus.handlersOf_eq, hhandlers, filterMap_erase_slot, hcalled]
      simp only [Ledger.noting, hslot, Option.some.injEq]
      cases slotOf kind s with
      | none => simp
      | some n => simpa [eq_comm] using (latest_erase (h.enough n)).symm
    · intro n
      have hn := h.enough n
      simp only [Ledger.noting]
      split
      · omega
      · exact hn
  | other ht hmade hhandlers =>
    rw [ht]
    exact ⟨h.made.trans (by rw [hmade]), by rw [← h.called, EventBus.handlersOf, hhandlers]; rfl, h.enough⟩

/-! ## The rule of the own subscriptions -/

/-- How far the handlers of a kind are those whose own functions have not been called. -/
structure Owned (kind : EventKind) (c : Conversation) (l : Ledger) : Prop where
  made : l.made = c.subscriptions.map (slotOf kind)
  length : l.own.length = l.made.length
  of_own : ∀ {p : Nat} {n}, l.own[p]? = some (some n) → l.made[p]? = some (some n)
  untaken : ∀ {p : Nat}, p ∉ l.taken → l.own[p]? = l.made[p]?
  called : l.made.reduceOption.Nodup → c.bus.handlersOf kind = l.own.reduceOption
  counted : l.taken.Nodup → (c.bus.handlersOf kind).Perm l.own.reduceOption

/-- A new subscription has a slot of its own. -/
theorem Owned.subscribe (h : Owned kind c l) {name : String} {k : EventKind} {reaction : List BusOp}
    (hmade : c'.subscriptions = c.subscriptions ++ [(k, name)])
    (hhandlers : c'.bus.handlers = c.bus.handlers ++ [(k, name)]) :
    Owned kind c' (l.noting kind (.operation (.subscribe name k reaction))) := by
  have hlength := h.length
  have happend : c'.bus.handlersOf kind = c.bus.handlersOf kind ++
      [slotOf kind (k, name)].reduceOption := by
    rw [EventBus.handlersOf_eq, EventBus.handlersOf_eq, hhandlers, List.filterMap_append]
    cases hslot : slotOf kind (k, name) <;> simp [hslot]
  refine ⟨?_, ?_, ?_, ?_, ?_, ?_⟩
  · simp [Ledger.noting, hmade, h.made]
  · simp [Ledger.noting, hlength]
  · intro p n hp
    simp only [Ledger.noting, List.getElem?_append, hlength] at hp ⊢
    split
    · next hlt =>
      rw [if_pos hlt] at hp
      exact h.of_own hp
    · next hge =>
      rwa [if_neg hge] at hp
  · intro p hp
    simp only [Ledger.noting, List.getElem?_append, hlength, h.untaken hp]
  · intro hnodup
    simp only [Ledger.noting, List.reduceOption_append] at hnodup ⊢
    rw [happend, h.called (List.nodup_append.mp hnodup).1]
  · intro hnodup
    simp only [Ledger.noting, List.reduceOption_append]
    rw [happend]
    exact (h.counted hnodup).append_right _

/-- The function of a subscription empties its slot. -/
theorem Owned.unsubscribe (h : Owned kind c l) {position : Nat} {s : EventKind × String}
    (hs : c.subscriptions[position]? = some s) (hmade : c'.subscriptions = c.subscriptions)
    (hhandlers : c'.bus.handlers = c.bus.handlers.erase s) :
    Owned kind c' (l.noting kind (.operation (.unsubscribe position))) := by
  have hslot : l.made[position]? = some (slotOf kind s) := by simp [h.made, hs]
  have herase := filterMap_erase_slot c.bus.handlers kind s
  rw [← hhandlers, ← EventBus.handlersOf_eq, ← EventBus.handlersOf_eq] at herase
  refine ⟨h.made.trans (by rw [hmade]), ?_, ?_, ?_, ?_, ?_⟩
  · simp [Ledger.noting, h.length]
  · intro p n hp
    simp only [Ledger.noting, List.getElem?_set] at hp ⊢
    split at hp
    · simp at hp
    · exact h.of_own hp
  · intro p hp
    simp only [Ledger.noting, List.mem_append, List.mem_singleton, not_or] at hp ⊢
    rw [List.getElem?_set_ne (Ne.symm hp.2), h.untaken hp.1]
  · intro hnodup
    simp only [Ledger.noting] at hnodup ⊢
    have hcalled := h.called hnodup
    cases hkind : slotOf kind s with
    | none =>
      rw [hkind] at herase hslot
      have hempty : ∀ n, l.own[position]? ≠ some (some n) := by
        intro n hn
        simp [h.of_own hn] at hslot
      rw [herase, hcalled, set_none_of_empty hempty]
    | some name =>
      rw [hkind] at herase hslot
      rw [herase, hcalled]
      symm
      apply reduceOption_set_of_unique
      · intro q hq
        exact slot_unique hnodup (h.of_own hq) hslot
      · intro n hn
        have hsame := (h.of_own hn).symm.trans hslot
        simpa using hsame
  · intro hnodup
    simp only [Ledger.noting, List.nodup_append] at hnodup ⊢
    have hnew : position ∉ l.taken := fun hmem => hnodup.2.2 position hmem position (by simp) rfl
    have hcounted := h.counted hnodup.1
    have hown : l.own[position]? = some (slotOf kind s) := (h.untaken hnew).trans hslot
    cases hkind : slotOf kind s with
    | none =>
      rw [hkind] at herase hown
      rw [herase, set_none_of_empty (by simp [hown])]
      exact hcounted
    | some name =>
      rw [hkind] at herase hown
      rw [herase]
      exact (hcounted.erase name).trans (reduceOption_set_perm hown).symm

theorem Owned.work (h : Owned kind c l) (hwork : c.work t = .ok (c', new)) :
    Owned kind c' (l.noting kind t) := by
  cases work_subscribed hwork with
  | made hmade hhandlers => exact h.subscribe hmade hhandlers
  | taken hs hmade hhandlers => exact h.unsubscribe hs hmade hhandlers
  | other ht hmade hhandlers =>
    have hsame : c'.bus.handlersOf kind = c.bus.handlersOf kind := by
      rw [EventBus.handlersOf, hhandlers]; rfl
    rw [ht]
    refine ⟨h.made.trans (by rw [hmade]), h.length, h.of_own, h.untaken, ?_, ?_⟩
    · rw [hsame]
      exact h.called
    · rw [hsame]
      exact h.counted

/-- The calls of a publication are the steps right below it. -/
theorem Unfolds.publication_calls {steps : List BusStep} (h : Unfolds c steps c') {s : BusStep}
    (hs : s ∈ BusStep.allOf steps) {e : Event} (he : s.task = .operation (.publish (.ok e))) :
    s.inner.filterMap (·.task.call?) = (s.before.bus.handlersOf e.kind).map (·, e) := by
  obtain ⟨htasks, -⟩ := h.publication hs he
  calc s.inner.filterMap (·.task.call?)
      = (s.inner.map (·.task)).filterMap BusTask.call? := by rw [List.filterMap_map]; rfl
    _ = (s.before.bus.handlersOf e.kind).map (·, e) := by
        rw [htasks]
        simp [List.filterMap_append, List.filterMap_map, Function.comp_def, BusTask.call?]

/-- **A publication reaches the latest subscriptions of each handler**, in a conversation on a new
bus in which nothing fails, wherever subscriptions are made and taken back, be it by handlers that
are called. Each call of a function that takes back a subscription leaves one fewer of its handler,
and it is the oldest that goes. If no handler has been subscribed to the kind of the event twice,
the publication reaches those whose own functions have not been called. If no function has been
called twice, it reaches as many of each handler as that, though not always in their order. -/
theorem publications_reach_latest (b : EventBus String) (hnew : b.handlers = []) {ops : List BusOp}
    (hrun : run { bus := b } (ops.map .operation) = (c, .ok ())) :
    ∃ steps : List BusStep, steps.map (·.task) = ops.map .operation ∧ Unfolds { bus := b } steps c ∧
      ∀ past s future e, BusStep.allOf steps = past ++ s :: future →
        s.task = .operation (.publish (.ok e)) →
        let l := Ledger.of e.kind (past.map (·.task))
        let called := s.inner.filterMap (·.task.call?)
        called = (latest l.left l.made.reduceOption).map (·, e) ∧
          (l.made.reduceOption.Nodup → called = l.own.reduceOption.map (·, e)) ∧
          (l.taken.Nodup → called.Perm (l.own.reduceOption.map (·, e))) := by
  obtain ⟨steps, htasks, hunfolds⟩ := run_unfolds hrun
  refine ⟨steps, htasks, hunfolds, ?_⟩
  intro past s future e hsplit he l called
  have hmem : s ∈ BusStep.allOf steps := by simp [hsplit]
  have hcalled : called = (s.before.bus.handlersOf e.kind).map (·, e) := hunfolds.publication_calls hmem he
  have hkept : Kept e.kind s.before l := by
    have hstart : Kept e.kind { bus := b } {} :=
      ⟨rfl, by simp [EventBus.handlersOf, hnew, latest], fun _ => by simp⟩
    exact (hunfolds.moments (fun hwork hk => hk.work hwork) hstart).2 past s future hsplit
  have howned : Owned e.kind s.before l := by
    have hstart : Owned e.kind { bus := b } {} :=
      ⟨rfl, rfl, id, fun _ => rfl, fun _ => by simp [EventBus.handlersOf, hnew],
        fun _ => by simp [EventBus.handlersOf, hnew]⟩
    exact (hunfolds.moments (fun hwork ho => ho.work hwork) hstart).2 past s future hsplit
  rw [hcalled]
  refine ⟨by rw [hkept.called], ?_, ?_⟩
  · intro hnodup
    rw [howned.called hnodup]
  · intro hnodup
    exact (howned.counted hnodup).map _

/-- A bell that is subscribed before and after a horn, and that calls the function of its second
subscription when it is called. -/
def twoBells : List BusOp :=
  [.subscribe "bell" .text [.unsubscribe 2], .subscribe "horn" .text [], .subscribe "bell" .text [],
   .publish (.ok (textEvent "one")), .publish (.ok (textEvent "two"))]

/-- The second event reaches the bell after the horn: it is the first subscription of
the bell that is gone. -/
theorem publications_reach_latest_twoBells :
    ∃ (c : Conversation) (steps : List BusStep), run {} (twoBells.map .operation) = (c, .ok ()) ∧
      c.calls.reverse =
        [("bell", textEvent "one"), ("horn", textEvent "one"), ("bell", textEvent "one"),
          ("horn", textEvent "two"), ("bell", textEvent "two")] ∧
      Unfolds {} steps c ∧
      ∀ past s future e, BusStep.allOf steps = past ++ s :: future →
        s.task = .operation (.publish (.ok e)) →
        s.inner.filterMap (·.task.call?) =
          (latest (Ledger.of e.kind (past.map (·.task))).left
            (Ledger.of e.kind (past.map (·.task))).made.reduceOption).map (·, e) := by
  have hok : (run {} (twoBells.map .operation)).2 = .ok () := by cbv
  have hcalls : (run {} (twoBells.map .operation)).1.calls.reverse =
      [("bell", textEvent "one"), ("horn", textEvent "one"), ("bell", textEvent "one"),
       ("horn", textEvent "two"),
        ("bell", textEvent "two")] := by cbv
  obtain ⟨steps, -, hunfolds, hreached⟩ := publications_reach_latest {} rfl (Prod.ext rfl hok)
  refine ⟨_, steps, Prod.ext rfl hok, hcalls, hunfolds, ?_⟩
  intro past s future e hsplit he
  exact (hreached past s future e hsplit he).1

/-- A bell that is subscribed twice, and the function of its first subscription, which
is called twice. -/
def hastyBells : List BusOp :=
  [.subscribe "bell" .text [], .subscribe "bell" .text [], .unsubscribe 0, .unsubscribe 0]

/-- The function of the second subscription has not been called, and yet an event reaches nobody. -/
theorem second_call_takes_another :
    (Ledger.of .text (hastyBells.map .operation)).own.reduceOption = ["bell"] ∧
      (run {} (hastyBells.map .operation ++ [.operation (.publish (.ok (textEvent "one")))])).1.calls = [] ∧
      (run {} (hastyBells.map .operation ++
        [.operation (.publish (.ok (textEvent "one")))])).1.result = some 0 := by
  refine ⟨?_, ?_, ?_⟩
  · decide
  · cbv
  · cbv

end Conversation

end ScriptedStage
