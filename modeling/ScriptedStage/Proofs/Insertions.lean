import ScriptedStage.Proofs.Places

/-!
Which container an insertion into a script reaches. The search goes through the blocks in pre-order.
A block that has the id and is no container ends the search among the blocks beside it; one level up
this looks as if nothing had been found, so the search goes on behind the block that encloses it.

What is proved:
  1. `insertAmong_lands`: an insertion goes into the first container with the id that stands in the
     open. A place is in the open when no block around it has the id, and none before it beside it
     or beside one of these. Where no container with the id stands in the open, nothing is inserted.
  2. `inserts_in_the_open`: the same of a whole script, together with what it says about the first
     block that has the id: an insertion goes into that block when it is a container. When it is
     not, a container behind the block around it can take its place (`passed_refusal_inserts`), so
     the insertion is sure to fail only where the id occurs once.
-/
namespace ScriptedStage

/-- A block with one more child. -/
def Block.adopt (b new : Block) : Block := { b with children := some (b.kids ++ [new]) }

theorem Block.adopt_kids (b new : Block) : (b.adopt new).kids = b.kids ++ [new] := rfl

/-- A place that a search for the id comes to: no block around it has the id, and no earlier block
beside it or beside one of these. A block inside an earlier one may have the id. -/
def Place.Open (id : String) : Place → Prop
  | .here _ => True
  | .within i _ _ inner _ => i ≠ id ∧ inner.Open id
  | .behind first place => first.id ≠ id ∧ place.Open id

/-- Nothing before the place has the id, so it is open. -/
theorem Place.open_of_before {id : String} {place : Place} (h : ∀ c ∈ place.before, c.id ≠ id) :
    place.Open id := by
  induction place with
  | here after => trivial
  | within i type values inner after ih =>
    rw [Place.before, List.forall_mem_cons] at h
    exact ⟨h.1, ih h.2⟩
  | behind first place ih =>
    rw [Place.before, List.forall_mem_append] at h
    exact ⟨h.1 first.bare (by simp [Script.outline_cons]), ih h.2⟩

namespace Script

/-- A container with the id that stands in the open. -/
structure Admits (s : Script) (id : String) (place : Place) (b : Block) : Prop where
  fills : place.fill b = s
  reached : place.Open id
  named : b.id = id
  container : b.isContainer = true

/-- The first container with the id that stands in the open. -/
def Receives (s : Script) (id : String) (place : Place) (b : Block) : Prop :=
  s.Admits id place b ∧ ∀ other c, s.Admits id other c → place.before.length ≤ other.before.length

/-! ## One step of the search -/

theorem not_admits_nil {id : String} {place : Place} {b : Block} : ¬Admits [] id place b :=
  fun h => place.fill_ne_nil b h.fills

/-- A first block with the id hides all other places. -/
theorem admits_cons_self {id : String} {place : Place} {b c : Block} {rest : Script} (hb : b.id = id) :
    Admits (b :: rest) id place c ↔ place = .here rest ∧ c = b ∧ b.isContainer = true := by
  constructor
  · intro h
    obtain ⟨rfl, rfl⟩ | ⟨inner, rfl, -⟩ | ⟨later, rfl, -⟩ := Place.fill_eq_cons.mp h.fills
    · exact ⟨rfl, rfl, h.container⟩
    · exact absurd hb h.reached.1
    · exact absurd hb h.reached.1
  · rintro ⟨rfl, rfl, hcontainer⟩
    exact ⟨rfl, trivial, hb, hcontainer⟩

/-- A first block with another id hides nothing: a place is inside it or behind it. -/
theorem admits_cons_ne {id : String} {place : Place} {b c : Block} {rest : Script} (hb : b.id ≠ id) :
    Admits (b :: rest) id place c ↔
      (∃ inner, place = .within b.id b.type b.values inner rest ∧ Admits b.kids id inner c) ∨
      ∃ later, place = .behind b later ∧ Admits rest id later c := by
  constructor
  · intro h
    obtain ⟨rfl, rfl⟩ | ⟨inner, rfl, hin⟩ | ⟨later, rfl, hlater⟩ := Place.fill_eq_cons.mp h.fills
    · exact absurd h.named hb
    · exact .inl ⟨inner, rfl, hin, h.reached.2, h.named, h.container⟩
    · exact .inr ⟨later, rfl, hlater, h.reached.2, h.named, h.container⟩
  · rintro (⟨inner, rfl, h⟩ | ⟨later, rfl, h⟩)
    · exact ⟨Place.fill_eq_cons.mpr (.inr (.inl ⟨inner, rfl, h.fills⟩)), ⟨hb, h.reached⟩, h.named,
        h.container⟩
    · exact ⟨by rw [Place.fill, h.fills], ⟨hb, h.reached⟩, h.named, h.container⟩

/-- The outcome for a part of a script as one for the whole. -/
def Insertion.map (whole : Script → Script) : Insertion → Insertion
  | .inserted s => .inserted (whole s)
  | .refused => .refused
  | .missing => .missing

/-- What an outcome says about the script it was found for. -/
def Insertion.Lands (s : Script) (id : String) (new : Block) : Insertion → Prop
  | .inserted s' => ∃ place b, s.Receives id place b ∧ s' = place.fill (b.adopt new)
  | .refused => ∀ place b, ¬s.Admits id place b
  | .missing => ∀ place b, ¬s.Admits id place b

/-- The search below a block is the search among its children. -/
theorem insertBelow_eq (id : String) (new b : Block) :
    (insertBelow id new b).1 =
      match (insertAmong id new b.kids).outcome with
      | .inserted cs => some { b with children := some cs }
      | _ => none := by
  obtain ⟨i, type, values, _ | cs⟩ := b
  · simp [insertBelow, Block.kids, insertAmong]
  · rw [insertBelow, Block.kids, Option.getD_some]
    rcases insertAmong id new cs with ⟨_ | _ | _, notes⟩ <;> rfl

/-- One step of the search: the first block, then what it holds, then the rest. -/
theorem insertAmong_cons (id : String) (new b : Block) (rest : Script) :
    (insertAmong id new (b :: rest)).outcome =
      if b.id = id then
        if b.isContainer then .inserted (b.adopt new :: rest) else .refused
      else
        match (insertAmong id new b.kids).outcome with
        | .inserted cs => .inserted ({ b with children := some cs } :: rest)
        | _ => (insertAmong id new rest).outcome.map (b :: ·) := by
  rw [insertAmong]
  by_cases hb : b.id = id
  · rw [if_pos hb, if_pos hb]
    by_cases hc : b.isContainer = true
    · rw [if_pos hc, if_pos hc]
      rfl
    · rw [if_neg hc, if_neg hc]
  · rw [if_neg hb, if_neg hb]
    have hbelow := insertBelow_eq id new b
    rcases hsearch : insertBelow id new b with ⟨_ | b', notes⟩
    · rw [hsearch] at hbelow
      cases hkids : (insertAmong id new b.kids).outcome with
      | inserted cs => simp [hkids] at hbelow
      | refused => cases hrest : (insertAmong id new rest).outcome <;> simp [hrest, Insertion.map]
      | missing => cases hrest : (insertAmong id new rest).outcome <;> simp [hrest, Insertion.map]
    · rw [hsearch] at hbelow
      cases hkids : (insertAmong id new b.kids).outcome with
      | inserted cs =>
        rw [hkids] at hbelow
        cases hbelow
        rfl
      | refused => simp [hkids] at hbelow
      | missing => simp [hkids] at hbelow

/-- Where a container among the children of the first block is reached, it is the first one: a place
behind the block has all that the block holds before it. -/
theorem Insertion.Lands.within {id : String} {new b : Block} {rest cs : Script} (hb : b.id ≠ id)
    (h : (Insertion.inserted cs).Lands b.kids id new) :
    (Insertion.inserted ({ b with children := some cs } :: rest)).Lands (b :: rest) id new := by
  obtain ⟨inner, c, ⟨hadmits, hfirst⟩, rfl⟩ := h
  refine ⟨.within b.id b.type b.values inner rest, c,
    ⟨(admits_cons_ne hb).mpr (.inl ⟨inner, rfl, hadmits⟩), ?_⟩, rfl⟩
  intro other d hother
  obtain ⟨inner', rfl, h'⟩ | ⟨later, rfl, -⟩ := (admits_cons_ne hb).mp hother
  · exact Nat.succ_le_succ (hfirst inner' d h')
  · have hin : inner.before.length < (outline b.kids).length := by
      rw [← hadmits.fills]
      exact inner.length_before_lt c
    simp only [Place.before, outline_cons, outline_nil, List.length_append, List.length_cons]
    omega

/-- Where no child of the first block is reached, the outcome is that of the search
behind the block. -/
theorem Insertion.Lands.behind {id : String} {new b : Block} {rest : Script} {outcome : Insertion}
    (hb : b.id ≠ id) (hkids : ∀ place c, ¬Admits b.kids id place c) (h : outcome.Lands rest id new) :
    (outcome.map (b :: ·)).Lands (b :: rest) id new := by
  have hbehind : ∀ place c, Admits (b :: rest) id place c →
      ∃ later, place = .behind b later ∧ Admits rest id later c := by
    intro place c hplace
    obtain ⟨inner, -, hin⟩ | hlater := (admits_cons_ne hb).mp hplace
    · exact absurd hin (hkids inner c)
    · exact hlater
  have hnone : (∀ later c, ¬Admits rest id later c) → ∀ place c, ¬Admits (b :: rest) id place c := by
    intro hrest place c hplace
    obtain ⟨later, -, hlater⟩ := hbehind place c hplace
    exact hrest later c hlater
  cases outcome with
  | inserted rest' =>
    obtain ⟨later, c, ⟨hadmits, hfirst⟩, rfl⟩ := h
    refine ⟨.behind b later, c, ⟨(admits_cons_ne hb).mpr (.inr ⟨later, rfl, hadmits⟩), ?_⟩, rfl⟩
    intro other d hother
    obtain ⟨later', rfl, h'⟩ := hbehind other d hother
    simpa [Place.before] using hfirst later' d h'
  | refused => exact hnone h
  | missing => exact hnone h

/-! ## The whole search -/

/-- An insertion goes into the first container with the id that stands in the open. -/
theorem insertAmong_lands (id : String) (new : Block) (s : Script) :
    (insertAmong id new s).outcome.Lands s id new := by
  induction s using forest_induction with
  | nil => exact fun place b => not_admits_nil
  | cons b rest ihkids ihrest =>
    rw [insertAmong_cons]
    by_cases hb : b.id = id
    · rw [if_pos hb]
      by_cases hc : b.isContainer = true
      · rw [if_pos hc]
        refine ⟨.here rest, b, ⟨(admits_cons_self hb).mpr ⟨rfl, rfl, hc⟩, ?_⟩, rfl⟩
        intro other c _
        exact Nat.zero_le _
      · rw [if_neg hc]
        intro place c h
        exact hc ((admits_cons_self hb).mp h).2.2
    · rw [if_neg hb]
      cases hkids : (insertAmong id new b.kids).outcome with
      | inserted cs =>
        rw [hkids] at ihkids
        exact ihkids.within hb
      -- a refusal among the children is no more to the search than children without the id
      | refused =>
        rw [hkids] at ihkids
        exact ihrest.behind hb ihkids
      | missing =>
        rw [hkids] at ihkids
        exact ihrest.behind hb ihkids

theorem insert_fst (s : Script) (id : String) (new : Block) :
    (s.insert id new).1 =
      match (insertAmong id new s).outcome with
      | .inserted s' => some s'
      | _ => none := by
  rw [insert]
  rcases insertAmong id new s with ⟨_ | _ | _, notes⟩ <;> rfl

/-- A script has at most one first container in the open. -/
theorem Receives.unique {s : Script} {id : String} {p q : Place} {b c : Block} (hp : s.Receives id p b)
    (hq : s.Receives id q c) : p = q ∧ b = c :=
  Place.fill_inj (hp.1.fills.trans hq.1.fills.symm) (Nat.le_antisymm (hp.2 q c hq.1) (hq.2 p b hp.1))

theorem insert_eq_some_iff {s s' : Script} {id : String} {new : Block} :
    (s.insert id new).1 = some s' ↔ ∃ place b, s.Receives id place b ∧ s' = place.fill (b.adopt new) := by
  have hlands := insertAmong_lands id new s
  rw [insert_fst]
  cases houtcome : (insertAmong id new s).outcome with
  | inserted t =>
    rw [houtcome] at hlands
    obtain ⟨place, b, hfirst, rfl⟩ := hlands
    constructor
    · intro h
      cases h
      exact ⟨place, b, hfirst, rfl⟩
    · rintro ⟨place', b', hfirst', rfl⟩
      obtain ⟨rfl, rfl⟩ := hfirst.unique hfirst'
      rfl
  | refused =>
    rw [houtcome] at hlands
    simp only [reduceCtorEq, false_iff, not_exists, not_and]
    exact fun place b hfirst => absurd hfirst.1 (hlands place b)
  | missing =>
    rw [houtcome] at hlands
    simp only [reduceCtorEq, false_iff, not_exists, not_and]
    exact fun place b hfirst => absurd hfirst.1 (hlands place b)

theorem insert_eq_none_iff {s : Script} {id : String} {new : Block} :
    (s.insert id new).1 = none ↔ ∀ place b, ¬s.Admits id place b := by
  have hlands := insertAmong_lands id new s
  rw [insert_fst]
  cases houtcome : (insertAmong id new s).outcome with
  | inserted t =>
    rw [houtcome] at hlands
    obtain ⟨place, b, hfirst, -⟩ := hlands
    simpa using ⟨place, b, hfirst.1⟩
  | refused =>
    rw [houtcome] at hlands
    exact iff_of_true rfl hlands
  | missing =>
    rw [houtcome] at hlands
    exact iff_of_true rfl hlands

/-! ## The first block with the id -/

/-- A block with the id stands no earlier than a place before which the id does not occur. -/
theorem length_before_le {p q : Place} {b c : Block} {id : String} (h : p.fill b = q.fill c)
    (hp : ∀ d ∈ p.before, d.id ≠ id) (hc : c.id = id) : p.before.length ≤ q.before.length := by
  by_contra hlt
  have hget : (q.fill c).ids[q.before.length]? = some id := by simp [Place.ids_fill, hc]
  rw [← h, Place.ids_fill, List.getElem?_append_left (by simpa using hlt)] at hget
  obtain ⟨d, hd, hdid⟩ := List.mem_map.mp (List.mem_of_getElem? hget)
  exact hp d hd hdid

/-- An id that occurs once does not occur before the block that has it. -/
theorem before_ne_of_count {s : Script} {id : String} {place : Place} {b : Block} (hs : place.fill b = s)
    (hb : b.id = id) (hcount : s.ids.count id = 1) : ∀ c ∈ place.before, c.id ≠ id := by
  have hnone : (place.before.map (·.id)).count id = 0 := by
    rw [← hs, Place.ids_fill, hb, List.count_append, List.count_cons_self] at hcount
    omega
  intro c hc hcid
  exact List.count_eq_zero.mp hnone (List.mem_map.mpr ⟨c, hc, hcid⟩)

/-- An insertion goes into the first container with the id, in pre-order, that stands in the
open; without one the script stays as it is. So it goes into the first block with the id when
that is a container, and it comes to nothing when no block has the id or when one block has it
that is no container. -/
theorem inserts_in_the_open (s : Script) (id : String) (new : Block) :
    (∀ s', (s.insert id new).1 = some s' ↔
      ∃ place b, s.Receives id place b ∧ s' = place.fill (b.adopt new)) ∧
    ((s.insert id new).1 = none ↔ ∀ place b, ¬s.Admits id place b) ∧
    (s.findBlock id = none → (s.insert id new).1 = none) ∧
    (∀ b, s.findBlock id = some b → b.isContainer = true →
      ∃ place : Place, place.fill b = s ∧ (∀ c ∈ place.before, c.id ≠ id) ∧
        (s.insert id new).1 = some (place.fill (b.adopt new))) ∧
    ∀ b, s.findBlock id = some b → b.isContainer = false → s.ids.count id = 1 →
      (s.insert id new).1 = none := by
  refine ⟨fun s' => insert_eq_some_iff, insert_eq_none_iff, ?_, ?_, ?_⟩
  · intro hfind
    refine insert_eq_none_iff.mpr fun place b hadmits => findBlock_eq_none_iff.mp hfind ?_
    rw [← hadmits.fills, Place.ids_fill, hadmits.named]
    exact List.mem_append_right _ List.mem_cons_self
  · intro b hfind hcontainer
    obtain ⟨place, hfills, hid, hbefore⟩ := exists_place_of_findBlock hfind
    have hadmits : s.Admits id place b := ⟨hfills, Place.open_of_before hbefore, hid, hcontainer⟩
    have hfirst : s.Receives id place b := by
      refine ⟨hadmits, fun other c hother => ?_⟩
      exact length_before_le (hfills.trans hother.fills.symm) hbefore hother.named
    exact ⟨place, hfills, hbefore, insert_eq_some_iff.mpr ⟨place, b, hfirst, rfl⟩⟩
  · intro b hfind hcontainer hcount
    obtain ⟨place, hfills, hid, hbefore⟩ := exists_place_of_findBlock hfind
    refine insert_eq_none_iff.mpr fun other c hother => ?_
    -- the only block with the id is the one that was found
    have hsame : place.fill b = other.fill c := hfills.trans hother.fills.symm
    have hlength : place.before.length = other.before.length := by
      apply Nat.le_antisymm
      · exact length_before_le hsame hbefore hother.named
      · exact length_before_le hsame.symm (before_ne_of_count hother.fills hother.named hcount) hid
    obtain ⟨-, rfl⟩ := Place.fill_inj hsame hlength
    rw [hother.container] at hcontainer
    cases hcontainer

/-- A loop that holds a block with the id of the loop after it. -/
def shadowedLoop : Script :=
  [⟨"p", BlockType.repeatTimes, [], some [⟨"x", BlockType.say, [], none⟩]⟩,
   ⟨"x", BlockType.repeatTimes, [], some []⟩]

/-- The first block with the id is no container, yet the insertion is made: the refusal inside the
first loop is passed over, and the second loop takes the block. -/
theorem passed_refusal_inserts :
    (shadowedLoop.findBlock "x").map (·.isContainer) = some false ∧
      ((shadowedLoop.insert "x" ⟨"n", BlockType.moveSteps, [], none⟩).1.map ids) =
        some ["p", "x", "x", "n"] := by
  decide

end Script

end ScriptedStage
