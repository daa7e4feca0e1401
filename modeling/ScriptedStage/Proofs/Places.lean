import ScriptedStage.Proofs.TreeEdits

/-!
Places in a script. A place is a script with one block left out, at any depth; filling it with a
block gives a script. The edits that concern one block go to a place and fill it with another block,
and everything that stands around the place stays as it is.

What is proved:
  1. `Place.outline_fill`: in pre-order a filled script has the blocks before the place, then the
     block with all it holds, then the blocks after the place, and the first and the last do not
     depend on the filling.
  2. `Place.fill_inj`: a script has one place for each number of blocks before it.
  3. `Script.exists_place_of_findFirst`: the first block of a kind fills a place before which there
     is none of the kind, and `Script.findFirst_fill`: such a block is found.
  4. `Script.replace_fill`: a replacement by id goes to the first place whose block has the id.
  5. `Script.replaces_found`: a search by id and a replacement by id choose the same block.
-/
namespace ScriptedStage

/-- A block without what it holds. -/
def Block.bare (b : Block) : Block := { b with children := none }

@[simp] theorem Block.bare_id (b : Block) : b.bare.id = b.id := rfl

namespace Script

/-- The blocks of a script in pre-order, each without what it holds. -/
def outline (s : Script) : List Block := s.preorder.map Block.bare

@[simp] theorem outline_nil : outline [] = [] := rfl

theorem outline_cons (b : Block) (s : Script) :
    outline (b :: s) = b.bare :: (outline b.kids ++ outline s) := by
  simp [outline, preorder, Block.preorderAll, Block.preorder_eq b]

theorem ids_eq_outline (s : Script) : s.ids = s.outline.map (·.id) := by
  simp [ids, outline, Function.comp_def]

theorem forall_id_ne {s : Script} {id : String} : (∀ c ∈ s.preorder, c.id ≠ id) ↔ id ∉ s.ids := by
  simp only [ids, List.mem_map, not_exists, not_and, ne_eq]

/-- What does not depend on what a block holds is true throughout the outline if it is
true of all blocks. -/
theorem forall_outline {s : Script} {P : Block → Prop} (hP : ∀ c : Block, P c.bare ↔ P c) :
    (∀ c ∈ s.outline, P c) ↔ ∀ c ∈ s.preorder, P c := by
  simp only [outline, List.forall_mem_map, hP]

/-- Induction over all blocks of a script: what holds of the children of a block and of the blocks
after it holds of the two together. -/
theorem forest_induction {motive : Script → Prop} (nil : motive [])
    (cons : ∀ b rest, motive b.kids → motive rest → motive (b :: rest)) : ∀ s, motive s
  | [] => nil
  | ⟨_, _, _, none⟩ :: rest => cons _ rest nil (forest_induction nil cons rest)
  | ⟨_, _, _, some cs⟩ :: rest =>
    cons _ rest (forest_induction nil cons cs) (forest_induction nil cons rest)

end Script

/-- A script with one block left out. -/
inductive Place where
  /-- The block comes first, before the blocks `after`. -/
  | here (after : Script)
  /-- The first block encloses it. -/
  | within (id type : String) (values : List Value) (inner : Place) (after : Script)
  /-- It comes after the first block. -/
  | behind (first : Block) (place : Place)

namespace Place

/-- The script with a block put in the place. -/
def fill : Place → Block → Script
  | here after, b => b :: after
  | within id type values inner after, b => ⟨id, type, values, some (inner.fill b)⟩ :: after
  | behind first place, b => first :: place.fill b

/-- The blocks before the place, in pre-order, with those that enclose it. -/
def before : Place → List Block
  | here _ => []
  | within id type values inner _ => ⟨id, type, values, none⟩ :: inner.before
  | behind first place => Script.outline [first] ++ place.before

/-- The blocks after the place and all that fills it, in pre-order. -/
def beyond : Place → List Block
  | here after => after.outline
  | within _ _ _ inner after => inner.beyond ++ after.outline
  | behind _ place => place.beyond

/-- What is true before a place behind a block is true of the block, of all it holds and of
what comes between. -/
theorem forall_before_behind {first : Block} {later : Place} {P : Block → Prop}
    (hP : ∀ c : Block, P c.bare ↔ P c) :
    (∀ c ∈ (behind first later).before, P c) ↔
      P first ∧ (∀ c ∈ Script.preorder first.kids, P c) ∧ ∀ c ∈ later.before, P c := by
  rw [before, List.forall_mem_append, Script.outline_cons, Script.outline_nil, List.append_nil,
    List.forall_mem_cons, Script.forall_outline hP, hP, and_assoc]

theorem fill_ne_nil (place : Place) (b : Block) : place.fill b ≠ [] := by
  cases place <;> simp [fill]

/-- The place determines the outline around the block that fills it. -/
theorem outline_fill (place : Place) (b : Block) :
    (place.fill b).outline = place.before ++ (Script.outline [b] ++ place.beyond) := by
  induction place with
  | here after => simp [fill, before, beyond, Script.outline_cons]
  | within id type values inner after ih =>
    simp [fill, before, beyond, Script.outline_cons, Block.kids, Block.bare, ih]
  | behind first place ih => simp [fill, before, beyond, Script.outline_cons, ih]

/-- In pre-order the block stands with all it holds between the blocks before the place and those
after it. The blocks around the place hold it, so they are told apart from the outline. -/
theorem preorder_fill (place : Place) (b : Block) :
    ∃ front back, (place.fill b).preorder = front ++ (b.preorder ++ back) ∧
      front.map Block.bare = place.before ∧
      back.map Block.bare = place.beyond := by
  induction place with
  | here after => exact ⟨[], after.preorder, rfl, rfl, rfl⟩
  | within id type values inner after ih =>
    obtain ⟨front, back, hsplit, hfront, hback⟩ := ih
    refine ⟨⟨id, type, values, some (inner.fill b)⟩ :: front, back ++ after.preorder, ?_, ?_, ?_⟩
    · have hinner : Block.preorderAll (inner.fill b) = front ++ (b.preorder ++ back) := hsplit
      simp [fill, Script.preorder, Block.preorderAll, Block.preorder, hinner]
    · rw [List.map_cons, hfront]
      rfl
    · rw [List.map_append, hback]
      rfl
  | behind first later ih =>
    obtain ⟨front, back, hsplit, hfront, hback⟩ := ih
    refine ⟨first.preorder ++ front, back, ?_, ?_, hback⟩
    · have hlater : Block.preorderAll (later.fill b) = front ++ (b.preorder ++ back) := hsplit
      simp [fill, Script.preorder, Block.preorderAll, hlater]
    · simp [before, hfront, Script.outline, Script.preorder, Block.preorderAll]

theorem mem_preorder_fill (place : Place) (b : Block) : b ∈ (place.fill b).preorder := by
  obtain ⟨front, back, hsplit, -, -⟩ := place.preorder_fill b
  rw [hsplit, Block.preorder_eq]
  exact List.mem_append_right front List.mem_cons_self

/-- In pre-order the block stands behind as many blocks as the place has before it. -/
theorem ids_fill (place : Place) (b : Block) :
    (place.fill b).ids = place.before.map (·.id) ++ b.id ::
      (Script.ids b.kids ++ place.beyond.map (·.id)) := by
  simp [Script.ids_eq_outline, outline_fill, Script.outline_cons]

theorem length_before_lt (place : Place) (b : Block) :
    place.before.length < (place.fill b).outline.length := by
  rw [outline_fill, Script.outline_cons, List.length_append]
  simp only [List.length_append, List.length_cons]
  omega

/-- A place of a script is at its first block, inside it or after it. -/
theorem fill_eq_cons {place : Place} {b c : Block} {rest : Script} :
    place.fill c = b :: rest ↔
      (place = here rest ∧ c = b) ∨
      (∃ inner, place = within b.id b.type b.values inner rest ∧ inner.fill c = b.kids) ∨
      ∃ later, place = behind b later ∧ later.fill c = rest := by
  obtain ⟨id, type, values, children⟩ := b
  cases place with
  | here after => simp [fill, and_comm]
  | within i t v inner after =>
    have hkids : some (inner.fill c) = children ↔ inner.fill c = children.getD [] := by
      cases children with
      | none => simp [fill_ne_nil]
      | some cs => simp
    simp only [fill, List.cons.injEq, Block.mk.injEq, reduceCtorEq, within.injEq, false_and, exists_false,
      or_false, false_or, Block.kids, hkids]
    constructor
    · rintro ⟨⟨rfl, rfl, rfl, h⟩, rfl⟩
      exact ⟨inner, ⟨rfl, rfl, rfl, rfl, rfl⟩, h⟩
    · rintro ⟨_, ⟨rfl, rfl, rfl, rfl, rfl⟩, h⟩
      exact ⟨⟨rfl, rfl, rfl, h⟩, rfl⟩
  | behind first later => simp [fill]

/-- How many blocks come before a place tells it from the other places of the script. -/
theorem fill_inj {p q : Place} {b c : Block} (h : p.fill b = q.fill c)
    (hlength : p.before.length = q.before.length) : p = q ∧ b = c := by
  generalize hs : p.fill b = s at h
  induction s using Script.forest_induction generalizing p q with
  | nil => exact absurd hs (fill_ne_nil p b)
  | cons d rest ihkids ihrest =>
    -- the places inside `d` have at most as many blocks before them as `d` holds, those
    -- behind it have more
    have hinside : ∀ (inner : Place) (e : Block), inner.fill e = d.kids →
        inner.before.length < (Script.outline d.kids).length := by
      intro inner e he
      rw [← he]
      exact length_before_lt inner e
    obtain ⟨rfl, rfl⟩ | ⟨inner, rfl, hin⟩ | ⟨later, rfl, hlat⟩ := fill_eq_cons.mp hs <;>
    obtain ⟨rfl, rfl⟩ | ⟨inner', rfl, hin'⟩ | ⟨later', rfl, hlat'⟩ := fill_eq_cons.mp h.symm <;>
    simp only [before, List.length_nil, List.length_cons, List.length_append, Script.outline_cons,
      Script.outline_nil, Nat.add_left_inj, Nat.add_right_inj] at hlength
    · exact ⟨rfl, rfl⟩
    · omega
    · omega
    · omega
    · obtain ⟨rfl, rfl⟩ := ihkids hlength hin hin'.symm
      exact ⟨rfl, rfl⟩
    · have := hinside inner b hin
      omega
    · omega
    · have := hinside inner' c hin'
      omega
    · obtain ⟨rfl, rfl⟩ := ihrest hlength hlat hlat'.symm
      exact ⟨rfl, rfl⟩

end Place

namespace Script

/-! ## Searches -/

/-- The first block of a kind is looked for in the first block, in what it holds and in the rest. -/
theorem findFirst_cons (b : Block) (s : Script) (p : Block → Bool) :
    findFirst (b :: s) p = if p b then some b else (findFirst b.kids p).or (findFirst s p) := by
  simp only [findFirst, preorder, Block.preorderAll, Block.preorder_eq b, List.cons_append, List.find?_cons,
    List.find?_append]
  cases p b <;> rfl

/-- The block that is found is the first of its kind: there is none before its place. -/
theorem exists_place_of_findFirst {s : Script} {p : Block → Bool} {b : Block}
    (hp : ∀ c : Block, p c.bare = p c) (h : s.findFirst p = some b) :
    ∃ place : Place, place.fill b = s ∧ p b = true ∧ ∀ c ∈ place.before, p c = false := by
  induction s using forest_induction with
  | nil => simp [findFirst, preorder, Block.preorderAll] at h
  | cons d rest ihkids ihrest =>
    rw [findFirst_cons] at h
    cases hd : p d with
    | true =>
      rw [hd, if_pos rfl] at h
      cases h
      exact ⟨.here rest, rfl, hd, by simp [Place.before]⟩
    | false =>
      rw [hd, if_neg Bool.false_ne_true] at h
      cases hk : findFirst d.kids p with
      | none =>
        rw [hk, Option.none_or] at h
        obtain ⟨later, hlater, hb, hbefore⟩ := ihrest h
        refine ⟨.behind d later, by rw [Place.fill, hlater], hb, ?_⟩
        have hkids : ∀ c ∈ preorder d.kids, p c = false := by simpa [findFirst] using hk
        exact (Place.forall_before_behind fun c => by rw [hp c]).mpr ⟨hd, hkids, hbefore⟩
      | some k =>
        rw [hk] at h
        cases h
        obtain ⟨inner, hinner, hb, hbefore⟩ := ihkids hk
        refine ⟨.within d.id d.type d.values inner rest, ?_, hb, ?_⟩
        · exact Place.fill_eq_cons.mpr (.inr (.inl ⟨inner, rfl, hinner⟩))
        · rw [Place.before, List.forall_mem_cons]
          exact ⟨(hp d).trans hd, hbefore⟩

/-- A block that is the first of its kind is found. -/
theorem findFirst_fill {place : Place} {b : Block} {p : Block → Bool} (hp : ∀ c : Block, p c.bare = p c)
    (hb : p b = true) (hbefore : ∀ c ∈ place.before, p c = false) :
    (place.fill b).findFirst p = some b := by
  obtain ⟨front, back, hsplit, hfront, -⟩ := place.preorder_fill b
  have hnone : front.find? p = none := by
    rw [List.find?_eq_none]
    intro c hc
    rw [← hp c, hbefore c.bare (hfront ▸ List.mem_map_of_mem hc)]
    exact Bool.false_ne_true
  rw [findFirst, hsplit, List.find?_append, hnone, Option.none_or, Block.preorder_eq, List.cons_append,
    List.find?_cons_of_pos hb]

theorem findBlock_eq_none_iff {s : Script} {id : String} : s.findBlock id = none ↔ id ∉ s.ids := by
  simp only [findBlock, findFirst, ids, List.find?_eq_none, List.mem_map, decide_eq_true_eq,
    not_exists, not_and]

/-- The block found for an id is the first: the id does not occur before its place. -/
theorem exists_place_of_findBlock {s : Script} {id : String} {b : Block} (h : s.findBlock id = some b) :
    ∃ place : Place, place.fill b = s ∧ b.id = id ∧ ∀ c ∈ place.before, c.id ≠ id := by
  obtain ⟨place, hfills, hid, hbefore⟩ := exists_place_of_findFirst (fun c => by rw [Block.bare_id]) h
  exact ⟨place, hfills, of_decide_eq_true hid, fun c hc => of_decide_eq_false (hbefore c hc)⟩

/-! ## Replacements -/

mutual
theorem replaceBelow_absent {id : String} {new : Block} : ∀ {b : Block}, id ∉ ids b.kids →
    replaceBelow id new b = none
  | ⟨_, _, _, none⟩, _ => rfl
  | ⟨_, _, _, some cs⟩, h => by
    have hnone : replaceAmong id new cs = none := replaceAmong_absent h
    rw [replaceBelow, hnone]
    rfl
/-- An id that does not occur is not replaced. -/
theorem replaceAmong_absent {id : String} {new : Block} : ∀ {bs : List Block}, id ∉ ids bs →
    replaceAmong id new bs = none
  | [], _ => rfl
  | b :: bs, h => by
    simp only [ids_cons, List.mem_cons, List.mem_append, not_or] at h
    obtain ⟨hown, hbelow, hrest⟩ := h
    rw [replaceAmong, if_neg (Ne.symm hown), replaceBelow_absent hbelow, replaceAmong_absent hrest]
    rfl
end

/-- A replacement goes to the first place whose block has the id. -/
theorem replace_fill {place : Place} {b new : Block} {id : String} (hb : b.id = id)
    (hbefore : ∀ c ∈ place.before, c.id ≠ id) : (place.fill b).replace id new = some (place.fill new) := by
  unfold replace
  induction place with
  | here after => rw [Place.fill, replaceAmong, if_pos hb, Place.fill]
  | within i type values inner after ih =>
    rw [Place.before, List.forall_mem_cons] at hbefore
    rw [Place.fill, replaceAmong, if_neg hbefore.1, replaceBelow, ih hbefore.2]
    rfl
  | behind first later ih =>
    obtain ⟨hfirst, hkids, hlater⟩ := (Place.forall_before_behind fun _ => Iff.rfl).mp hbefore
    rw [Place.fill, replaceAmong, if_neg hfirst, replaceBelow_absent (forall_id_ne.mp hkids), ih hlater]
    rfl

/-- **A replacement goes to the block that is found.** If no block is found for an id, the script
stays as it is. Otherwise the block that is found stands with all it holds behind blocks that do not
have the id, and the new block takes its place with all that it holds itself; the blocks before and
after keep their order, ids, types and values. -/
theorem replaces_found (s : Script) (id : String) (new : Block) :
    match s.findBlock id with
    | none => s.replace id new = none
    | some b => ∃ (place : Place) (front back : List Block),
        place.fill b = s ∧ s.replace id new = some (place.fill new) ∧
        s.preorder = front ++ (b.preorder ++ back) ∧ (∀ c ∈ front, c.id ≠ id) ∧
        (place.fill new).preorder.map Block.bare = (front ++ (new.preorder ++ back)).map Block.bare := by
  cases hfound : s.findBlock id with
  | none =>
    -- what the search does not find is not among the ids
    have habsent : id ∉ s.ids := findBlock_eq_none_iff.mp hfound
    exact replaceAmong_absent habsent
  | some b =>
    obtain ⟨place, hfills, hid, hbefore⟩ := exists_place_of_findBlock hfound
    obtain ⟨front, back, hsplit, hfront, hback⟩ := place.preorder_fill b
    obtain ⟨front', back', hsplit', hfront', hback'⟩ := place.preorder_fill new
    have hreplaced : s.replace id new = some (place.fill new) := by
      rw [← hfills]
      exact replace_fill hid hbefore
    refine ⟨place, front, back, hfills, hreplaced, by rw [← hfills, hsplit], ?_, ?_⟩
    · intro c hc
      apply hbefore c.bare
      rw [← hfront]
      exact List.mem_map_of_mem hc
    · -- what stands around the place is the same for every block that fills it
      rw [hsplit']
      simp only [List.map_append]
      rw [hfront', hback', hfront, hback]

end Script

end ScriptedStage
