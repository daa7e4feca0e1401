import Mathlib.Computability.StateTransition
import Mathlib.Data.List.Dedup
import Mathlib.Data.List.Nodup
import Mathlib.Data.List.Perm.Subperm
import Mathlib.Logic.Function.Basic
import Mathlib.Order.Bounds.Defs
import ScriptedStage.Block.Factory
import ScriptedStage.Catalog

/-!
Ids that are issued. A block gets its id from a factory, an actor from the ids that are there, and
both ids end in a number behind a mark. What stands before the mark may be any text, also one that
ends like an id, so that ids are distinct is a matter of reading them from the end: a number has no
mark, and neither has the token of a factory.

What is proved:
  1. `BlockFactory.idOf_inj`, `actorIdOf_inj`: an id tells what it was made of;
  2. `BlockFactory.issued_distinct`: several factories with tokens of their own never issue an id
     twice, in whatever order they are asked;
  3. `freeActorId_least`: a new actor gets the least number that is free. A free number is always
     found, because there is one more number to try than there are ids;
  4. `number_search_ends`: so no bound has to be set. Counting on from one for as long as ids are
     taken comes to an end, and it ends at this number.
-/
namespace ScriptedStage

/-! ## Reading from the end -/

/-- The last mark divides a list in one way. -/
theorem last_mark_inj {α : Type} {mark : α} {a b x y : List α} (hx : mark ∉ x) (hy : mark ∉ y)
    (h : a ++ mark :: x = b ++ mark :: y) : a = b ∧ x = y := by
  -- if one front were longer, the mark behind the other would stand in what comes
  -- after the last mark
  rcases List.append_eq_append_iff.mp h with ⟨c, rfl, hc⟩ | ⟨c, rfl, hc⟩
  · cases c with
    | nil => exact ⟨(List.append_nil a).symm, (List.cons.inj hc).2⟩
    | cons d c =>
      have hmem : mark ∈ x := by rw [(List.cons.inj hc).2]; simp
      exact absurd hmem hx
  · cases c with
    | nil => exact ⟨List.append_nil b, (List.cons.inj hc).2.symm⟩
    | cons d c =>
      have hmem : mark ∈ y := by rw [(List.cons.inj hc).2]; simp
      exact absurd hmem hy

/-- A number is written in digits only. -/
theorem not_mem_toDigits {mark : Char} (h : mark.isDigit = false) (n : Nat) : mark ∉ Nat.toDigits 10 n := by
  intro hmem
  rw [Nat.isDigit_of_mem_toDigits (by omega) (by omega) hmem] at h
  cases h

theorem toDigits_inj {m n : Nat} (h : Nat.toDigits 10 m = Nat.toDigits 10 n) : m = n := by
  calc m = Nat.ofDigitChars 10 (Nat.toDigits 10 m) 0 := Nat.ofDigitChars_ten_toDigits.symm
    _ = Nat.ofDigitChars 10 (Nat.toDigits 10 n) 0 := by rw [h]
    _ = n := Nat.ofDigitChars_ten_toDigits

/-! ## Ids of blocks -/

namespace BlockFactory

/-- An id tells its type, its token and its number if the token has no underscore. The
type may have any. -/
theorem idOf_inj {token token' type type' : String} {m n : Nat} (htoken : '_' ∉ token.toList)
    (htoken' : '_' ∉ token'.toList) (h : idOf token type m = idOf token' type' n) :
    token = token' ∧ type = type' ∧ m = n := by
  have hdigits : ∀ k, '_' ∉ Nat.toDigits 10 k := not_mem_toDigits (by decide)
  have hchars : (type.toList ++ '_' :: token.toList) ++ '_' :: Nat.toDigits 10 m =
      (type'.toList ++ '_' :: token'.toList) ++ '_' :: Nat.toDigits 10 n := by
    simpa [idOf] using congrArg String.toList h
  obtain ⟨hfront, hnumber⟩ := last_mark_inj (hdigits m) (hdigits n) hchars
  obtain ⟨htype, htokens⟩ := last_mark_inj htoken htoken' hfront
  exact ⟨String.toList_inj.mp htokens, String.toList_inj.mp htype, toDigits_inj hnumber⟩

/-- What a factory can be asked for. -/
inductive Call where
  | nextId (type : String)
  | create (type : String) (values : Option Value) (children : List Block)

/-- The id that comes out of a call, if one does, and the factory after it. A block that fails on
its values takes its id with it. -/
def answer (f : BlockFactory) : Call → Option String × BlockFactory
  | .nextId type => (some (f.nextId type).1, (f.nextId type).2)
  | .create type values children =>
    ((f.create type values children).1.toOption.map (·.id), (f.create type values children).2)

/-- The ids that come out when factories are asked one call after another. -/
def issue {ι : Type} [DecidableEq ι] (factories : ι → BlockFactory) : List (ι × Call) → List String
  | [] => []
  | (i, c) :: rest =>
    ((factories i).answer c).1.toList ++ issue (Function.update factories i ((factories i).answer c).2) rest

/-- The id of a new block is the next one, whatever its values are. -/
theorem create_id {f : BlockFactory} {type : String} {values : Option Value} {children : List Block}
    {b : Block} (h : (f.create type values children).1.toOption = some b) :
    b.id = idOf f.token type (f.issued + 1) := by
  obtain ⟨chosen, hchosen⟩ : ∃ chosen : Except Fault (List Value), (f.create type values children).1 =
      chosen.map fun vs => ⟨idOf f.token type (f.issued + 1), type, vs,
        if BlockType.isContainer type then some children else none⟩ := ⟨_, rfl⟩
  rw [hchosen] at h
  cases chosen with
  | error e => cases h
  | ok vs =>
    cases h
    rfl

/-- A call counts on by one, and the id that comes out has the new number. -/
theorem answer_parts (f : BlockFactory) (c : Call) :
    (f.answer c).2 = { f with issued := f.issued + 1 } ∧
      ∀ id ∈ (f.answer c).1, ∃ type, id = idOf f.token type (f.issued + 1) := by
  cases c with
  | nextId type =>
    refine ⟨rfl, ?_⟩
    intro id hid
    exact ⟨type, (Option.mem_some_iff.mp hid).symm⟩
  | create type values children =>
    refine ⟨rfl, ?_⟩
    intro id hid
    obtain ⟨b, hb, rfl⟩ := Option.map_eq_some_iff.mp hid
    exact ⟨type, create_id hb⟩

section Factories

variable {ι : Type} [DecidableEq ι]

theorem update_token (factories : ι → BlockFactory) (i : ι) (c : Call) (j : ι) :
    (Function.update factories i ((factories i).answer c).2 j).token = (factories j).token := by
  by_cases hj : j = i
  · subst hj
    rw [Function.update_self, (answer_parts (factories j) c).1]
  · rw [Function.update_of_ne hj]

theorem update_issued (factories : ι → BlockFactory) (i : ι) (c : Call) (j : ι) :
    (Function.update factories i ((factories i).answer c).2 j).issued =
      (factories j).issued + if j = i then 1 else 0 := by
  by_cases hj : j = i
  · subst hj
    rw [Function.update_self, (answer_parts (factories j) c).1, if_pos rfl]
  · rw [Function.update_of_ne hj, if_neg hj, Nat.add_zero]

/-- Whatever is asked, an id that comes out has the token of one of the factories and a number that
it had not reached. -/
theorem of_mem_issue {calls : List (ι × Call)} {factories : ι → BlockFactory} {id : String}
    (h : id ∈ issue factories calls) :
    ∃ i type n, id = idOf (factories i).token type n ∧ (factories i).issued < n := by
  induction calls generalizing factories with
  | nil => cases h
  | cons call rest ih =>
    obtain ⟨i, c⟩ := call
    rcases List.mem_append.mp h with hnow | hlater
    · obtain ⟨type, rfl⟩ := (answer_parts (factories i) c).2 id (Option.mem_toList.mp hnow)
      exact ⟨i, type, _, rfl, Nat.lt_succ_self _⟩
    · obtain ⟨j, type, n, rfl, hn⟩ := ih hlater
      rw [update_issued] at hn
      exact ⟨j, type, n, by rw [update_token], by omega⟩

/-- **Factories never issue an id twice.** Several factories whose tokens are distinct and have no
underscore may be asked in any order, for ids and for blocks, with type names of any form; all ids
that come out are distinct. -/
theorem issued_distinct {factories : ι → BlockFactory}
    (htokens : ∀ i j, (factories i).token = (factories j).token → i = j)
    (hplain : ∀ i, '_' ∉ (factories i).token.toList) (calls : List (ι × Call)) :
    (issue factories calls).Nodup := by
  induction calls generalizing factories with
  | nil => exact List.nodup_nil
  | cons call rest ih =>
    obtain ⟨i, c⟩ := call
    obtain ⟨-, hnow⟩ := answer_parts (factories i) c
    have hrest : (issue (Function.update factories i ((factories i).answer c).2) rest).Nodup := by
      apply ih
      · intro j k hjk
        rw [update_token, update_token] at hjk
        exact htokens j k hjk
      · intro j
        rw [update_token]
        exact hplain j
    rw [issue]
    apply List.Nodup.append _ hrest
    · -- the number of the first id is behind the factory when the others are issued
      intro id hfirst hlater
      obtain ⟨type, rfl⟩ := hnow id (Option.mem_toList.mp hfirst)
      obtain ⟨j, type', n, hsame, hn⟩ := of_mem_issue hlater
      rw [update_token] at hsame
      rw [update_issued] at hn
      obtain ⟨htoken, -, hnumber⟩ := idOf_inj (hplain i) (hplain j) hsame
      rw [if_pos (htokens i j htoken).symm, ← htokens i j htoken] at hn
      omega
    · cases ((factories i).answer c).1 with
      | none => exact List.nodup_nil
      | some id => exact List.nodup_singleton id

/-- Two factories, told apart by their tokens. -/
def twins : Bool → BlockFactory
  | false => { token := "a" }
  | true => { token := "b" }

/-- Type names that look like ids lead to no clash, and neither does a block that
fails on its values. -/
theorem issued_distinct_twins :
    let calls : List (Bool × Call) :=
      [(false, .nextId "X"), (true, .nextId "X_a_1"), (false, .create "X_a_1_b" none []),
       (true, .create "X" (some (.int 3)) []), (true, .create "X" none [])]
    (∀ i j, (twins i).token = (twins j).token → i = j) ∧ (∀ i, '_' ∉ (twins i).token.toList) ∧
      issue twins calls = ["X_a_1", "X_a_1_b_1", "X_a_1_b_a_2", "X_b_3"] ∧ (issue twins calls).Nodup := by
  intro calls
  have htokens : ∀ i j, (twins i).token = (twins j).token → i = j := by decide
  have hplain : ∀ i, '_' ∉ (twins i).token.toList := by decide
  exact ⟨htokens, hplain, by rfl, issued_distinct htokens hplain calls⟩

end Factories

end BlockFactory

/-! ## Ids of actors -/

/-- An id tells its kind and its number. -/
theorem actorIdOf_inj {kind kind' : String} {m n : Nat} (h : actorIdOf kind m = actorIdOf kind' n) :
    kind = kind' ∧ m = n := by
  have hdigits : ∀ k, '-' ∉ Nat.toDigits 10 k := not_mem_toDigits (by decide)
  have hchars : kind.toList ++ '-' :: Nat.toDigits 10 m = kind'.toList ++ '-' :: Nat.toDigits 10 n := by
    simpa [actorIdOf] using congrArg String.toList h
  obtain ⟨hkind, hnumber⟩ := last_mark_inj (hdigits m) (hdigits n) hchars
  exact ⟨String.toList_inj.mp hkind, toDigits_inj hnumber⟩

/-- Some number among one more than there are ids is not taken. -/
theorem exists_free_number (kind : String) (taken : List String) :
    ∃ n < taken.length + 1, actorIdOf kind (n + 1) ∉ taken := by
  by_contra hall
  push Not at hall
  let tried := (List.range (taken.length + 1)).map fun n => actorIdOf kind (n + 1)
  have hnodup : tried.Nodup := by
    apply List.Nodup.map _ List.nodup_range
    intro m n h
    exact Nat.succ.inj (actorIdOf_inj h).2
  have hsub : tried ⊆ taken := by
    intro i hi
    obtain ⟨n, hn, rfl⟩ := List.mem_map.mp hi
    exact hall n (List.mem_range.mp hn)
  have hle := (List.subperm_of_subset hnodup hsub).length_le
  simp only [tried, List.length_map, List.length_range] at hle
  omega

/-- A new actor gets the least number that is free. -/
theorem freeActorId_least (kind : String) (taken : List String) :
    ∃ n, 0 < n ∧ freeActorId kind taken = actorIdOf kind n ∧ actorIdOf kind n ∉ taken ∧
      ∀ m, 0 < m → m < n → actorIdOf kind m ∈ taken := by
  obtain ⟨k, hk, hfree⟩ := exists_free_number kind taken
  let free (n : Nat) : Bool := !taken.contains (actorIdOf kind n)
  have hfind : ((List.range (taken.length + 1)).map (· + 1)).find? free =
      ((List.range (taken.length + 1)).find? (free ∘ (· + 1))).map (· + 1) := List.find?_map ..
  cases hsearch : (List.range (taken.length + 1)).find? (free ∘ (· + 1)) with
  | none =>
    have hnone := List.find?_eq_none.mp hsearch k (List.mem_range.mpr hk)
    simp [free, hfree] at hnone
  | some n =>
    obtain ⟨hn, -, hless⟩ := List.find?_range_eq_some.mp hsearch
    refine ⟨n + 1, Nat.succ_pos n, ?_, by simpa [free] using hn, ?_⟩
    · rw [hsearch] at hfind
      simp only [freeActorId]
      rw [hfind]
      rfl
    · -- a smaller number was tried before
      intro m hpos hm
      have htried := hless (m - 1) (by omega)
      rw [Function.comp_apply, Nat.sub_add_cancel hpos] at htried
      simpa [free] using htried

theorem freeActorId_not_mem (kind : String) (taken : List String) : freeActorId kind taken ∉ taken := by
  obtain ⟨n, -, heq, hfree, -⟩ := freeActorId_least kind taken
  rw [heq]
  exact hfree

/-! ## The search without a bound

`freeActorId` tries a set number of candidates. Here turn follows turn for as long as ids are taken,
and a search that never ends has no result.
-/

/-- One turn of counting: on to the next number if the id with this one is taken, else
the search is over. -/
def numberAfter (kind : String) (taken : List String) (n : Nat) : Option Nat :=
  if actorIdOf kind n ∈ taken then some (n + 1) else none

/-- The search passes over numbers that are all taken. -/
theorem numberAfter_reaches {kind : String} {taken : List String} {m n : Nat} (hle : m ≤ n)
    (htaken : ∀ k, m ≤ k → k < n → actorIdOf kind k ∈ taken) :
    StateTransition.Reaches (numberAfter kind taken) m n := by
  induction hle with
  | refl => exact .refl
  | @step n hle ih =>
    have hbefore := ih fun k hk hkn => htaken k hk (by omega)
    have hturn : numberAfter kind taken n = some (n + 1) := if_pos (htaken n hle (by omega))
    exact hbefore.tail hturn

/-- **The search for a free number ends.** Whatever ids are taken, also several times and of any
form, counting on from one ends at the number of the id that a new actor gets. It is the least that
is free, and at most one more than there are distinct ids. -/
theorem number_search_ends (kind : String) (taken : List String) :
    ∃ n, n ∈ StateTransition.eval (numberAfter kind taken) 1 ∧ freeActorId kind taken = actorIdOf kind n ∧
      IsLeast {m | 1 ≤ m ∧ actorIdOf kind m ∉ taken} n ∧ n ≤ taken.dedup.length + 1 := by
  obtain ⟨n, hpos, heq, hfree, hless⟩ := freeActorId_least kind taken
  have hleast : IsLeast {m | 1 ≤ m ∧ actorIdOf kind m ∉ taken} n := by
    refine ⟨⟨hpos, hfree⟩, ?_⟩
    rintro m ⟨hm, hmfree⟩
    by_contra hlt
    exact hmfree (hless m hm (by omega))
  have hends : n ∈ StateTransition.eval (numberAfter kind taken) 1 :=
    StateTransition.mem_eval.mpr ⟨numberAfter_reaches hpos hless, if_neg hfree⟩
  -- an id that is taken several times takes one number away, so the distinct ids are counted
  obtain ⟨k, hk, hkfree⟩ := exists_free_number kind taken.dedup
  rw [List.mem_dedup] at hkfree
  have hle : n ≤ k + 1 := hleast.2 ⟨Nat.succ_pos k, hkfree⟩
  exact ⟨n, hends, heq, hleast, by omega⟩

/-- Ids that are there twice or of another kind do not count, and a gap is filled. -/
example : freeActorId "cat" ["cat-2", "cat-1", "cat-2", "dog-3", "cat-4"] = "cat-3" := by decide

end ScriptedStage
