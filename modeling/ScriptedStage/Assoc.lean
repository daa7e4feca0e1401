/-!
Tables with text keys. Entries keep the order in which their keys were first set, which is the order
in which a table is written out; setting a key again keeps its place.
-/
namespace ScriptedStage

/-- An insertion-ordered table from texts to `α`. -/
abbrev Assoc (α : Type) := List (String × α)

namespace Assoc

variable {α : Type}

/-- The value of a key, if it is set. -/
def get? : Assoc α → String → Option α
  | [], _ => none
  | (k, a) :: rest, key => if k = key then some a else get? rest key

/-- Sets a key: in place when the key is there, at the end otherwise. -/
def set : Assoc α → String → α → Assoc α
  | [], key, a => [(key, a)]
  | (k, b) :: rest, key, a => if k = key then (k, a) :: rest else (k, b) :: set rest key a

/-- Removes a key. -/
def erase (t : Assoc α) (key : String) : Assoc α := t.filter fun e => e.1 ≠ key

/-- The keys in order. -/
def keys (t : Assoc α) : List String := t.map (·.1)

@[simp] theorem get?_nil (key : String) : get? ([] : Assoc α) key = none := rfl

@[simp] theorem get?_set_self (t : Assoc α) (key : String) (a : α) :
    get? (set t key a) key = some a := by
  induction t with
  | nil => simp [set, get?]
  | cons e rest ih =>
    obtain ⟨k, b⟩ := e
    by_cases h : k = key <;> simp [set, get?, h, ih]

theorem get?_set_ne (t : Assoc α) {key other : String} (a : α) (h : other ≠ key) :
    get? (set t key a) other = get? t other := by
  induction t with
  | nil => simp [set, get?, Ne.symm h]
  | cons e rest ih =>
    obtain ⟨k, b⟩ := e
    by_cases hk : k = key
    · subst hk; simp [set, get?, Ne.symm h]
    · simp [set, get?, hk, ih]

theorem get?_eq_none {t : Assoc α} {key : String} : t.get? key = none ↔ ∀ e ∈ t, e.1 ≠ key := by
  induction t with
  | nil => simp
  | cons e t ih =>
    obtain ⟨k, a⟩ := e
    by_cases hk : k = key <;> simp [get?, hk, ih]

theorem mem_keys_iff {t : Assoc α} {key : String} : key ∈ t.keys ↔ t.get? key ≠ none := by
  rw [ne_eq, get?_eq_none, keys, List.mem_map]
  simp

theorem of_mem_set {t : Assoc α} {key : String} {a : α} {e : String × α} (h : e ∈ t.set key a) :
    e.2 = a ∨ e ∈ t := by
  induction t with
  | nil =>
    obtain rfl := List.mem_singleton.mp h
    exact .inl rfl
  | cons x t ih =>
    obtain ⟨k, b⟩ := x
    rw [set] at h
    split at h
    · rcases List.mem_cons.mp h with rfl | hmem
      · exact .inl rfl
      · exact .inr (List.mem_cons_of_mem _ hmem)
    · rcases List.mem_cons.mp h with rfl | hmem
      · exact .inr List.mem_cons_self
      · rcases ih hmem with hsame | hin
        · exact .inl hsame
        · exact .inr (List.mem_cons_of_mem _ hin)

/-- Setting a key that is there keeps the keys. -/
theorem keys_set_of_some {t : Assoc α} {key : String} {a : α} (h : t.get? key = some a) (b : α) :
    (t.set key b).keys = t.keys := by
  induction t with
  | nil => cases h
  | cons e rest ih =>
    obtain ⟨k, c⟩ := e
    by_cases hk : k = key
    · simp [set, keys, hk]
    · rw [get?, if_neg hk] at h
      rw [set, if_neg hk]
      exact congrArg (k :: ·) (ih h)

theorem keys_set_of_not_mem {t : Assoc α} {key : String} (h : key ∉ t.keys) (b : α) :
    (t.set key b).keys = t.keys ++ [key] := by
  induction t with
  | nil => rfl
  | cons e rest ih =>
    obtain ⟨k, c⟩ := e
    simp only [keys, List.map_cons, List.mem_cons, not_or] at h
    rw [set, if_neg (Ne.symm h.1)]
    exact congrArg (k :: ·) (ih h.2)

theorem nodup_keys_set {t : Assoc α} (h : t.keys.Nodup) (key : String) (b : α) :
    (t.set key b).keys.Nodup := by
  cases hbefore : t.get? key with
  | some a =>
    rw [keys_set_of_some hbefore]
    exact h
  | none =>
    have hnew : key ∉ t.keys := fun hmem => mem_keys_iff.mp hmem hbefore
    rw [keys_set_of_not_mem hnew, List.nodup_append]
    refine ⟨h, by simp, ?_⟩
    intro a ha b hb
    rw [List.mem_singleton.mp hb]
    rintro rfl
    exact hnew ha

/-- A table with distinct keys has the entries that its keys give. -/
theorem mem_iff_get? {t : Assoc α} (h : t.keys.Nodup) {key : String} {a : α} :
    (key, a) ∈ t ↔ t.get? key = some a := by
  induction t with
  | nil => simp
  | cons e t ih =>
    obtain ⟨k, b⟩ := e
    obtain ⟨hfirst, hrest⟩ := List.nodup_cons.mp h
    by_cases hk : k = key
    · subst hk
      have hnone : (k, a) ∉ t := fun hmem => hfirst (List.mem_map.mpr ⟨_, hmem, rfl⟩)
      simp [get?, hnone, eq_comm]
    · simp [get?, hk, Ne.symm hk, ih hrest]

/-- Tables with distinct keys that give the same differ at most in the order of their entries. -/
theorem perm_of_get?_eq {t u : Assoc α} (ht : t.keys.Nodup) (hu : u.keys.Nodup)
    (h : ∀ key, t.get? key = u.get? key) : t.Perm u := by
  have hentries : ∀ {v : Assoc α}, v.keys.Nodup → v.Nodup := fun hv =>
    List.Pairwise.of_map (·.1) (fun _ _ hne hsame => hne (congrArg _ hsame)) hv
  refine (List.perm_ext_iff_of_nodup (hentries ht) (hentries hu)).mpr ?_
  rintro ⟨key, a⟩
  rw [mem_iff_get? ht, mem_iff_get? hu, h]

/-! ## Entries under other keys -/

/-- The entries under other keys than the given ones. -/
def outside (t : Assoc α) (keys : List String) : Assoc α := t.filter fun e => e.1 ∉ keys

theorem get?_outside {t : Assoc α} {keys : List String} {key : String} (h : key ∉ keys) :
    (t.outside keys).get? key = t.get? key := by
  induction t with
  | nil => rfl
  | cons e t ih =>
    obtain ⟨k, a⟩ := e
    unfold outside at ih ⊢
    rw [List.filter_cons]
    split
    · simp only [get?, ih]
    · rename_i hk
      have hne : k ≠ key := by rintro rfl; simp [h] at hk
      rw [ih, get?, if_neg hne]

theorem get?_congr_outside {t t' : Assoc α} {keys : List String} (h : t'.outside keys = t.outside keys)
    {key : String} (hk : key ∉ keys) : t'.get? key = t.get? key := by
  rw [← get?_outside hk, h, get?_outside hk]

theorem outside_mono {t t' : Assoc α} {keys keys' : List String} (hsub : keys ⊆ keys')
    (h : t'.outside keys = t.outside keys) : t'.outside keys' = t.outside keys' := by
  have hdrop : ∀ u : Assoc α, (u.outside keys).outside keys' = u.outside keys' := by
    intro u
    simp only [outside, List.filter_filter]
    refine List.filter_congr fun e _ => ?_
    by_cases he : e.1 ∈ keys'
    · simp [he]
    · have : e.1 ∉ keys := fun hk => he (hsub hk)
      simp [he, this]
  rw [← hdrop t', h, hdrop t]

theorem outside_set {t : Assoc α} {keys : List String} {key : String} (hk : key ∈ keys) (a : α) :
    (t.set key a).outside keys = t.outside keys := by
  induction t with
  | nil => simp [set, outside, hk]
  | cons e t ih =>
    obtain ⟨k, b⟩ := e
    simp only [set]
    split
    · rename_i h; simp [outside, h, hk]
    · simp only [outside, List.filter_cons] at ih ⊢
      rw [ih]

theorem outside_erase {t : Assoc α} {keys : List String} {key : String} (hk : key ∈ keys) :
    (t.erase key).outside keys = t.outside keys := by
  simp only [outside, erase, List.filter_filter]
  refine List.filter_congr fun e _ => ?_
  by_cases he : e.1 = key
  · simp [he, hk]
  · simp [he]

theorem get?_erase_self (t : Assoc α) (key : String) : (t.erase key).get? key = none := by
  rw [get?_eq_none]
  intro e he
  simpa using (List.mem_filter.mp he).2

theorem get?_erase_ne {t : Assoc α} {key other : String} (h : other ≠ key) :
    (t.erase key).get? other = t.get? other :=
  get?_congr_outside (outside_erase (List.mem_singleton_self key)) (by simpa using h)

/-- A table without entries under some keys is all outside them. -/
theorem outside_eq_self {t : Assoc α} {keys : List String} (h : ∀ k ∈ keys, t.get? k = none) :
    t.outside keys = t := by
  refine List.filter_eq_self.mpr fun e he => ?_
  simp only [decide_eq_true_eq]
  intro hk
  exact get?_eq_none.mp (h e.1 hk) e he rfl

end Assoc

end ScriptedStage
