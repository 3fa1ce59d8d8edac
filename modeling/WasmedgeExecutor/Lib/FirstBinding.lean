import Mathlib

/-!
Association lists. Read as streams of bindings `(key, value)` by first match, the value a key is
bound to is that of its first binding: `keepFirst` drops every binding of a key after its
first one, and of the keys already seen, and keeps the first binding of every key it keeps,
which is all that a reader by first match can observe. Read as a hash map, `insert` replaces
the value of a present key in place and adds a new key at the end.
-/

set_option autoImplicit false
set_option relaxedAutoImplicit false

namespace WasmedgeExecutor.Lib.FirstBinding

variable {α β : Type} [DecidableEq α]

/-- The value of the first binding of `key`. -/
def firstOf : List (α × β) → α → Option β
  | [], _ => none
  | (k, v) :: rest, key => if k = key then some v else firstOf rest key

/-- The stream without the bindings of keys in `seen`, nor any binding after the first of its
key. -/
def keepFirst : List α → List (α × β) → List (α × β)
  | _, [] => []
  | seen, (k, v) :: rest =>
    if k ∈ seen then keepFirst seen rest else (k, v) :: keepFirst (seen ++ [k]) rest

@[simp] theorem firstOf_nil (key : α) : firstOf ([] : List (α × β)) key = none := rfl

theorem firstOf_cons (k key : α) (v : β) (rest : List (α × β)) :
    firstOf ((k, v) :: rest) key = if k = key then some v else firstOf rest key := rfl

@[simp] theorem firstOf_append (front back : List (α × β)) (key : α) :
    firstOf (front ++ back) key = (firstOf front key).or (firstOf back key) := by
  induction front with
  | nil => simp
  | cons binding rest ih =>
    obtain ⟨k, v⟩ := binding
    by_cases hit : k = key <;> simp [firstOf_cons, hit, ih]

theorem firstOf_eq_none {stream : List (α × β)} {key : α} :
    firstOf stream key = none ↔ key ∉ stream.map (·.1) := by
  induction stream with
  | nil => simp
  | cons binding rest ih =>
    obtain ⟨k, v⟩ := binding
    by_cases hit : k = key
    · simp [firstOf_cons, hit]
    · simp only [firstOf_cons, hit, if_false, ih, List.map_cons, List.mem_cons, not_or]
      exact ⟨fun absent => ⟨fun same => hit same.symm, absent⟩, fun both => both.2⟩

/-- `keepFirst` keeps the first binding of every key it has not seen. -/
@[simp] theorem firstOf_keepFirst (seen : List α) (stream : List (α × β)) (key : α) :
    firstOf (keepFirst seen stream) key = if key ∈ seen then none else firstOf stream key := by
  induction stream generalizing seen with
  | nil => simp [keepFirst]
  | cons binding rest ih =>
    obtain ⟨k, v⟩ := binding
    by_cases old : k ∈ seen
    · by_cases hit : k = key
      · subst hit
        simp [keepFirst, old, ih]
      · simp [keepFirst, old, ih, firstOf_cons, hit]
    · by_cases hit : k = key
      · subst hit
        simp [keepFirst, old, firstOf_cons]
      · simp [keepFirst, old, firstOf_cons, hit, ih, Ne.symm hit]

/-- Dropping the bindings of some keys leaves the first bindings of the others. -/
@[simp] theorem firstOf_filter_not_mem (keys : List α) (stream : List (α × β)) (key : α) :
    firstOf (stream.filter fun binding => binding.1 ∉ keys) key =
      if key ∈ keys then none else firstOf stream key := by
  induction stream with
  | nil => simp
  | cons binding rest ih =>
    obtain ⟨k, v⟩ := binding
    simp only [decide_not] at ih
    by_cases hit : k = key
    · subst hit
      by_cases dropped : k ∈ keys <;> simp [dropped, firstOf_cons, ih]
    · by_cases dropped : k ∈ keys <;> simp [dropped, firstOf_cons, hit, ih]

/-! ## Association lists as maps -/

/-- `HashMap::insert`: a present key keeps its place and takes the new value; a new key goes
last. -/
def insert (map : List (α × β)) (key : α) (value : β) : List (α × β) :=
  if map.any (fun entry => entry.1 = key) then
    map.map fun entry => if entry.1 = key then (key, value) else entry
  else map ++ [(key, value)]

theorem mem_insert {map : List (α × β)} {key key' : α} {value value' : β} :
    (key', value') ∈ insert map key value ↔
      (key' = key ∧ value' = value) ∨ ((key', value') ∈ map ∧ key' ≠ key) := by
  unfold insert
  split
  · case isTrue present =>
    obtain ⟨⟨k, v⟩, mem, same⟩ := List.any_eq_true.mp present
    simp only [decide_eq_true_eq] at same
    subst same
    simp only [List.mem_map, Prod.exists]
    constructor
    · rintro ⟨k', v', mem', rewritten⟩
      by_cases hit : k' = k
      · simp only [hit, if_true, Prod.mk.injEq] at rewritten
        exact .inl ⟨rewritten.1.symm, rewritten.2.symm⟩
      · simp only [hit, if_false, Prod.mk.injEq] at rewritten
        obtain ⟨rfl, rfl⟩ := rewritten
        exact .inr ⟨mem', hit⟩
    · rintro (⟨rfl, rfl⟩ | ⟨mem', miss⟩)
      · exact ⟨_, v, mem, by simp⟩
      · exact ⟨key', value', mem', by simp [miss]⟩
  · case isFalse absent =>
    have fresh : (key', value') ∈ map → key' ≠ key := fun mem same =>
      absent (List.any_eq_true.mpr ⟨_, mem, by simp [same]⟩)
    simp only [List.mem_append, List.mem_singleton, Prod.mk.injEq]
    grind

theorem firstOf_map_rebind (map : List (α × β)) (key key' : α) (value : β) :
    firstOf (map.map fun entry => if entry.1 = key then (key, value) else entry) key' =
      if key = key' then (firstOf map key').map fun _ => value else firstOf map key' := by
  induction map with
  | nil => simp
  | cons binding rest ih =>
    obtain ⟨k, v⟩ := binding
    by_cases rebound : k = key
    · subst rebound
      by_cases hit : k = key' <;> simp [firstOf_cons, hit, ih]
    · by_cases hit : k = key'
      · subst hit
        simp [firstOf_cons, rebound, Ne.symm rebound]
      · simp [firstOf_cons, rebound, hit, ih]

/-- Reading a key after an insert: the inserted value for that key, the old value for any
other. -/
@[simp] theorem firstOf_insert (map : List (α × β)) (key key' : α) (value : β) :
    firstOf (insert map key value) key' = if key = key' then some value else firstOf map key' := by
  unfold insert
  split
  · case isTrue present =>
    obtain ⟨⟨k, v⟩, mem, same⟩ := List.any_eq_true.mp present
    simp only [decide_eq_true_eq] at same
    subst same
    have bound : firstOf map k ≠ none := by
      rw [Ne, firstOf_eq_none, not_not]
      exact List.mem_map_of_mem (f := Prod.fst) mem
    rw [firstOf_map_rebind]
    by_cases hit : k = key'
    · subst hit
      obtain ⟨old, found⟩ := Option.ne_none_iff_exists'.mp bound
      simp [found]
    · simp [hit]
  · case isFalse absent =>
    have unbound : firstOf map key = none := by
      rw [firstOf_eq_none]
      intro mem
      obtain ⟨⟨k, v⟩, mem', same⟩ := List.mem_map.mp mem
      exact absent (List.any_eq_true.mpr ⟨_, mem', by simpa using same⟩)
    by_cases hit : key = key'
    · subst hit
      simp [unbound, firstOf_cons]
    · simp [hit, firstOf_cons]

theorem key_insert {map : List (α × β)} {key key' : α} {value : β} :
    (∃ v, (key', v) ∈ insert map key value) ↔ key' = key ∨ ∃ v, (key', v) ∈ map := by
  simp only [mem_insert]
  by_cases same : key' = key <;> simp [same]

end WasmedgeExecutor.Lib.FirstBinding
