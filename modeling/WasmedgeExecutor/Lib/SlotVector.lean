import Mathlib

/-!
A vector of slots addressed by 32-bit handles: creating an object pushes it and hands out the
old length as its handle, tearing a handle down empties its slot, and a lookup reads the slot.

What a user of the vector sees is a stream of events, each creation with the handle it was
handed and each teardown. `live` reads that stream as a map from handles to objects, the
abstract state; `Tracks` says that the slots hold that map and that the handles were handed
out as `0, 1, 2, ...`. It holds of the empty vector, every push and every teardown keeps it
while fewer than `2 ^ 32` objects have been created, and under it a lookup succeeds exactly on
the handles the map defines.
-/

set_option autoImplicit false
set_option relaxedAutoImplicit false

namespace WasmedgeExecutor.Lib.SlotVector

variable {α : Type}

/-- What happened to a slot vector. -/
inductive SlotEvent (α : Type)
  /-- An object was stored, and its handle handed out. -/
  | created (handle : UInt32) (object : α)
  /-- The slot of a handle was emptied. -/
  | tornDown (handle : UInt32)

/-- The object in the slot of a handle; an error names a handle past the end or an emptied slot. -/
def lookupSlot (slots : List (Option α)) (handle : UInt32) (nonExistent tornDown : String) :
    Except String α :=
  match slots[handle.toNat]? with
  | none => .error nonExistent
  | some none => .error tornDown
  | some (some object) => .ok object

/-- Empty the slot of a handle; an error names a handle past the end or an emptied slot. -/
def teardownSlot (slots : List (Option α)) (handle : UInt32) (nonExistent doubleTeardown : String) :
    Except String (List (Option α)) :=
  match slots[handle.toNat]? with
  | none => .error nonExistent
  | some none => .error doubleTeardown
  | some (some _) => .ok (slots.set handle.toNat none)

/-- Store an object in a new slot; its handle is the old length, cast to 32 bits. -/
def pushSlot (slots : List (Option α)) (object : α) : UInt32 × List (Option α) :=
  (UInt32.ofNat slots.length, slots ++ [some object])

/-- One event applied to the map from handles to objects. -/
def applyEvent (live : Nat → Option α) : SlotEvent α → Nat → Option α
  | .created handle object => fun i => if i = handle.toNat then some object else live i
  | .tornDown handle => fun i => if i = handle.toNat then none else live i

/-- The object each handle names after a stream of events: that of its last creation, unless
it was torn down since. -/
def live (events : List (SlotEvent α)) : Nat → Option α :=
  events.foldl applyEvent fun _ => none

def handedOut (events : List (SlotEvent α)) : List UInt32 :=
  events.filterMap fun
    | .created handle _ => some handle
    | .tornDown _ => none

@[simp] theorem live_nil : live ([] : List (SlotEvent α)) = fun _ => none := rfl

@[simp] theorem live_append_event (events : List (SlotEvent α)) (event : SlotEvent α) :
    live (events ++ [event]) = applyEvent (live events) event := by
  simp [live, List.foldl_append]

@[simp] theorem handedOut_nil : handedOut ([] : List (SlotEvent α)) = [] := rfl

@[simp] theorem handedOut_append_created (events : List (SlotEvent α)) (handle : UInt32) (object : α) :
    handedOut (events ++ [.created handle object]) = handedOut events ++ [handle] := by
  simp [handedOut]

@[simp] theorem handedOut_append_tornDown (events : List (SlotEvent α)) (handle : UInt32) :
    handedOut (events ++ [.tornDown handle]) = handedOut events := by
  simp [handedOut]

/-- The slots hold the map the events define, and the handles were handed out in order. -/
structure Tracks (slots : List (Option α)) (events : List (SlotEvent α)) : Prop where
  handedOut_eq : handedOut events = (List.range slots.length).map UInt32.ofNat
  slot_eq : ∀ i, i < slots.length → slots[i]? = some (live events i)
  unused : ∀ i, slots.length ≤ i → live events i = none

theorem tracks_nil : Tracks ([] : List (Option α)) [] :=
  ⟨rfl, fun _ small => absurd small (Nat.not_lt_zero _), fun _ _ => rfl⟩

theorem length_pushSlot (slots : List (Option α)) (object : α) :
    (pushSlot slots object).2.length = slots.length + 1 := by
  simp [pushSlot]

theorem tracks_pushSlot {slots : List (Option α)} {events : List (SlotEvent α)}
    (tracks : Tracks slots events) (object : α) (room : slots.length < 2 ^ 32) :
    Tracks (pushSlot slots object).2 (events ++ [.created (pushSlot slots object).1 object]) := by
  have exact : (UInt32.ofNat slots.length).toNat = slots.length := by
    rw [UInt32.toNat_ofNat', Nat.mod_eq_of_lt room]
  simp only [pushSlot]
  refine ⟨?_, fun i small => ?_, fun i large => ?_⟩
  · rw [handedOut_append_created, tracks.handedOut_eq, List.length_append, List.length_singleton,
      List.range_succ, List.map_append, List.map_singleton]
  · simp only [live_append_event, applyEvent, exact]
    by_cases last : i = slots.length
    · subst last
      simp
    · have earlier : i < slots.length := by
        simp only [List.length_append, List.length_singleton] at small
        omega
      rw [List.getElem?_append_left earlier, tracks.slot_eq i earlier, if_neg last]
  · simp only [List.length_append, List.length_singleton] at large
    simp only [live_append_event, applyEvent, exact, if_neg (Nat.ne_of_gt large)]
    exact tracks.unused i (by omega)

theorem teardownSlot_ok_set {slots slots' : List (Option α)} {handle : UInt32}
    {nonExistent doubleTeardown : String}
    (tornDown : teardownSlot slots handle nonExistent doubleTeardown = .ok slots') :
    slots' = slots.set handle.toNat none := by
  unfold teardownSlot at tornDown
  split at tornDown
  · cases tornDown
  · cases tornDown
  · cases tornDown
    rfl

theorem tracks_teardownSlot {slots slots' : List (Option α)} {events : List (SlotEvent α)}
    {handle : UInt32} {nonExistent doubleTeardown : String}
    (tracks : Tracks slots events) (tornDown : teardownSlot slots handle nonExistent doubleTeardown = .ok slots') :
    Tracks slots' (events ++ [.tornDown handle]) := by
  unfold teardownSlot at tornDown
  split at tornDown
  · cases tornDown
  · cases tornDown
  · case _ object occupied =>
    simp only [Except.ok.injEq] at tornDown
    subst tornDown
    have inside : handle.toNat < slots.length := (List.getElem?_eq_some_iff.mp occupied).1
    refine ⟨?_, fun i small => ?_, fun i large => ?_⟩
    · rw [handedOut_append_tornDown, tracks.handedOut_eq, List.length_set]
    · rw [List.length_set] at small
      simp only [live_append_event, applyEvent, List.getElem?_set]
      by_cases hit : i = handle.toNat
      · simp [hit, inside]
      · rw [if_neg (Ne.symm hit), if_neg hit, tracks.slot_eq i small]
    · rw [List.length_set] at large
      simp only [live_append_event, applyEvent, if_neg (by omega : i ≠ handle.toNat)]
      exact tracks.unused i large

theorem lookupSlot_eq_ok {slots : List (Option α)} {events : List (SlotEvent α)}
    (tracks : Tracks slots events) (handle : UInt32) (nonExistent tornDown : String) (object : α) :
    lookupSlot slots handle nonExistent tornDown = .ok object ↔
      live events handle.toNat = some object := by
  unfold lookupSlot
  by_cases inside : handle.toNat < slots.length
  · rw [tracks.slot_eq _ inside]
    cases live events handle.toNat <;> simp
  · rw [List.getElem?_eq_none (by omega), tracks.unused _ (by omega)]
    simp

theorem getElem?_of_dead {slots : List (Option α)} {events : List (SlotEvent α)}
    (tracks : Tracks slots events) {handle : UInt32} (dead : live events handle.toNat = none) :
    slots[handle.toNat]? = none ∨ slots[handle.toNat]? = some none := by
  by_cases inside : handle.toNat < slots.length
  · exact .inr (by rw [tracks.slot_eq _ inside, dead])
  · exact .inl (List.getElem?_eq_none (by omega))

theorem teardownSlot_fails {slots : List (Option α)} {events : List (SlotEvent α)}
    (tracks : Tracks slots events) {handle : UInt32} (dead : live events handle.toNat = none)
    (nonExistent doubleTeardown : String) :
    ∃ message, teardownSlot slots handle nonExistent doubleTeardown = .error message := by
  unfold teardownSlot
  rcases getElem?_of_dead tracks dead with past | empty
  · rw [past]
    exact ⟨_, rfl⟩
  · rw [empty]
    exact ⟨_, rfl⟩

theorem handedOut_nodup {slots : List (Option α)} {events : List (SlotEvent α)}
    (tracks : Tracks slots events) (fits : slots.length ≤ 2 ^ 32) : (handedOut events).Nodup := by
  rw [tracks.handedOut_eq]
  refine (List.nodup_range).map_on fun i small j small' same => ?_
  rw [List.mem_range] at small small'
  have := congrArg UInt32.toNat same
  rwa [UInt32.toNat_ofNat', UInt32.toNat_ofNat', Nat.mod_eq_of_lt (by omega),
    Nat.mod_eq_of_lt (by omega)] at this

end WasmedgeExecutor.Lib.SlotVector
