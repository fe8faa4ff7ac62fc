import SpillSelection.Physics.Flash
import SpillSelection.Proofs.FloatOrder
/-!
# The closest flash

The search for the flash closest to an offset keeps a time until another is strictly closer, and it
starts from a time that stands for no flash at all. This one is compared with like any other: what
is found is the first of the closest times if it is strictly closer than the time for no flash, and
otherwise that, whether there are flashes or not (`closestFlashTime_of_isClosest`).
-/

namespace SpillSelection.Spill

variable {offset time next : Float} {times seen : List Float} {k l : Nat}

/-- How far a time is from an offset. -/
def timeDistance (offset time : Float) : Float := (time - offset).abs

theorem isNaN_timeDistance (finite : offset.isFinite) :
    (timeDistance offset time).isNaN = time.isNaN :=
  FloatOrder.isNaN_abs.trans (FloatOrder.isNaN_sub finite)

theorem isNaN_of_closer (finite : offset.isFinite)
    (closer : timeDistance offset next < timeDistance offset time) : next.isNaN = false := by
  rw [← isNaN_timeDistance finite]
  exact (FloatOrder.lt_iff_rank.1 closer).1

/-- A time at a position is a number, no other that is one is closer to an offset, and those before
it are farther. -/
structure IsClosest (offset : Float) (times : List Float) (k : Nat) (time : Float) : Prop where
  found : times[k]? = some time
  number : time.isNaN = false
  least : ∀ other ∈ times, other.isNaN = false →
    timeDistance offset time ≤ timeDistance offset other
  first : ∀ j < k, ∀ other, times[j]? = some other → other.isNaN = false →
    timeDistance offset time < timeDistance offset other

/-! ## The search -/

/-- A number that comes after times none of which is as close is the closest. -/
theorem isClosest_concat (finite : offset.isFinite) (number : next.isNaN = false)
    (closer : ∀ time ∈ seen, time.isNaN = false →
      timeDistance offset next < timeDistance offset time) :
    IsClosest offset (seen ++ [next]) seen.length next where
  found := List.getElem?_concat_length
  number := number
  least other member valid := by
    rcases List.mem_append.1 member with member | member
    · exact FloatOrder.le_of_lt (closer other member valid)
    · rw [List.mem_singleton.1 member]
      exact FloatOrder.le_self ((isNaN_timeDistance finite).trans number)
  first j before other at_ := by
    rw [List.getElem?_append_left before] at at_
    exact closer other (List.mem_of_getElem? at_)

/-- The closest time stays so when one comes that is no closer. -/
theorem IsClosest.concat (h : IsClosest offset seen k time) (finite : offset.isFinite)
    (farther : ¬timeDistance offset next < timeDistance offset time) :
    IsClosest offset (seen ++ [next]) k time := by
  have inside : k < seen.length := (List.getElem?_eq_some_iff.1 h.found).1
  refine ⟨?_, h.number, ?_, ?_⟩
  · rw [List.getElem?_append_left inside]
    exact h.found
  · intro other member valid
    rcases List.mem_append.1 member with member | member
    · exact h.least other member valid
    · rw [List.mem_singleton.1 member] at valid ⊢
      exact FloatOrder.le_of_not_lt ((isNaN_timeDistance finite).trans valid)
        ((isNaN_timeDistance finite).trans h.number) farther
  · intro j before other at_
    rw [List.getElem?_append_left (Nat.lt_trans before inside)] at at_
    exact h.first j before other at_

/-- One more time. -/
theorem IsClosest.closerTime (h : IsClosest offset seen k time) (finite : offset.isFinite)
    (next : Float) :
    ∃ l, IsClosest offset (seen ++ [next]) l (Spill.closerTime offset time next) := by
  unfold Spill.closerTime
  by_cases closer : (next - offset).abs < (time - offset).abs
  · rw [if_pos closer]
    refine ⟨seen.length, isClosest_concat finite (isNaN_of_closer finite closer) ?_⟩
    intro other member valid
    exact FloatOrder.lt_of_lt_of_le closer (h.least other member valid)
  · rw [if_neg closer]
    exact ⟨k, h.concat finite closer⟩

theorem IsClosest.foldl (h : IsClosest offset seen k time) (finite : offset.isFinite)
    (rest : List Float) :
    ∃ l, IsClosest offset (seen ++ rest) l (rest.foldl (Spill.closerTime offset) time) := by
  induction rest generalizing seen k time with
  | nil =>
    rw [List.append_nil]
    exact ⟨k, h⟩
  | cons next rest ih =>
    obtain ⟨l, closest⟩ := h.closerTime finite next
    rw [List.foldl_cons, List.append_cons]
    exact ih closest

/-- There is one closest time at most. -/
theorem IsClosest.unique {other : Float} (h : IsClosest offset times k time)
    (h' : IsClosest offset times l other) : time = other := by
  have notBefore {k l : Nat} {time other : Float} (h : IsClosest offset times k time)
      (h' : IsClosest offset times l other) : ¬k < l := by
    intro before
    have less := h'.first k before time h.found h.number
    have least := h.least other (List.mem_of_getElem? h'.found) h'.number
    exact FloatOrder.not_lt_self _ (FloatOrder.lt_of_lt_of_le less least)
  have := notBefore h h'
  have := notBefore h' h
  obtain rfl : k = l := by omega
  exact Option.some.inj (h.found.symm.trans h'.found)

/-- Among times of which one is a number, one is the closest. -/
theorem exists_isClosest (finite : offset.isFinite) (some : ∃ time ∈ times, time.isNaN = false) :
    ∃ k time, IsClosest offset times k time := by
  -- The list grows at its end, as it does in the search.
  induction times using List.reverseRecOn with
  | nil => simp at some
  | append_singleton seen next ih =>
    by_cases before : ∃ time ∈ seen, time.isNaN = false
    · obtain ⟨k, time, closest⟩ := ih before
      obtain ⟨l, closest⟩ := closest.closerTime finite next
      exact ⟨l, _, closest⟩
    · obtain ⟨time, member, number⟩ := some
      rcases List.mem_append.1 member with member | member
      · exact absurd ⟨time, member, number⟩ before
      · rw [List.mem_singleton.1 member] at number
        refine ⟨seen.length, next, isClosest_concat finite number ?_⟩
        intro other member valid
        exact absurd ⟨other, member, valid⟩ before

/-! ## What is found -/

/-- A time that is closest behind another number is closest by itself, and closer than that one. -/
theorem IsClosest.tail {first : Float} (h : IsClosest offset (first :: times) (k + 1) time)
    (number : first.isNaN = false) :
    IsClosest offset times k time ∧ timeDistance offset time < timeDistance offset first := by
  refine ⟨⟨h.found, h.number, ?_, ?_⟩, h.first 0 (Nat.succ_pos k) first rfl number⟩
  · intro other member
    exact h.least other (.tail _ member)
  · intro j before other at_
    exact h.first (j + 1) (Nat.succ_lt_succ before) other at_

theorem isNaN_noFlashTime : noFlashTime.isNaN = false := by decide +kernel

/-- Either the time for no flash is found, and no time is closer, or the closest time is found, and
it is closer than that. -/
theorem search_cases (finite : offset.isFinite) (times : List Float) :
    (times.foldl (closerTime offset) noFlashTime = noFlashTime ∧
      ∀ time ∈ times, ¬timeDistance offset time < timeDistance offset noFlashTime) ∨
    ∃ k, IsClosest offset times k (times.foldl (closerTime offset) noFlashTime) ∧
      timeDistance offset (times.foldl (closerTime offset) noFlashTime) <
        timeDistance offset noFlashTime := by
  -- The search runs as if the time for no flash were the first of the times.
  have start : IsClosest offset ([] ++ [noFlashTime]) 0 noFlashTime :=
    isClosest_concat finite isNaN_noFlashTime nofun
  obtain ⟨k, closest⟩ := start.foldl finite times
  cases k with
  | zero =>
    left
    have kept : noFlashTime = times.foldl (closerTime offset) noFlashTime :=
      Option.some.inj closest.found
    rw [← kept] at closest ⊢
    refine ⟨rfl, ?_⟩
    intro time member closer
    have least := closest.least time (.tail _ member) (isNaN_of_closer finite closer)
    exact FloatOrder.not_lt_self _ (FloatOrder.lt_of_lt_of_le closer least)
  | succ k =>
    right
    exact ⟨k, closest.tail isNaN_noFlashTime⟩

/-- The first times of a spill's flashes. -/
def firstTimes (spill : Spill) : List Float := spill.flashes.map (·.firstTime)

/-- If the first time of some flash is a number, there is a closest one. The variable reads it when
it is closer to the offset than the time for no flash, and reads the time for no flash when it is
not, or when no first time is a number. -/
theorem closestFlashTime_of_isClosest (spill : Spill) {offset : Float} (finite : offset.isFinite)
    (rest : List Float) :
    ((∃ time ∈ spill.firstTimes, time.isNaN = false) →
      ∃ k time, IsClosest offset spill.firstTimes k time) ∧
    (∀ k time, IsClosest offset spill.firstTimes k time →
      (timeDistance offset time < timeDistance offset noFlashTime →
        spill.closestFlashTime (offset :: rest) =
          time + spill.header.trigger.triggerWithinGate) ∧
      (¬timeDistance offset time < timeDistance offset noFlashTime →
        spill.closestFlashTime (offset :: rest) =
          noFlashTime + spill.header.trigger.triggerWithinGate)) ∧
    ((∀ time ∈ spill.firstTimes, time.isNaN = true) →
      spill.closestFlashTime (offset :: rest) =
        noFlashTime + spill.header.trigger.triggerWithinGate) := by
  have value : spill.closestFlashTime (offset :: rest) =
      spill.firstTimes.foldl (closerTime offset) noFlashTime +
        spill.header.trigger.triggerWithinGate := rfl
  rw [value]
  refine ⟨exists_isClosest finite, ?_, ?_⟩
  · intro k time closest
    rcases search_cases finite spill.firstTimes with ⟨kept, farther⟩ | ⟨l, found, closer⟩
    · have notCloser := farther time (List.mem_of_getElem? closest.found)
      simp [kept, notCloser]
    · rw [← closest.unique found] at closer ⊢
      simp [closer]
  · intro nothing
    rcases search_cases finite spill.firstTimes with ⟨kept, -⟩ | ⟨l, found, -⟩
    · rw [kept]
    · have noNumber := nothing _ (List.mem_of_getElem? found.found)
      rw [found.number] at noNumber
      cases noNumber

/-- A spill with flashes at some times, and a trigger half a unit into the gate. -/
def flashesAt (times : List Float) : Spill where
  header := { trigger := { triggerWithinGate := 0.5 } }
  flashes := times.map fun time => { firstTime := time }

/-- Two flashes as far from 1 as each other, behind one whose time is no number. -/
def tiedFlashes : Spill := flashesAt [nan, 1.25, 0.75]

theorem closestFlashTime_tiedFlashes :
    IsClosest 1 tiedFlashes.firstTimes 1 1.25 ∧
      tiedFlashes.closestFlashTime [1] = 1.25 + 0.5 := by
  have closest : IsClosest 1 tiedFlashes.firstTimes 1 1.25 := by
    refine ⟨rfl, by decide +kernel, by decide +kernel, ?_⟩
    intro j before other at_ number
    cases Nat.lt_one_iff.1 before
    cases at_
    exact absurd number (by decide +kernel)
  have finite : (1 : Float).isFinite := by decide +kernel
  obtain ⟨-, read, -⟩ := closestFlashTime_of_isClosest tiedFlashes finite []
  exact ⟨closest, (read 1 1.25 closest).1 (by decide +kernel)⟩

/-- A flash later than the time for no flash. -/
def lateFlash : Spill := flashesAt [20000]

/-- The only flash of a spill is passed over when the time for no flash is closer. -/
theorem closestFlashTime_lateFlash :
    IsClosest 0 lateFlash.firstTimes 0 20000 ∧
      (∀ time ∈ lateFlash.firstTimes, time.isFinite ∧ (timeDistance 0 time).isFinite) ∧
      lateFlash.closestFlashTime [0] = noFlashTime + 0.5 ∧
      lateFlash.closestFlashTime [0] ≠ 20000 + 0.5 := by
  refine ⟨⟨rfl, ?_, ?_, nofun⟩, ?_, ?_, ?_⟩
  all_goals decide +kernel

end SpillSelection.Spill
