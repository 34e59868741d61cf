import Mathlib.Order.Bounds.Basic
import RequestScript.Proofs.Scan.Steps

/-!
# Reset points of a scan

The request in progress is told by a part of the visits only, the part after the last
reset point.  A scan has a reset point at its start, after every scenario line, after
every visit that has emitted, and before a visit that goes on with a fresh scenario in
which a method is waiting.  Whether a method is waiting depends on the reset points
before.

A place is a number of visits: the place {lit}`n` lies after the first {lit}`n` visits.

Main results:

- Definition {lit}`ResetPoint`: the places where a scan forgets.
- Theorem {lit}`resetPoint_append_iff`: later visits make no reset point of an earlier
  place.
- Theorems {lit}`LastReset.cut`, {lit}`LastReset.keep`, {lit}`LastReset.forget` and
  {lit}`LastReset.carry`: how the last reset point moves from visit to visit.
-/

namespace RequestScript
namespace Scan

/-! ## Fresh scenarios -/

/-- Whether a visit starts a scenario. -/
def Visit.startsScenario (visit : Visit) : Prop :=
  ∃ text, visit.statement? = some (.boundary text)

/-- A scenario is fresh: it has started, and no base address has been given since. -/
def Fresh (visits : List Visit) : Prop :=
  ∃ earlier start later, visits = earlier ++ start :: later ∧ start.startsScenario ∧
    ∀ visit ∈ later, visit.url? = none

theorem not_fresh_nil : ¬ Fresh [] := by
  rintro ⟨earlier, start, later, h, -⟩
  simp at h

theorem fresh_append_iff (visits : List Visit) (visit : Visit) :
    Fresh (visits ++ [visit]) ↔ visit.startsScenario ∨ Fresh visits ∧ visit.url? = none := by
  constructor
  · rintro ⟨earlier, start, later, heq, hstart, hlater⟩
    rcases List.eq_nil_or_concat later with rfl | ⟨later, last, rfl⟩
    · rcases List.append_inj' heq rfl |>.imp_right List.singleton_inj.mp with ⟨-, rfl⟩
      exact Or.inl hstart
    · have hsplit : visits ++ [visit] = (earlier ++ start :: later) ++ [last] := by
        rw [heq]
        simp
      rcases List.append_inj' hsplit rfl with ⟨hvisits, hlast⟩
      obtain rfl := List.singleton_inj.mp hlast
      refine Or.inr ⟨⟨earlier, start, later, hvisits, hstart, ?_⟩, hlater visit (by simp)⟩
      intro given hgiven
      exact hlater given (by simp [hgiven])
  · rintro (hstart | ⟨⟨earlier, start, later, rfl, hstart, hlater⟩, hurl⟩)
    · exact ⟨visits, visit, [], rfl, hstart, by simp⟩
    · refine ⟨earlier, start, later ++ [visit], by simp, hstart, ?_⟩
      intro given hgiven
      rcases List.mem_append.mp hgiven with hgiven | hgiven
      · exact hlater given hgiven
      · rw [List.mem_singleton.mp hgiven]
        exact hurl

/-! ## Reset points -/

/-- The places where a scan forgets: the start, the place after a scenario line or an
emission, and the place before a visit that goes on with a fresh scenario while a
method has been given since the reset point before. -/
def ResetPoint (visits : List Visit) (place : Nat) : Prop :=
  place = 0 ∨
    (∃ last visit, place = last + 1 ∧ visits[last]? = some visit ∧
      (visit.startsScenario ∨ visit.emitted.isSome = true)) ∨
    ∃ visit, visits[place]? = some visit ∧ visit.continues ∧ Fresh (visits.take place) ∧
      ∃ given, given < place ∧ (∃ giving, visits[given]? = some giving ∧
        giving.method?.isSome = true) ∧
        ∀ between, given < between → between < place → ¬ ResetPoint visits between
termination_by place

/-- Later visits make no reset point of an earlier place. -/
theorem resetPoint_append_iff {visits : List Visit} {place : Nat} (h : place < visits.length)
    (more : List Visit) : ResetPoint (visits ++ more) place ↔ ResetPoint visits place := by
  induction place using Nat.strong_induction_on with
  | _ place ih =>
    have hget : ∀ index ≤ place, (visits ++ more)[index]? = visits[index]? := by
      intro index hindex
      exact List.getElem?_append_left (by omega)
    have hlast : ∀ last, place = last + 1 → (visits ++ more)[last]? = visits[last]? := by
      intro last heq
      exact hget last (by omega)
    have hgiven : ∀ given, given < place → (visits ++ more)[given]? = visits[given]? := by
      intro given hlt
      exact hget given (by omega)
    rw [ResetPoint, ResetPoint, hget place le_rfl, List.take_append_of_le_length (by omega)]
    refine or_congr Iff.rfl (or_congr ?_ ?_)
    · refine exists_congr fun last => exists_congr fun visit => ?_
      constructor
      · rintro ⟨heq, hvisit, hreset⟩
        exact ⟨heq, hlast last heq ▸ hvisit, hreset⟩
      · rintro ⟨heq, hvisit, hreset⟩
        exact ⟨heq, (hlast last heq).symm ▸ hvisit, hreset⟩
    · refine exists_congr fun visit => and_congr Iff.rfl (and_congr Iff.rfl (and_congr Iff.rfl ?_))
      refine exists_congr fun given => and_congr_right fun hlt => ?_
      rw [hgiven given hlt]
      refine and_congr Iff.rfl (forall_congr' fun between => ?_)
      refine imp_congr_right fun _ => imp_congr_right fun hbetween => not_congr ?_
      exact ih between hbetween (by omega)

/-- The last reset point up to a place. -/
def LastReset (visits : List Visit) (place reset : Nat) : Prop :=
  IsGreatest {point | point ≤ place ∧ ResetPoint visits point} reset

theorem lastReset_nil : LastReset [] 0 0 := by
  refine ⟨⟨le_rfl, ?_⟩, fun point hpoint => hpoint.1⟩
  rw [ResetPoint]
  exact Or.inl rfl

namespace LastReset

variable {visits : List Visit} {visit : Visit} {place reset : Nat}

/-- Later visits do not move the last reset point up to an earlier place. -/
theorem append (h : LastReset visits place reset) (hplace : place < visits.length)
    (more : List Visit) : LastReset (visits ++ more) place reset := by
  have hsame : ∀ point ≤ place, ResetPoint (visits ++ more) point ↔ ResetPoint visits point :=
    fun point hpoint => resetPoint_append_iff (by omega) more
  refine ⟨⟨h.1.1, (hsame reset h.1.1).mpr h.1.2⟩, ?_⟩
  rintro point ⟨hle, hpoint⟩
  exact h.2 ⟨hle, (hsame point hle).mp hpoint⟩

/-- A method is waiting exactly if it has been given since the last reset point. -/
theorem exists_given_iff (h : LastReset visits visits.length reset) (visit : Visit)
    (hlt : reset < visits.length) :
    (∃ given, given < visits.length ∧ (∃ giving, (visits ++ [visit])[given]? = some giving ∧
      giving.method?.isSome = true) ∧ ∀ between, given < between → between < visits.length →
        ¬ ResetPoint (visits ++ [visit]) between) ↔
      ∃ giving ∈ visits.drop reset, giving.method?.isSome = true := by
  constructor
  · rintro ⟨given, hgiven, ⟨giving, hgiving, hmethod⟩, hbetween⟩
    have hle : reset ≤ given := by
      by_contra hnot
      exact hbetween reset (by omega) hlt ((resetPoint_append_iff hlt [visit]).mpr h.1.2)
    refine ⟨giving, ?_, hmethod⟩
    rw [List.getElem?_append_left hgiven] at hgiving
    refine List.mem_of_getElem? (i := given - reset) ?_
    rw [List.getElem?_drop, Nat.add_sub_cancel' hle]
    exact hgiving
  · rintro ⟨giving, hmem, hmethod⟩
    rcases List.getElem?_of_mem hmem with ⟨offset, hoffset⟩
    rw [List.getElem?_drop] at hoffset
    have hgiven : reset + offset < visits.length := (List.getElem?_eq_some_iff.mp hoffset).1
    refine ⟨reset + offset, hgiven, ⟨giving, ?_, hmethod⟩, ?_⟩
    · rw [List.getElem?_append_left hgiven]
      exact hoffset
    · intro between hgt hbetween hreset
      have hle := h.2 ⟨by omega, (resetPoint_append_iff hbetween [visit]).mp hreset⟩
      omega

/-- The place before a new visit is a reset point if it was one, or if the visit goes on
with a fresh scenario in which a method is waiting. -/
theorem resetPoint_length_iff (h : LastReset visits visits.length reset) (visit : Visit) :
    ResetPoint (visits ++ [visit]) visits.length ↔
      reset = visits.length ∨ visit.continues ∧ Fresh visits ∧
        ∃ giving ∈ visits.drop reset, giving.method?.isSome = true := by
  have hfirst : ∀ last, visits.length = last + 1 → (visits ++ [visit])[last]? = visits[last]? :=
    fun last heq => List.getElem?_append_left (by omega)
  by_cases heq : reset = visits.length
  · -- the visit itself has no part in the reason why this place is a reset point
    have hreset := h.1.2
    rw [heq, ResetPoint] at hreset
    rw [ResetPoint]
    simp only [heq, true_or, iff_true]
    rcases hreset with hzero | ⟨last, found, hlast, hfound, hwhy⟩ | ⟨found, hfound, -⟩
    · exact Or.inl hzero
    · exact Or.inr (Or.inl ⟨last, found, hlast, (hfirst last hlast).trans hfound, hwhy⟩)
    · simp at hfound
  · have hlt : reset < visits.length := lt_of_le_of_ne h.1.1 heq
    have hnot : ¬ ResetPoint visits visits.length := fun hreset => by
      have hle := h.2 ⟨le_rfl, hreset⟩
      omega
    have hgiven := h.exists_given_iff visit hlt
    rw [ResetPoint] at hnot
    rw [ResetPoint, hgiven]
    constructor
    · rintro (hzero | ⟨last, found, hlast, hfound, hwhy⟩ |
        ⟨found, hfound, hcontinues, hfresh, hmem⟩)
      · exact absurd (Or.inl hzero) hnot
      · rw [hfirst last hlast] at hfound
        exact absurd (Or.inr (Or.inl ⟨last, found, hlast, hfound, hwhy⟩)) hnot
      · obtain rfl : visit = found := by simpa using hfound
        rw [List.take_left] at hfresh
        exact Or.inr ⟨hcontinues, hfresh, hmem⟩
    · rintro (hsame | ⟨hcontinues, hfresh, hmem⟩)
      · exact absurd hsame heq
      · refine Or.inr (Or.inr ⟨visit, by simp, hcontinues, ?_, hmem⟩)
        rw [List.take_left]
        exact hfresh

/-- A visit that goes on with a fresh scenario in which a method is waiting moves the
last reset point to the place before it. -/
theorem cut (h : LastReset visits visits.length reset) (hcontinues : visit.continues)
    (hfresh : Fresh visits) (hmethod : ∃ giving ∈ visits.drop reset, giving.method?.isSome = true) :
    LastReset (visits ++ [visit]) visits.length visits.length := by
  refine ⟨⟨le_rfl, ?_⟩, fun point hpoint => hpoint.1⟩
  rw [h.resetPoint_length_iff]
  exact Or.inr ⟨hcontinues, hfresh, hmethod⟩

/-- Any other visit leaves the last reset point before it where it is. -/
theorem keep (h : LastReset visits visits.length reset)
    (hkeep : ¬ (visit.continues ∧ Fresh visits ∧
      ∃ giving ∈ visits.drop reset, giving.method?.isSome = true)) :
    LastReset (visits ++ [visit]) visits.length reset := by
  have hlength := h.resetPoint_length_iff visit
  by_cases heq : reset = visits.length
  · refine ⟨⟨h.1.1, ?_⟩, fun point hpoint => ?_⟩
    · rw [heq]
      exact hlength.mpr (Or.inl heq)
    · rw [heq]
      exact hpoint.1
  · have hlt : reset < visits.length := lt_of_le_of_ne h.1.1 heq
    refine ⟨⟨h.1.1, (resetPoint_append_iff hlt [visit]).mpr h.1.2⟩, ?_⟩
    rintro point ⟨hle, hpoint⟩
    rcases Nat.lt_or_eq_of_le hle with hpointlt | rfl
    · exact h.2 ⟨hle, (resetPoint_append_iff hpointlt [visit]).mp hpoint⟩
    · rcases hlength.mp hpoint with hsame | hcut
      · exact absurd hsame heq
      · exact absurd hcut hkeep

theorem resetPoint_succ_length_iff :
    ResetPoint (visits ++ [visit]) (visits.length + 1) ↔
      visit.startsScenario ∨ visit.emitted.isSome = true := by
  rw [ResetPoint]
  constructor
  · rintro (hzero | ⟨last, found, hlast, hfound, hwhy⟩ | ⟨found, hfound, -⟩)
    · omega
    · obtain rfl : visits.length = last := by omega
      obtain rfl : visit = found := by simpa using hfound
      exact hwhy
    · simp at hfound
  · intro hwhy
    exact Or.inr (Or.inl ⟨visits.length, visit, rfl, by simp, hwhy⟩)

/-- A scenario line or an emission makes a reset point of the place after it. -/
theorem forget (hforget : visit.startsScenario ∨ visit.emitted.isSome = true) :
    LastReset (visits ++ [visit]) (visits ++ [visit]).length (visits ++ [visit]).length := by
  refine ⟨⟨le_rfl, ?_⟩, fun point hpoint => hpoint.1⟩
  rw [List.length_append]
  exact resetPoint_succ_length_iff.mpr hforget

/-- Past any other visit the last reset point stays. -/
theorem carry (h : LastReset (visits ++ [visit]) visits.length reset)
    (hcarry : ¬ (visit.startsScenario ∨ visit.emitted.isSome = true)) :
    LastReset (visits ++ [visit]) (visits ++ [visit]).length reset := by
  rw [List.length_append, List.length_singleton]
  refine ⟨⟨h.1.1.trans (Nat.le_succ _), h.1.2⟩, ?_⟩
  rintro point ⟨hle, hpoint⟩
  rcases Nat.lt_or_eq_of_le hle with hlt | rfl
  · exact h.2 ⟨by omega, hpoint⟩
  · exact absurd (resetPoint_succ_length_iff.mp hpoint) hcarry

end LastReset
end Scan
end RequestScript
