import DocPipeline.Stage.Result
import Mathlib.Algebra.BigOperators.Group.List.Basic
import Mathlib.Algebra.Ring.Nat
import Mathlib.Data.List.Induction

/-!
# Sums of results

What becomes of counters that are added up one result after the other. A sum that has reached the
largest count stays there, so that it makes no difference where on the way it was reached: each
counter ends as the exact sum of all counts, or as the largest count if that sum is larger. So
neither the order of the results nor the way they are grouped shows in the counters, and only their
order shows in the causes.

## Main definitions

* `saturatingSum`, `Counters.totals`: sums that stop at the largest count.
* `Counters.Kind`, `Counters.count`: one of the counters.

## Main results

* `toNat_saturatingSum`: the exact sum, up to the largest count.
* `StageResult.sumAll_eq`: results added up.
* `StageResult.sumAll_append`, `StageResult.sumAll_flatten`: sums of sums.
* `StageResult.sumAll_exact_up_to_limit`: what the sum of results is.
-/

namespace DocPipeline

/-! ### Counts -/

/-- The sum of counts, or the largest count if the sum is larger. -/
def saturatingSum (counts : List UInt64) : UInt64 :=
  UInt64.ofNat (min (counts.foldl (fun total count => total + count.toNat) 0) (UInt64.size - 1))

/-- A number cut off at the largest count is a count. -/
theorem toNat_ofNat_min (total : Nat) :
    (UInt64.ofNat (min total (UInt64.size - 1))).toNat = min (2 ^ 64 - 1) total := by
  have small : min total (UInt64.size - 1) < UInt64.size := by
    have : 0 < UInt64.size := by decide
    omega
  rw [UInt64.toNat_ofNat_of_lt' small, Nat.min_comm]
  rfl

/-- Two counts add up exactly, up to the largest count. -/
theorem toNat_saturatingAdd (a b : UInt64) :
    (saturatingAdd a b).toNat = min (2 ^ 64 - 1) (a.toNat + b.toNat) :=
  toNat_ofNat_min _

/-- **Counts add up exactly, up to the largest count.** -/
theorem toNat_saturatingSum (counts : List UInt64) :
    (saturatingSum counts).toNat = min (2 ^ 64 - 1) (counts.map UInt64.toNat).sum := by
  have total : counts.foldl (fun total count => total + count.toNat) 0 =
      (counts.map UInt64.toNat).sum := by
    rw [List.sum_eq_foldl, List.foldl_map]
  rw [saturatingSum, toNat_ofNat_min, total]

/-- The sum of all counts is that of the sums of two parts. -/
theorem saturatingSum_append (front back : List UInt64) :
    saturatingSum (front ++ back) = saturatingAdd (saturatingSum front) (saturatingSum back) := by
  rw [← UInt64.toNat_inj, toNat_saturatingAdd, toNat_saturatingSum, toNat_saturatingSum,
    toNat_saturatingSum, List.map_append, List.sum_append]
  -- a part that is cut off is at the limit by itself, and so the whole is at the limit too
  omega

/-- Adding count by count comes to the sum: once at the largest count, it stays there. -/
theorem saturatingSum_append_singleton (counts : List UInt64) (count : UInt64) :
    saturatingSum (counts ++ [count]) = saturatingAdd (saturatingSum counts) count := by
  have alone : saturatingSum [count] = count := by
    rw [← UInt64.toNat_inj, toNat_saturatingSum, List.map_singleton, List.sum_singleton]
    exact Nat.min_eq_right (Nat.le_sub_one_of_lt count.toNat_lt)
  rw [saturatingSum_append, alone]

/-- The order of counts does not show in their sum. -/
theorem saturatingSum_perm {counts others : List UInt64} (same : counts.Perm others) :
    saturatingSum counts = saturatingSum others := by
  rw [← UInt64.toNat_inj, toNat_saturatingSum, toNat_saturatingSum, (same.map UInt64.toNat).sum_eq]

/-! ### Counters -/

namespace Counters

/-- What is counted. -/
inductive Kind where
  | read
  | insert
  | update
  | discard
  | total
deriving DecidableEq, Repr

/-- One of the counters. -/
def count (counters : Counters) : Kind → UInt64
  | .read => counters.read
  | .insert => counters.insert
  | .update => counters.update
  | .discard => counters.discard
  | .total => counters.total

/-- Counters are the same if each of them is. -/
theorem eq_of_count {a b : Counters} (same : ∀ kind, a.count kind = b.count kind) : a = b := by
  cases a
  cases b
  obtain rfl := same .read
  obtain rfl := same .insert
  obtain rfl := same .update
  obtain rfl := same .discard
  obtain rfl := same .total
  rfl

/-- Counters are added one by one. -/
theorem count_add (a b : Counters) (kind : Kind) :
    (a + b).count kind = saturatingAdd (a.count kind) (b.count kind) := by
  cases kind <;> rfl

/-- The sums of counters, one by one. -/
def totals (items : List Counters) : Counters where
  read := saturatingSum (items.map (·.read))
  insert := saturatingSum (items.map (·.insert))
  update := saturatingSum (items.map (·.update))
  discard := saturatingSum (items.map (·.discard))
  total := saturatingSum (items.map (·.total))

/-- Each of the sums is that of one counter. -/
theorem count_totals (items : List Counters) (kind : Kind) :
    (totals items).count kind = saturatingSum (items.map (·.count kind)) := by
  cases kind <;> rfl

end Counters

/-! ### Results -/

namespace StageResult

/-- **Results added up** have the sums of all counters, and all causes in order. -/
theorem sumAll_eq (results : List StageResult) :
    sumAll results =
      { counters := Counters.totals (results.map (·.counters))
        discardCauses := results.flatMap (·.discardCauses) } := by
  induction results using List.reverseRecOn with
  | nil => rfl
  | append_singleton results result ih =>
      have step : sumAll (results ++ [result]) = (sumAll results).addStatistics result := by
        rw [sumAll, List.foldl_append]
        rfl
      rw [step, ih, addStatistics, List.map_append, List.map_singleton, List.flatMap_append,
        List.flatMap_singleton]
      simp only [Counters.totals, List.map_append, List.map_singleton,
        saturatingSum_append_singleton]
      rfl

/-- One of the counters of a sum. -/
theorem count_sumAll (results : List StageResult) (kind : Counters.Kind) :
    (sumAll results).counters.count kind =
      saturatingSum (results.map (·.counters.count kind)) := by
  rw [sumAll_eq, Counters.count_totals, List.map_map]
  rfl

/-- The counters of a sum are the sum of the counters. -/
theorem counters_sumAll (results : List StageResult) :
    (sumAll results).counters = Counters.sum (results.map (·.counters)) := by
  rw [sumAll, Counters.sum, List.foldl_map]
  exact (List.foldl_hom StageResult.counters fun _ _ => rfl).symm

/-- **The sum of two parts** is that of all results. -/
theorem sumAll_append (front back : List StageResult) :
    sumAll (front ++ back) = (sumAll front).addStatistics (sumAll back) := by
  have counters :
      (sumAll (front ++ back)).counters = (sumAll front).counters + (sumAll back).counters := by
    refine Counters.eq_of_count fun kind => ?_
    rw [Counters.count_add, count_sumAll, count_sumAll, count_sumAll, List.map_append,
      saturatingSum_append]
  rw [addStatistics, ← counters, sumAll_eq, sumAll_eq, sumAll_eq, List.flatMap_append]

/-- A sum, added up alone, stays as it is. -/
theorem sumAll_singleton_sumAll (results : List StageResult) :
    sumAll [sumAll results] = sumAll results := by
  rw [sumAll]
  exact (sumAll_append [] results).symm

/-- **The sum of groups** is that of all results, however they are grouped. -/
theorem sumAll_flatten (groups : List (List StageResult)) :
    sumAll groups.flatten = sumAll (groups.map sumAll) := by
  induction groups with
  | nil => rfl
  | cons group groups ih =>
      rw [List.flatten_cons, sumAll_append, ih, List.map_cons, ← List.singleton_append,
        sumAll_append, sumAll_singleton_sumAll]

/-- **The sum of results.** Each counter is the exact sum of the counts of its kind, or the largest
count if that sum is larger, in whatever order the results come; the counters added up alone come to
the same. The causes are all causes in order, and there is no payload. To add up two parts, or any
groups of results that follow each other, and then their sums, makes no difference. -/
theorem sumAll_exact_up_to_limit (results : List StageResult) :
    (∀ kind, ((sumAll results).counters.count kind).toNat =
        min (2 ^ 64 - 1) (results.map fun result => (result.counters.count kind).toNat).sum) ∧
      (∀ others, results.Perm others → (sumAll others).counters = (sumAll results).counters) ∧
      (sumAll results).counters = Counters.sum (results.map (·.counters)) ∧
      (sumAll results).discardCauses = results.flatMap (·.discardCauses) ∧
      (sumAll results).payload = .empty ∧
      (∀ front back, results = front ++ back →
        sumAll results =
            { payload := .empty
              counters := (sumAll front).counters + (sumAll back).counters
              discardCauses := (sumAll front).discardCauses ++ (sumAll back).discardCauses } ∧
          ∀ kind, ((sumAll results).counters.count kind).toNat =
            min (2 ^ 64 - 1) (((sumAll front).counters.count kind).toNat +
              ((sumAll back).counters.count kind).toNat)) ∧
      ∀ groups : List (List StageResult), results = groups.flatten →
        sumAll results = sumAll (groups.map sumAll) := by
  refine ⟨fun kind => ?_, fun others same => ?_, counters_sumAll results, ?_, ?_, ?_, ?_⟩
  · rw [count_sumAll, toNat_saturatingSum, List.map_map]
    rfl
  · refine Counters.eq_of_count fun kind => ?_
    rw [count_sumAll, count_sumAll]
    exact saturatingSum_perm (same.symm.map _)
  · rw [sumAll_eq]
  · rw [sumAll_eq]
  · rintro front back rfl
    have whole := sumAll_append front back
    refine ⟨?_, fun kind => ?_⟩
    · rw [whole, addStatistics, sumAll_eq front]
    · rw [whole, ← toNat_saturatingAdd, ← Counters.count_add]
      rfl
  · rintro groups rfl
    exact sumAll_flatten groups

/-- Of two results one of which is full, the other one is lost in the sum, whichever comes first. -/
theorem sumAll_of_full_counter :
    let full : StageResult := .ofCounters { total := 18446744073709551615 }
    let other : StageResult := .ofCounters { total := 2 }
    [other, full].Perm [full, other] ∧
      (sumAll [full, other]).counters = (sumAll [other, full]).counters ∧
      ((sumAll [other, full]).counters.count .total).toNat = 2 ^ 64 - 1 := by
  intro full other
  obtain ⟨exact, unordered, -⟩ := sumAll_exact_up_to_limit [other, full]
  have same : [other, full].Perm [full, other] := List.Perm.swap ..
  exact ⟨same, unordered _ same, (exact .total).trans (Nat.min_eq_left (by decide))⟩

end StageResult

end DocPipeline
