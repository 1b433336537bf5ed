import AddonUpkeep.Version.Order
import Mathlib.Data.List.DropRight
import Mathlib.Data.List.Lex
import Mathlib.Data.Ordering.Basic
import Mathlib.Order.Compare

/-!
# Laws of the order of versions

The comparison of versions is a chain of comparisons of what a version has, so it is oriented and
transitive as each of them is.  Zeros at the end of a release do not count: releases compare as rows
that are filled up with zeros to a common length.
-/

namespace AddonUpkeep.Version

open Std (OrientedCmp ReflCmp TransCmp)

/-- What is compared by its image under a function keeps the laws of the comparison there. -/
theorem transCmp_on {α β : Type} (f : α → β) (cmp : β → β → Ordering) [TransCmp cmp] :
    TransCmp fun left right ↦ cmp (f left) (f right) where
  eq_swap {left right} := (OrientedCmp.eq_swap : cmp (f left) (f right) = _)
  isLE_trans {first second third} := (TransCmp.isLE_trans :
    (cmp (f first) (f second)).isLE → (cmp (f second) (f third)).isLE → _)

instance : TransCmp comparePart := by
  have hplaces : TransCmp fun left right : Nat × List Nat ↦
      List.compareLex Ord.compare left.2 right.2 :=
    transCmp_on Prod.snd (List.compareLex Ord.compare)
  exact transCmp_on partPlace (compareLex (compareOn (·.1)) _)

instance : TransCmp compare := by
  have hrelease : TransCmp fun left right : Version ↦
      List.compareLex Ord.compare left.significant right.significant :=
    transCmp_on significant (List.compareLex Ord.compare)
  have hbuild : TransCmp fun left right : Version ↦
      List.compareLex comparePart left.build right.build :=
    transCmp_on build (List.compareLex comparePart)
  unfold compare
  infer_instance

variable {first second third : Version}

theorem atLeast_self (version : Version) : version.atLeast version = true := by
  have hsame : compare version version = .eq := ReflCmp.compare_self
  rw [atLeast, hsame]
  rfl

theorem atLeast_total (first second : Version) :
    second.atLeast first = true ∨ first.atLeast second = true := by
  have hswap : compare first second = (compare second first).swap := OrientedCmp.eq_swap
  unfold atLeast
  rw [hswap]
  cases compare second first <;> simp

theorem atLeast_trans (h : second.atLeast first = true) (h' : third.atLeast second = true) :
    third.atLeast first = true :=
  (TransCmp.isGE_trans : (compare third second).isGE → (compare second first).isGE → _) h' h

section Release

variable {xs ys : List Nat}

/-- The version with a release and nothing else. -/
def ofRelease (release : List Nat) : Version := ⟨0, release, none, none, none, []⟩

theorem rdropWhile_zero_cons (x : Nat) (xs : List Nat) : (x :: xs).rdropWhile (· == 0) =
    if x = 0 ∧ xs.rdropWhile (· == 0) = [] then [] else x :: xs.rdropWhile (· == 0) := by
  unfold List.rdropWhile
  rw [List.reverse_cons, List.dropWhile_append]
  cases xs.reverse.dropWhile (· == 0) with
  | nil => by_cases hzero : x = 0 <;> simp [hzero]
  | cons y ys => simp

/-- Without the zeros at their end, two rows compare as their first numbers and then as the rest. -/
theorem compareLex_rdropWhile_cons (x y : Nat) (xs ys : List Nat) :
    List.compareLex Ord.compare ((x :: xs).rdropWhile (· == 0)) ((y :: ys).rdropWhile (· == 0)) =
      (Ord.compare x y).then (List.compareLex Ord.compare (xs.rdropWhile (· == 0))
        (ys.rdropWhile (· == 0))) := by
  rw [rdropWhile_zero_cons, rdropWhile_zero_cons]
  generalize xs.rdropWhile (· == 0) = xs
  generalize ys.rdropWhile (· == 0) = ys
  split
  · next hleft =>
    obtain ⟨rfl, rfl⟩ := hleft
    split
    · next hright =>
      obtain ⟨rfl, rfl⟩ := hright
      rfl
    · next hright =>
      rw [List.compareLex_nil_cons]
      rcases Nat.eq_zero_or_pos y with rfl | hpos
      · cases ys with
        | nil => exact absurd ⟨rfl, rfl⟩ hright
        | cons z zs => rfl
      · rw [Nat.compare_eq_lt.mpr hpos]
        rfl
  · next hleft =>
    split
    · next hright =>
      obtain ⟨rfl, rfl⟩ := hright
      rw [List.compareLex_cons_nil]
      rcases Nat.eq_zero_or_pos x with rfl | hpos
      · cases xs with
        | nil => exact absurd ⟨rfl, rfl⟩ hleft
        | cons z zs => rfl
      · rw [Nat.compare_eq_gt.mpr hpos]
        rfl
    · rw [List.compareLex_cons_cons]

/-- A row counts as its first number, or zero, and the rest. -/
theorem rdropWhile_headD_cons_tail (xs : List Nat) :
    (xs.headD 0 :: xs.tail).rdropWhile (· == 0) = xs.rdropWhile (· == 0) := by
  cases xs <;> rfl

theorem rightpad_succ (n : Nat) (xs : List Nat) :
    xs.rightpad (n + 1) 0 = xs.headD 0 :: xs.tail.rightpad n 0 := by
  cases xs with
  | nil => rfl
  | cons x xs => simp [List.rightpad]

/-- Rows without the zeros at their end compare as they do when they are filled up with zeros. -/
theorem compareLex_rdropWhile {n : Nat} (hxs : xs.length ≤ n) (hys : ys.length ≤ n) :
    List.compareLex Ord.compare (xs.rdropWhile (· == 0)) (ys.rdropWhile (· == 0)) =
      List.compareLex Ord.compare (xs.rightpad n 0) (ys.rightpad n 0) := by
  induction n generalizing xs ys with
  | zero =>
    rw [List.length_eq_zero_iff.mp (Nat.le_zero.mp hxs),
      List.length_eq_zero_iff.mp (Nat.le_zero.mp hys)]
    rfl
  | succ n ih =>
    have hxs' : xs.tail.length ≤ n := List.length_tail ▸ Nat.sub_le_of_le_add hxs
    have hys' : ys.tail.length ≤ n := List.length_tail ▸ Nat.sub_le_of_le_add hys
    rw [← rdropWhile_headD_cons_tail xs, ← rdropWhile_headD_cons_tail ys,
      compareLex_rdropWhile_cons, ih hxs' hys', rightpad_succ, rightpad_succ,
      List.compareLex_cons_cons]

theorem cons_le_cons_iff {x y : Nat} {xs ys : List Nat} :
    x :: xs ≤ y :: ys ↔ x < y ∨ x = y ∧ xs ≤ ys := by
  rw [le_iff_lt_or_eq, le_iff_lt_or_eq, List.cons_lt_cons_iff, List.cons.injEq, and_or_left,
    or_assoc]

theorem isLE_compareLex_iff (xs ys : List Nat) :
    (List.compareLex Ord.compare xs ys).isLE = true ↔ xs ≤ ys := by
  induction xs generalizing ys with
  | nil =>
    cases ys with
    | nil => simp [List.compareLex]
    | cons y ys => simp [List.compareLex, (List.nil_lt_cons y ys).le]
  | cons x xs ih =>
    cases ys with
    | nil => simp [List.compareLex, List.nil_lt_cons x xs]
    | cons y ys =>
      rw [List.compareLex_cons_cons, cons_le_cons_iff, Ordering.isLE_then_iff_or, ih,
        Nat.compare_eq_lt, Nat.compare_eq_eq]

/-- Releases without qualifiers are ordered as rows of numbers that are filled up with zeros. -/
theorem atLeast_ofRelease_iff {n : Nat} (hxs : xs.length ≤ n) (hys : ys.length ≤ n) :
    (ofRelease ys).atLeast (ofRelease xs) = true ↔ xs.rightpad n 0 ≤ ys.rightpad n 0 := by
  have hrelease : compare (ofRelease ys) (ofRelease xs) =
      List.compareLex Ord.compare (ys.rdropWhile (· == 0)) (xs.rdropWhile (· == 0)) := by
    change (List.compareLex Ord.compare _ _).then .eq = _
    rw [Ordering.then_eq]
    rfl
  rw [atLeast, hrelease, OrientedCmp.isGE_iff_isLE, compareLex_rdropWhile hxs hys,
    isLE_compareLex_iff]

end Release

end AddonUpkeep.Version
