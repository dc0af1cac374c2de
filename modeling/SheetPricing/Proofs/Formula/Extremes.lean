import SheetPricing.Formula.Evaluation
import SheetPricing.Proofs.Binary64.Units

/-! The greatest and the least of some values. Both keep the better of two values all along, by the same
comparison one way round or the other. What is not a number is better than nothing and nothing is better
than it: it stays where it comes first, and is passed over anywhere else. -/
namespace SheetPricing.Formula
open Binary64

/-- The first of the best values by a comparison. -/
def firstBest (better : Binary64 → Binary64 → Bool) : List Binary64 → Binary64
  | [] => 0
  | first :: rest => rest.foldl (fun best x => if better best x then x else best) first

theorem greatest_eq_firstBest (values : List Binary64) : greatest values = firstBest lt values := by
  cases values <;> rfl

theorem least_eq_firstBest (values : List Binary64) :
    least values = firstBest (fun best x => x.lt best) values := by
  cases values <;> rfl

theorem firstBest_cons_cons (better : Binary64 → Binary64 → Bool) (first next : Binary64)
    (rest : List Binary64) : firstBest better (first :: next :: rest)
      = firstBest better ((if better first next then next else first) :: rest) := rfl

section
variable {better : Binary64 → Binary64 → Bool} {place : Binary64 → Int}
  (places : ∀ x y, better x y = true ↔ x ≠ .nan ∧ y ≠ .nan ∧ place x < place y)
  {first : Binary64} {rest values others : List Binary64}
include places

theorem firstBest_nan : firstBest better (.nan :: rest) = .nan := by
  induction rest with
  | nil => rfl
  | cons x rest ih =>
    rw [firstBest_cons_cons, if_neg fun holds => ((places .nan x).mp holds).1 rfl]
    exact ih

/-- What is kept in the end is one of the values, and as far ahead as any that is a number. -/
theorem firstBest_cons (number : first ≠ .nan) : firstBest better (first :: rest) ≠ .nan ∧
    firstBest better (first :: rest) ∈ first :: rest ∧
    ∀ x ∈ first :: rest, x ≠ .nan → place x ≤ place (firstBest better (first :: rest)) := by
  induction rest generalizing first with
  | nil => exact ⟨number, List.mem_cons_self, fun x inside _ => List.mem_singleton.mp inside ▸ le_rfl⟩
  | cons next rest ih =>
    rw [firstBest_cons_cons]
    by_cases holds : better first next = true
    · obtain ⟨_, other, less⟩ := (places first next).mp holds
      obtain ⟨some, among, most⟩ := ih other
      rw [if_pos holds]
      refine ⟨some, List.mem_cons_of_mem _ among, fun x inside plain => ?_⟩
      rcases List.mem_cons.mp inside with rfl | later
      · exact less.le.trans (most next List.mem_cons_self other)
      · exact most x later plain
    · obtain ⟨some, among, most⟩ := ih number
      rw [if_neg holds]
      refine ⟨some, ?_, fun x inside plain => ?_⟩
      · rcases List.mem_cons.mp among with same | later
        · exact List.mem_cons.mpr (.inl same)
        · exact List.mem_cons_of_mem _ (List.mem_cons_of_mem _ later)
      · rcases List.mem_cons.mp inside with rfl | later
        · exact most x List.mem_cons_self plain
        rcases List.mem_cons.mp later with rfl | later
        · have close : place x ≤ place first :=
            Int.not_lt.mp fun less => holds ((places first x).mpr ⟨number, plain, less⟩)
          exact close.trans (most first List.mem_cons_self number)
        · exact most x (List.mem_cons_of_mem _ later) plain

theorem firstBest_eq_nan_iff : firstBest better values = .nan ↔ values.head? = some .nan := by
  cases values with
  | nil =>
    have zero : firstBest better [] = signedZero false := zero_eq
    rw [zero]
    exact iff_of_false nofun nofun
  | cons first rest =>
    rw [List.head?_cons, Option.some_inj]
    constructor
    · intro none
      by_contra number
      exact (firstBest_cons places number).1 none
    · rintro rfl
      exact firstBest_nan places

/-- Numbers that come first in two orders of the same values leave equally good values. -/
theorem place_firstBest_perm (permuted : values.Perm others)
    (number : firstBest better values ≠ .nan) (other : firstBest better others ≠ .nan) :
    place (firstBest better values) = place (firstBest better others) := by
  cases values with
  | nil => rw [permuted.nil_eq]
  | cons first rest =>
    cases others with
    | nil => cases permuted.eq_nil
    | cons next more =>
      have plain : first ≠ .nan := by
        rintro rfl
        exact number (firstBest_nan places)
      have plainToo : next ≠ .nan := by
        rintro rfl
        exact other (firstBest_nan places)
      obtain ⟨_, among, most⟩ := @firstBest_cons _ _ places _ rest plain
      obtain ⟨_, amongToo, mostToo⟩ := @firstBest_cons _ _ places _ more plainToo
      exact le_antisymm (mostToo _ (permuted.mem_iff.mp among) number)
        (most _ (permuted.mem_iff.mpr amongToo) other)

end

/-- That a value depends on the order of some values no more than by which comes first: where what
comes first is a number, it is as large as in any other such order. -/
structure Steady (extreme : List Binary64 → Binary64) : Prop where
  nan : ∀ values, extreme values = .nan ↔ values.head? = some .nan
  same : ∀ values others, values.Perm others → extreme values ≠ .nan → extreme others ≠ .nan →
    (extreme values).equals (extreme others) = true

theorem steady_firstBest {better : Binary64 → Binary64 → Bool} {place : Binary64 → Int}
    (places : ∀ x y, better x y = true ↔ x ≠ .nan ∧ y ≠ .nan ∧ place x < place y)
    (ranked : ∀ x y, place x = place y → x.rank = y.rank) : Steady (firstBest better) where
  nan _ := firstBest_eq_nan_iff places
  same _ _ permuted number other :=
    equals_of_rank number other (ranked _ _ (place_firstBest_perm places permuted number other))

theorem steady_greatest : Steady greatest := by
  rw [show greatest = firstBest lt from funext greatest_eq_firstBest]
  exact steady_firstBest (fun _ _ => lt_iff_rank) fun _ _ => id

theorem steady_least : Steady least := by
  rw [show least = firstBest fun best x => x.lt best from funext least_eq_firstBest]
  have places (x y : Binary64) : y.lt x = true ↔ x ≠ .nan ∧ y ≠ .nan ∧ -x.rank < -y.rank := by
    rw [lt_iff_rank, neg_lt_neg_iff, and_left_comm]
  exact steady_firstBest places fun _ _ => neg_inj.mp

end SheetPricing.Formula
