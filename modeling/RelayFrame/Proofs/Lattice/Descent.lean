import RelayFrame.Proofs.Lattice.Lanes

/-!
# A search for short vectors

A vector whose inner products with given dual vectors are multiples of `2 ^ 57`
is known by these multiples, its coefficients.  When its entries are at most
two in absolute value, so is each coefficient, and the search tries all values
of one after the other.

Beside a dual vector a level has a direction, which adds to it a combination
of the earlier ones that makes it short.  The inner product with the direction
is its place, again a multiple of `2 ^ 57`, and it is bounded by the
direction's norm.  The tilt sums the directions, each weighed by its place, so
that the inner product with the tilt is a sum of squares, the energy; a node
where the energy is more than the tilt's norm allows is not on the path of any
vector.
-/

namespace RelayFrame.Lattice

/-- A dual vector, what its direction adds to it, and the direction's weight in
the tilt. -/
structure Level where
  vector : List Int
  slopes : List Int
  weight : Nat

namespace Level

def direction (level : Level) (earlier : List (List Int)) : List Int :=
  plus (scaled 64 level.vector) (combine 24 level.slopes earlier)

def radius (level : Level) (earlier : List (List Int)) : Nat :=
  2 * norm (level.direction earlier) / 2 ^ 57

/-- Whether coefficients are at most two and nothing leaves its lane. -/
def fits (level : Level) (earlier : List (List Int)) : Bool :=
  level.vector.length == 24 && 2 * norm level.vector < 3 * 2 ^ 57 &&
    norm level.slopes ≤ 2 ^ 31 &&
    level.weight * level.radius earlier * norm (level.direction earlier) ≤
      2 ^ 94

theorem fits_iff {level : Level} {earlier : List (List Int)} :
    level.fits earlier = true ↔
      level.vector.length = 24 ∧ 2 * norm level.vector < 3 * 2 ^ 57 ∧
        norm level.slopes ≤ 2 ^ 31 ∧
          level.weight * level.radius earlier *
              norm (level.direction earlier) ≤ 2 ^ 94 := by
  simp [fits, and_assoc]

end Level

/-- Whether every level fits after the ones before it. -/
def fits : List (List Int) → List Level → Bool
  | _, [] => true
  | earlier, level :: levels =>
      level.fits earlier && fits (earlier ++ [level.vector]) levels

/-- What the search needs of a level: vectors by the positive and the negative
part of their tally. -/
structure Plan where
  weight : Nat
  radius : Nat
  positive : Nat
  negative : Nat
  columnPositive : Nat
  columnNegative : Nat

namespace Level

/-- The plan of a level; its column is what it adds to the centers of the
levels after it. -/
def plan
    (level : Level) (earlier : List (List Int)) (later : List Level) : Plan :=
  let direction := tally 128 (level.direction earlier)
  let column := tally 64 (later.map (·.slopes.getD earlier.length 0))
  ⟨level.weight, level.radius earlier, direction.toNat, (-direction).toNat,
    column.toNat, (-column).toNat⟩

end Level

def prepare : List (List Int) → List Level → List Plan
  | _, [] => []
  | earlier, level :: levels =>
      level.plan earlier levels :: prepare (earlier ++ [level.vector]) levels

/-- How far the search is: whether the first coefficient that is not zero is
still to come, the coefficients so far, each above two and the last one first,
and what they add to the places still to come, to the tilt and to the energy.
-/
structure Node where
  fresh : Bool
  known : List Nat
  centers : Nat
  tilt : Nat
  energy : Nat

/-- The place of zero, for digits above two and a center above `2 ^ 32`. -/
def origin : Nat :=
  64 * 2 + 2 ^ 32

def distance (first second : Nat) : Nat :=
  first - second + (second - first)

namespace Node

def place (node : Node) (digit : Nat) : Nat :=
  64 * digit + node.centers % 2 ^ 64

def isCut (node : Node) : Bool :=
  Nat.blt (2 * magnitude node.tilt) (2 ^ 57 * node.energy)

end Node

namespace Plan

def child (plan : Plan) (node : Node) (digit : Nat) : Node where
  fresh := node.fresh && Nat.beq digit 2
  known := digit :: node.known
  centers :=
    shift (node.centers / 2 ^ 64) plan.columnPositive plan.columnNegative
      digit 2
  tilt :=
    shift node.tilt plan.positive plan.negative
      (plan.weight * node.place digit) (plan.weight * origin)
  energy :=
    node.energy + plan.weight * distance (node.place digit) origin ^ 2

/-- Whether the digit can be left out: its coefficient is the first one and
negative, or its place is out of reach. -/
def skips (plan : Plan) (node : Node) (digit : Nat) : Bool :=
  node.fresh && Nat.blt digit 2 ||
    Nat.blt plan.radius (distance (node.place digit) origin)

end Plan

/-- Whether all leaves below a node pass. -/
def search (leaf : List Nat → Bool) : List Plan → Node → Bool
  | [], node => leaf node.known
  | plan :: plans, node =>
      [0, 1, 2, 3, 4].all fun digit =>
        plan.skips node digit || (plan.child node digit).isCut ||
          search leaf plans (plan.child node digit)

def root : Node :=
  ⟨true, [], pack 64 (List.replicate 24 (2 ^ 32)), ones * 2 ^ 100, 0⟩

/-! ## Coefficients -/

/-- The coefficient of a vector at a dual vector. -/
def coefficient (vector dual : List Int) : Int :=
  inner vector dual / 2 ^ 57

/-- Whether the first entry that is not zero is positive. -/
def Leading : List Int → Prop
  | [] => True
  | entry :: entries => 0 < entry ∨ entry = 0 ∧ Leading entries

theorem leading_or_leading_neg (entries : List Int) :
    Leading entries ∨ Leading (entries.map (- ·)) := by
  induction entries with
  | nil => exact Or.inl trivial
  | cons entry entries inductionHypothesis =>
      simp only [Leading, List.map_cons]
      rcases lt_trichotomy entry 0 with negative | rfl | positive
      · exact Or.inr (Or.inl (by omega))
      · simpa using inductionHypothesis
      · exact Or.inl (Or.inl positive)

/-- Coefficients are exact at dual vectors. -/
structure Exact (vector dual : List Int) : Prop where
  dimension : dual.length = 24
  short : 2 * norm dual < 3 * 2 ^ 57
  divides : 2 ^ 57 ∣ inner vector dual

theorem Exact.inner_eq {vector dual : List Int} (exact : Exact vector dual) :
    inner vector dual = 2 ^ 57 * coefficient vector dual :=
  (Int.mul_ediv_cancel' exact.divides).symm

theorem map_inner_eq
    {vector : List Int} {duals : List (List Int)}
    (exact : ∀ dual ∈ duals, Exact vector dual) :
    duals.map (inner vector) =
      scaled (2 ^ 57) (duals.map (coefficient vector)) := by
  rw [scaled, List.map_map]
  apply List.map_congr_left
  intro dual member
  exact (exact dual member).inner_eq

end RelayFrame.Lattice
