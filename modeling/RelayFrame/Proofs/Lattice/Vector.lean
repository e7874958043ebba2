import Mathlib.Algebra.Order.Group.Unbundled.Int
import Mathlib.Tactic.Linarith
import Mathlib.Tactic.Ring

/-!
# Integer vectors as lists

The few operations on vectors that the search for short lattice vectors needs,
by recursion on the list, so that they can also be evaluated.  A list that is
too short counts as ending in zeros.
-/

namespace RelayFrame.Lattice

def inner : List Int → List Int → Int
  | first :: firsts, second :: seconds =>
      first * second + inner firsts seconds
  | _, _ => 0

def plus (first second : List Int) : List Int :=
  List.zipWith (· + ·) first second

def scaled (factor : Int) (vector : List Int) : List Int :=
  vector.map (factor * ·)

/-- Whether no entry is larger than a bound, in absolute value. -/
def Within (bound : Nat) (vector : List Int) : Prop :=
  ∀ entry ∈ vector, entry.natAbs ≤ bound

def norm : List Int → Nat
  | [] => 0
  | entry :: entries => entry.natAbs + norm entries

def zeros (dimension : Nat) : List Int :=
  List.replicate dimension 0

def combine (dimension : Nat) : List Int → List (List Int) → List Int
  | coefficient :: coefficients, vector :: vectors =>
      plus (scaled coefficient vector) (combine dimension coefficients vectors)
  | _, _ => zeros dimension

/-! ## Lengths -/

@[simp]
theorem length_scaled (factor : Int) (vector : List Int) :
    (scaled factor vector).length = vector.length := by
  simp [scaled]

theorem plus_cons (first second : Int) (firsts seconds : List Int) :
    plus (first :: firsts) (second :: seconds) =
      (first + second) :: plus firsts seconds :=
  List.zipWith_cons_cons

theorem length_plus
    {first second : List Int} (sameLength : first.length = second.length) :
    (plus first second).length = first.length := by
  rw [plus, List.length_zipWith, ← sameLength, Nat.min_self]

theorem length_combine
    {dimension : Nat} {coefficients : List Int} {vectors : List (List Int)}
    (lengths : ∀ vector ∈ vectors, vector.length = dimension) :
    (combine dimension coefficients vectors).length = dimension := by
  induction coefficients generalizing vectors with
  | nil => simp [combine, zeros]
  | cons coefficient coefficients inductionHypothesis =>
      cases vectors with
      | nil => simp [combine, zeros]
      | cons vector vectors =>
          simp only [List.mem_cons, forall_eq_or_imp] at lengths
          have restLength := @inductionHypothesis vectors lengths.2
          rw [combine, length_plus, length_scaled, lengths.1]
          rw [length_scaled, lengths.1, restLength]

/-! ## The inner product -/

theorem inner_comm (first second : List Int) :
    inner first second = inner second first := by
  induction first generalizing second with
  | nil => cases second <;> rfl
  | cons entry entries inductionHypothesis =>
      cases second with
      | nil => rfl
      | cons other others =>
          simp only [inner, inductionHypothesis others, mul_comm]

theorem inner_scaled (vector : List Int) (factor : Int) (other : List Int) :
    inner vector (scaled factor other) = factor * inner vector other := by
  induction vector generalizing other with
  | nil => simp [inner]
  | cons entry entries inductionHypothesis =>
      cases other with
      | nil => simp [inner, scaled]
      | cons otherEntry otherEntries =>
          have rest := inductionHypothesis otherEntries
          simp only [scaled] at rest
          simp only [scaled, List.map_cons, inner, rest]
          ring

theorem inner_scaled_left (factor : Int) (vector other : List Int) :
    inner (scaled factor vector) other = factor * inner vector other := by
  rw [inner_comm, inner_scaled, inner_comm]

theorem inner_concat (vector other : List Int) (entry : Int) :
    inner vector (other ++ [entry]) =
      inner vector other + vector.getD other.length 0 * entry := by
  induction vector generalizing other with
  | nil => simp [inner]
  | cons first rest inductionHypothesis =>
      cases other with
      | nil => cases rest <;> simp [inner]
      | cons otherEntry otherEntries =>
          simp only [List.cons_append, inner, inductionHypothesis,
            List.length_cons, List.getD_cons_succ]
          ring

theorem inner_plus
    (vector : List Int) {first second : List Int}
    (sameLength : first.length = second.length) :
    inner vector (plus first second) =
      inner vector first + inner vector second := by
  induction vector generalizing first second with
  | nil => simp [inner]
  | cons entry entries inductionHypothesis =>
      cases first with
      | nil =>
          have empty : second = [] := by simpa using sameLength.symm
          simp [empty, plus, inner]
      | cons firstEntry firstEntries =>
          cases second with
          | nil => simp at sameLength
          | cons secondEntry secondEntries =>
              simp only [List.length_cons, Nat.add_right_cancel_iff]
                at sameLength
              simp only [plus_cons, inner, inductionHypothesis sameLength]
              ring

theorem inner_zeros (vector : List Int) (dimension : Nat) :
    inner vector (zeros dimension) = 0 := by
  induction vector generalizing dimension with
  | nil => simp [inner]
  | cons entry entries inductionHypothesis =>
      cases dimension with
      | zero => simp [inner, zeros]
      | succ dimension =>
          have rest := inductionHypothesis dimension
          simp only [zeros] at rest
          simp [zeros, List.replicate_succ, inner, rest]

theorem inner_unit
    (vector : List Int) {dimension position : Nat}
    (inside : position < dimension) :
    inner vector ((zeros dimension).set position 1) =
      vector.getD position 0 := by
  induction vector generalizing dimension position with
  | nil => simp [inner]
  | cons entry entries inductionHypothesis =>
      cases dimension with
      | zero => omega
      | succ dimension =>
          cases position with
          | zero =>
              have rest := inner_zeros entries dimension
              simp only [zeros] at rest
              simp [zeros, List.replicate_succ, inner, rest]
          | succ position =>
              have rest := @inductionHypothesis dimension position (by omega)
              simp only [zeros] at rest
              simp [zeros, List.replicate_succ, inner, rest]

/-- The inner product with a combination is the same combination of the inner
products. -/
theorem inner_combine
    (vector : List Int) {dimension : Nat} {coefficients : List Int}
    {vectors : List (List Int)}
    (lengths : ∀ member ∈ vectors, member.length = dimension) :
    inner vector (combine dimension coefficients vectors) =
      inner coefficients (vectors.map (inner vector)) := by
  induction coefficients generalizing vectors with
  | nil => simp [combine, inner, inner_zeros]
  | cons coefficient coefficients inductionHypothesis =>
      cases vectors with
      | nil => simp [combine, inner, inner_zeros]
      | cons member members =>
          simp only [List.mem_cons, forall_eq_or_imp] at lengths
          have restLength := @length_combine _ coefficients _ lengths.2
          rw [combine, inner_plus _ (by rw [length_scaled, lengths.1,
            restLength]), inner_scaled, inductionHypothesis lengths.2]
          simp [inner]

/-- On vectors with entries of absolute value at most two, the inner product
is at most twice the norm. -/
theorem inner_le_norm
    {vector : List Int} (small : Within 2 vector) (other : List Int) :
    (inner vector other).natAbs ≤ 2 * norm other := by
  induction vector generalizing other with
  | nil => simp [inner]
  | cons entry entries inductionHypothesis =>
      cases other with
      | nil => simp [inner]
      | cons otherEntry otherEntries =>
          simp only [Within, List.mem_cons, forall_eq_or_imp] at small
          have rest := inductionHypothesis small.2 otherEntries
          have product : (entry * otherEntry).natAbs ≤ 2 * otherEntry.natAbs := by
            rw [Int.natAbs_mul]
            exact Nat.mul_le_mul_right _ small.1
          simp only [inner, norm]
          have triangle :=
            Int.natAbs_add_le (entry * otherEntry) (inner entries otherEntries)
          omega

theorem within_norm (vector : List Int) : Within (norm vector) vector := by
  intro entry member
  induction vector with
  | nil => cases member
  | cons first rest inductionHypothesis =>
      simp only [norm]
      rcases List.mem_cons.mp member with rfl | later
      · omega
      · have restBound := inductionHypothesis later
        omega

theorem within_of_norm_le
    {bound : Nat} {vector : List Int} (light : norm vector ≤ bound) :
    Within bound vector :=
  fun entry member => (within_norm vector entry member).trans light

theorem norm_scaled (factor : Int) (vector : List Int) :
    norm (scaled factor vector) = factor.natAbs * norm vector := by
  induction vector with
  | nil => simp [scaled, norm]
  | cons entry entries inductionHypothesis =>
      rw [scaled] at inductionHypothesis
      simp only [scaled, List.map_cons, norm, inductionHypothesis,
        Int.natAbs_mul, Nat.mul_add]

theorem norm_plus_le (first second : List Int) :
    norm (plus first second) ≤ norm first + norm second := by
  induction first generalizing second with
  | nil => simp [plus, norm]
  | cons entry entries inductionHypothesis =>
      cases second with
      | nil => simp [plus, norm]
      | cons other others =>
          have rest := inductionHypothesis others
          have triangle := Int.natAbs_add_le entry other
          simp only [plus_cons, norm]
          omega

end RelayFrame.Lattice
