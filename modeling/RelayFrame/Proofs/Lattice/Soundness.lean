import RelayFrame.Proofs.Lattice.Descent

/-!
# The search misses no short vector

A short vector with exact coefficients leads from the root to a leaf: at every
level the digit of its coefficient is neither skipped nor cut.  So the leaf of
its coefficients passes when the search says that all leaves do.
-/

namespace RelayFrame.Lattice

variable {vector : List Int}

/-- The coefficients of a small vector are at most two, as dual vectors are
short. -/
theorem Exact.natAbs_le
    (small : Within 2 vector) {dual : List Int} (exact : Exact vector dual) :
    (coefficient vector dual).natAbs ≤ 2 := by
  have bound := inner_le_norm small dual
  have short := exact.short
  rw [exact.inner_eq] at bound
  omega

theorem within_coefficients
    (small : Within 2 vector) {duals : List (List Int)}
    (exact : ∀ dual ∈ duals, Exact vector dual) :
    Within 2 (duals.map (coefficient vector)) := by
  intro entry member
  obtain ⟨dual, dualMember, rfl⟩ := List.mem_map.mp member
  exact (exact dual dualMember).natAbs_le small

theorem exact_concat
    {earlier : List (List Int)} {dual : List Int}
    (earlierExact : ∀ other ∈ earlier, Exact vector other)
    (exact : Exact vector dual) :
    ∀ other ∈ earlier ++ [dual], Exact vector other := by
  intro other member
  rcases List.mem_append.mp member with earlierMember | new
  · exact earlierExact other earlierMember
  · rw [List.mem_singleton.mp new]
    exact exact

/-! ## One level -/

/-- What the earlier coefficients add to a level's place. -/
def center
    (vector : List Int) (earlier : List (List Int)) (level : Level) : Int :=
  inner level.slopes (earlier.map (coefficient vector))

def placeOf
    (vector : List Int) (earlier : List (List Int)) (level : Level) : Int :=
  64 * coefficient vector level.vector + center vector earlier level

/-- What a level adds to the tilt on the path of a vector. -/
def share
    (vector : List Int) (earlier : List (List Int)) (level : Level) :
    List Int :=
  scaled (level.weight * placeOf vector earlier level) (level.direction earlier)

section Level

variable {earlier : List (List Int)} {level : Level}

theorem length_direction
    (earlierExact : ∀ dual ∈ earlier, Exact vector dual)
    (exact : Exact vector level.vector) :
    (level.direction earlier).length = 24 := by
  rw [Level.direction, length_plus, length_scaled, exact.dimension]
  rw [length_scaled, exact.dimension,
    length_combine fun dual member => (earlierExact dual member).dimension]

/-- Along its direction a vector lies at a multiple of the modulus. -/
theorem inner_direction
    (earlierExact : ∀ dual ∈ earlier, Exact vector dual)
    (exact : Exact vector level.vector) :
    inner vector (level.direction earlier) =
      2 ^ 57 * placeOf vector earlier level := by
  have lengths : ∀ dual ∈ earlier, dual.length = 24 :=
    fun dual member => (earlierExact dual member).dimension
  have sameLength :
      (scaled 64 level.vector).length =
        (combine 24 level.slopes earlier).length := by
    rw [length_scaled, exact.dimension, length_combine lengths]
  rw [Level.direction, inner_plus _ sameLength, inner_scaled,
    inner_combine _ lengths, map_inner_eq earlierExact, inner_scaled,
    exact.inner_eq, placeOf, center]
  ring

theorem natAbs_placeOf_le
    (small : Within 2 vector)
    (earlierExact : ∀ dual ∈ earlier, Exact vector dual)
    (exact : Exact vector level.vector) :
    (placeOf vector earlier level).natAbs ≤ level.radius earlier := by
  have bound := inner_le_norm small (level.direction earlier)
  rw [inner_direction earlierExact exact, Int.natAbs_mul] at bound
  rw [Level.radius, Nat.le_div_iff_mul_le (by decide), Nat.mul_comm]
  exact bound

theorem length_share
    (earlierExact : ∀ dual ∈ earlier, Exact vector dual)
    (exact : Exact vector level.vector) :
    (share vector earlier level).length = 24 := by
  rw [share, length_scaled, length_direction earlierExact exact]

theorem inner_share
    (earlierExact : ∀ dual ∈ earlier, Exact vector dual)
    (exact : Exact vector level.vector) :
    inner vector (share vector earlier level) =
      2 ^ 57 * (level.weight * placeOf vector earlier level ^ 2) := by
  rw [share, inner_scaled, inner_direction earlierExact exact]
  ring

/-- What a level adds keeps the tilt inside its lanes. -/
theorem norm_share_le
    (small : Within 2 vector)
    (earlierExact : ∀ dual ∈ earlier, Exact vector dual)
    (exact : Exact vector level.vector)
    (fits : level.fits earlier = true) :
    norm (share vector earlier level) ≤ 2 ^ 94 := by
  have near := natAbs_placeOf_le small earlierExact exact
  rw [share, norm_scaled, Int.natAbs_mul, Int.natAbs_natCast]
  calc level.weight * (placeOf vector earlier level).natAbs *
        norm (level.direction earlier)
      ≤ level.weight * level.radius earlier *
          norm (level.direction earlier) := by gcongr
    _ ≤ 2 ^ 94 := (Level.fits_iff.mp fits).2.2.2

theorem natAbs_center_le
    (small : Within 2 vector)
    (earlierExact : ∀ dual ∈ earlier, Exact vector dual)
    (gentle : norm level.slopes ≤ 2 ^ 31) :
    (center vector earlier level).natAbs ≤ 2 ^ 32 := by
  have bound :=
    inner_le_norm (within_coefficients small earlierExact) level.slopes
  rw [inner_comm] at bound
  rw [center]
  omega

theorem within_centers
    {levels : List Level} (small : Within 2 vector)
    (earlierExact : ∀ dual ∈ earlier, Exact vector dual)
    (gentle : ∀ level ∈ levels, norm level.slopes ≤ 2 ^ 31) :
    Within (2 ^ 32) (levels.map (center vector earlier)) := by
  intro entry member
  obtain ⟨level, levelMember, rfl⟩ := List.mem_map.mp member
  exact natAbs_center_le small earlierExact (gentle level levelMember)

theorem center_concat
    (dual : List Int) :
    center vector (earlier ++ [dual]) level =
      center vector earlier level +
        level.slopes.getD earlier.length 0 * coefficient vector dual := by
  rw [center, center, List.map_append, List.map_singleton, inner_concat,
    List.length_map]

end Level

/-! ## The path of a vector -/

/-- A node with the vector's coefficients at the earlier dual vectors. -/
structure OnPath
    (vector : List Int) (earlier : List (List Int)) (levels : List Level)
    (node : Node) : Prop where
  fresh :
    node.fresh = true →
      Leading (levels.map (coefficient vector ·.vector))
  known :
    node.known = (earlier.map (lift 2 <| coefficient vector ·)).reverse
  centers :
    node.centers =
      pack 64 ((levels.map (center vector earlier)).map (lift (2 ^ 32)))
  tilt :
    ∃ sum : List Int,
      sum.length = 24 ∧
        norm sum + levels.length * 2 ^ 94 ≤ 2 ^ 99 ∧
          node.tilt = pack 128 (sum.map (lift (2 ^ 100))) ∧
            inner vector sum = 2 ^ 57 * node.energy

section Child

variable
  {earlier : List (List Int)} {level : Level} {levels : List Level}
  {node : Node}

/-- The lowest lane holds the center of the level that is next. -/
theorem OnPath.centers_mod
    (small : Within 2 vector)
    (earlierExact : ∀ dual ∈ earlier, Exact vector dual)
    (gentle : norm level.slopes ≤ 2 ^ 31)
    (onPath : OnPath vector earlier (level :: levels) node) :
    node.centers % 2 ^ 64 = lift (2 ^ 32) (center vector earlier level) := by
  have centerBound := natAbs_center_le small earlierExact gentle
  rw [onPath.centers, List.map_cons, List.map_cons, pack,
    Nat.add_mul_mod_self_left, Nat.mod_eq_of_lt]
  rw [lift]
  omega

/-- The other lanes are the centers of the levels after this one. -/
theorem OnPath.centers_div
    (small : Within 2 vector)
    (earlierExact : ∀ dual ∈ earlier, Exact vector dual)
    (gentle : norm level.slopes ≤ 2 ^ 31)
    (onPath : OnPath vector earlier (level :: levels) node) :
    node.centers / 2 ^ 64 =
      pack 64 ((levels.map (center vector earlier)).map (lift (2 ^ 32))) := by
  have centerBound := natAbs_center_le small earlierExact gentle
  rw [onPath.centers, List.map_cons, List.map_cons, pack,
    Nat.add_mul_div_left _ _ (by decide), Nat.div_eq_of_lt, Nat.zero_add]
  rw [lift]
  omega

/-- The search computes the place of the coefficient, counted from the origin.
-/
theorem place_eq
    (small : Within 2 vector)
    (earlierExact : ∀ dual ∈ earlier, Exact vector dual)
    (exact : Exact vector level.vector)
    (gentle : norm level.slopes ≤ 2 ^ 31)
    (onPath : OnPath vector earlier (level :: levels) node) :
    (node.place (lift 2 (coefficient vector level.vector)) : Int) =
      origin + placeOf vector earlier level := by
  have centerBound := natAbs_center_le small earlierExact gentle
  have bound := exact.natAbs_le small
  rw [Node.place, onPath.centers_mod small earlierExact gentle, origin, placeOf,
    lift, lift]
  omega

theorem distance_eq {place : Nat} {offset : Int}
    (moved : (place : Int) = origin + offset) :
    distance place origin = offset.natAbs := by
  rw [distance]
  omega

/-- The coefficient's digit is not left out. -/
theorem not_skips
    (small : Within 2 vector)
    (earlierExact : ∀ dual ∈ earlier, Exact vector dual)
    (exact : Exact vector level.vector)
    (gentle : norm level.slopes ≤ 2 ^ 31)
    (onPath : OnPath vector earlier (level :: levels) node)
    {plan : Plan} (sameRadius : plan.radius = level.radius earlier) :
    plan.skips node (lift 2 (coefficient vector level.vector)) = false := by
  have place := place_eq small earlierExact exact gentle onPath
  have near := natAbs_placeOf_le small earlierExact exact
  have notFirst :
      (node.fresh &&
        Nat.blt (lift 2 (coefficient vector level.vector)) 2) = false := by
    cases fresh : node.fresh with
    | false => rfl
    | true =>
        have leading := onPath.fresh fresh
        rw [List.map_cons, Leading] at leading
        have nonnegative : 0 ≤ coefficient vector level.vector := by omega
        rw [Bool.true_and, ← Bool.not_eq_true, Nat.blt_eq, lift]
        omega
  rw [Plan.skips, notFirst, Bool.false_or, ← Bool.not_eq_true, Nat.blt_eq,
    distance_eq place, sameRadius]
  exact Nat.not_lt.mpr near

theorem plus_map (first second : Level → Int) (levels : List Level) :
    plus (levels.map first) (levels.map second) =
      levels.map fun level => first level + second level := by
  rw [plus, List.zipWith_map, List.zipWith_self]

/-- The centers of the child are those that the longer path asks for. -/
theorem child_centers
    (small : Within 2 vector)
    (earlierExact : ∀ dual ∈ earlier, Exact vector dual)
    (exact : Exact vector level.vector)
    (gentle : ∀ other ∈ level :: levels, norm other.slopes ≤ 2 ^ 31)
    (onPath : OnPath vector earlier (level :: levels) node) :
    ((level.plan earlier levels).child node
        (lift 2 (coefficient vector level.vector))).centers =
      pack 64
        ((levels.map (center vector (earlier ++ [level.vector]))).map
          (lift (2 ^ 32))) := by
  have bound := exact.natAbs_le small
  have step :
      ((lift 2 (coefficient vector level.vector) : Nat) : Int) - (2 : Nat) =
        coefficient vector level.vector := by
    rw [lift]
    omega
  have moved :
      plus (levels.map (center vector earlier))
          (scaled ((lift 2 (coefficient vector level.vector) : Nat) - (2 : Nat))
            (levels.map (·.slopes.getD earlier.length 0))) =
        levels.map (center vector (earlier ++ [level.vector])) := by
    rw [step, scaled, List.map_map, plus_map]
    apply List.map_congr_left
    intro other _
    rw [center_concat, Function.comp_apply, mul_comm]
  have gentleLater : ∀ other ∈ levels, norm other.slopes ≤ 2 ^ 31 :=
    fun other member => gentle other (List.mem_cons_of_mem _ member)
  have stillWithin :=
    within_centers small (exact_concat earlierExact exact) gentleLater
  rw [Plan.child, Level.plan]
  simp only []
  rw [onPath.centers_div small earlierExact (gentle level List.mem_cons_self),
    shift_pack_lift (by simp) (within_centers small earlierExact gentleLater)
      (by rw [moved]; exact stillWithin), moved]

/-- The digit's part in the tilt is the level's share. -/
theorem child_tilt
    (small : Within 2 vector)
    (earlierExact : ∀ dual ∈ earlier, Exact vector dual)
    (exact : Exact vector level.vector)
    (gentle : norm level.slopes ≤ 2 ^ 31)
    (onPath : OnPath vector earlier (level :: levels) node)
    {sum : List Int} (dimension : sum.length = 24)
    (tilt : node.tilt = pack 128 (sum.map (lift (2 ^ 100))))
    (within : Within (2 ^ 100) sum)
    (stillWithin : Within (2 ^ 100) (plus sum (share vector earlier level))) :
    ((level.plan earlier levels).child node
        (lift 2 (coefficient vector level.vector))).tilt =
      pack 128
        ((plus sum (share vector earlier level)).map (lift (2 ^ 100))) := by
  have sameLength : sum.length = (level.direction earlier).length := by
    rw [dimension, length_direction earlierExact exact]
  have factor :
      ((level.weight *
              node.place (lift 2 (coefficient vector level.vector)) : Nat) :
            Int) - (level.weight * origin : Nat) =
        level.weight * placeOf vector earlier level := by
    push_cast
    rw [place_eq small earlierExact exact gentle onPath]
    ring
  rw [share] at stillWithin ⊢
  rw [Plan.child, Level.plan]
  simp only []
  rw [tilt, shift_pack_lift sameLength within
    (by rw [factor]; exact stillWithin), factor]

/-- The energy of the child is that of the node and the level together. -/
theorem child_energy
    (small : Within 2 vector)
    (earlierExact : ∀ dual ∈ earlier, Exact vector dual)
    (exact : Exact vector level.vector)
    (gentle : norm level.slopes ≤ 2 ^ 31)
    (onPath : OnPath vector earlier (level :: levels) node) :
    (((level.plan earlier levels).child node
        (lift 2 (coefficient vector level.vector))).energy : Int) =
      node.energy + level.weight * placeOf vector earlier level ^ 2 := by
  have place := place_eq small earlierExact exact gentle onPath
  rw [Plan.child, Level.plan]
  simp only [Nat.cast_add, Nat.cast_mul]
  rw [distance_eq place, Nat.cast_pow, Int.natAbs_sq]

/-- The energy of a vector on the path is within reach. -/
theorem OnPath.not_isCut
    {rest : List Level}
    (small : Within 2 vector) (onPath : OnPath vector earlier rest node) :
    node.isCut = false := by
  obtain ⟨sum, dimension, room, tilt, energy⟩ := onPath.tilt
  have bound := inner_le_norm small sum
  rw [energy] at bound
  rw [Node.isCut, ← Bool.not_eq_true, Nat.blt_eq, tilt,
    magnitude_pack_lift dimension (within_of_norm_le (by omega))]
  omega

/-- The coefficient's digit leads on along the path. -/
theorem child_onPath
    (small : Within 2 vector)
    (earlierExact : ∀ dual ∈ earlier, Exact vector dual)
    (exact : Exact vector level.vector)
    (gentle : ∀ other ∈ level :: levels, norm other.slopes ≤ 2 ^ 31)
    (fits : level.fits earlier = true)
    (onPath : OnPath vector earlier (level :: levels) node) :
    OnPath vector (earlier ++ [level.vector]) levels
      ((level.plan earlier levels).child node
        (lift 2 (coefficient vector level.vector))) where
  fresh := by
    intro fresh
    have bound := exact.natAbs_le small
    rw [Plan.child, Bool.and_eq_true, Nat.beq_eq] at fresh
    have leading := onPath.fresh fresh.1
    rw [List.map_cons, Leading] at leading
    have zero : coefficient vector level.vector = 0 := by
      have digit := fresh.2
      rw [lift] at digit
      omega
    rw [zero] at leading
    simpa using leading
  known := by
    rw [Plan.child, List.map_append, List.reverse_append, onPath.known]
    rfl
  centers := child_centers small earlierExact exact gentle onPath
  tilt := by
    obtain ⟨sum, dimension, room, tilt, energy⟩ := onPath.tilt
    have gentleHere := gentle level List.mem_cons_self
    have added := norm_share_le small earlierExact exact fits
    have total := norm_plus_le sum (share vector earlier level)
    have sameLength : sum.length = (share vector earlier level).length := by
      rw [dimension, length_share earlierExact exact]
    rw [List.length_cons, Nat.add_mul, Nat.one_mul] at room
    refine ⟨plus sum (share vector earlier level), ?_, by omega, ?_, ?_⟩
    · rw [length_plus sameLength, dimension]
    · exact
        child_tilt small earlierExact exact gentleHere onPath dimension tilt
          (within_of_norm_le (by omega)) (within_of_norm_le (by omega))
    · rw [inner_plus _ sameLength, energy, inner_share earlierExact exact,
        child_energy small earlierExact exact gentleHere onPath, Int.mul_add]

end Child

/-! ## The whole path -/

theorem gentle_of_fits
    {earlier : List (List Int)} {levels : List Level}
    (fitting : fits earlier levels = true) :
    ∀ level ∈ levels, norm level.slopes ≤ 2 ^ 31 := by
  induction levels generalizing earlier with
  | nil => simp
  | cons level levels inductionHypothesis =>
      rw [fits, Bool.and_eq_true] at fitting
      intro other member
      rcases List.mem_cons.mp member with rfl | later
      · exact (Level.fits_iff.mp fitting.1).2.2.1
      · exact inductionHypothesis fitting.2 other later

theorem exact_of_fits
    {earlier : List (List Int)} {levels : List Level}
    (fitting : fits earlier levels = true)
    (divides : ∀ level ∈ levels, 2 ^ 57 ∣ inner vector level.vector) :
    ∀ level ∈ levels, Exact vector level.vector := by
  induction levels generalizing earlier with
  | nil => simp
  | cons level levels inductionHypothesis =>
      rw [fits, Bool.and_eq_true] at fitting
      simp only [List.mem_cons, forall_eq_or_imp] at divides ⊢
      obtain ⟨dimension, short, -, -⟩ := Level.fits_iff.mp fitting.1
      exact ⟨⟨dimension, short, divides.1⟩,
        inductionHypothesis fitting.2 divides.2⟩

/-- The path begins at the root. -/
theorem root_onPath
    {levels : List Level} (depth : levels.length = 24)
    (leading : Leading (levels.map (coefficient vector ·.vector))) :
    OnPath vector [] levels root where
  fresh _ := leading
  known := rfl
  centers := by
    have none (level : Level) : center vector [] level = 0 := by
      rw [center, List.map_nil, inner_comm]
      rfl
    rw [List.map_map, List.map_eq_replicate_iff.mpr fun level _ => by
      rw [Function.comp_apply, none], depth]
    rfl
  tilt := by
    refine ⟨zeros 24, List.length_replicate, ?_, ?_, ?_⟩
    · rw [depth]
      decide
    · decide +kernel
    · rw [inner_zeros]
      rfl

/-- The leaf of a short vector passes when all leaves do. -/
theorem leaf_of_search
    (small : Within 2 vector) {leaf : List Nat → Bool}
    {earlier : List (List Int)} {levels : List Level} {node : Node}
    (fitting : fits earlier levels = true)
    (earlierExact : ∀ dual ∈ earlier, Exact vector dual)
    (divides : ∀ level ∈ levels, 2 ^ 57 ∣ inner vector level.vector)
    (onPath : OnPath vector earlier levels node)
    (passes : search leaf (prepare earlier levels) node = true) :
    leaf
        ((earlier ++ levels.map (·.vector)).map
          (lift 2 <| coefficient vector ·)).reverse = true := by
  induction levels generalizing earlier node with
  | nil =>
      rw [prepare, search, onPath.known] at passes
      simpa using passes
  | cons level levels inductionHypothesis =>
      have gentle := gentle_of_fits fitting
      have exact := exact_of_fits fitting divides level List.mem_cons_self
      rw [fits, Bool.and_eq_true] at fitting
      have bound := exact.natAbs_le small
      have next := child_onPath small earlierExact exact gentle fitting.1 onPath
      have notSkipped :=
        not_skips small earlierExact exact (gentle level List.mem_cons_self)
          onPath (show (level.plan earlier levels).radius = _ from rfl)
      rw [prepare, search, List.all_eq_true] at passes
      have tried :
          lift 2 (coefficient vector level.vector) ∈ [0, 1, 2, 3, 4] := by
        simp only [List.mem_cons, List.not_mem_nil, lift]
        omega
      have childPasses := passes _ tried
      rw [notSkipped, next.not_isCut small, Bool.false_or, Bool.false_or]
        at childPasses
      have reached :=
        inductionHypothesis fitting.2 (exact_concat earlierExact exact)
          (fun other member => divides other (List.mem_cons_of_mem _ member))
          next childPasses
      rw [List.append_assoc, List.singleton_append] at reached
      exact reached

end RelayFrame.Lattice
