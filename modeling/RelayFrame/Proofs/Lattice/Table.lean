import RelayFrame.Proofs.Lattice.Descent
import RelayFrame.Tag.Chonkle

/-!
# Short residues of the prime's powers

Residues modulo `2 ^ 57` of multiples of the prime's powers are short for some
multipliers.  The table lists 24 of them, found by reducing the lattice of all
such residues, and the search over it passes at every leaf.
-/

namespace RelayFrame.Lattice

def powers : Nat → List Int
  | 0 => []
  | exponent + 1 => Hash.prime.toNat ^ exponent :: powers exponent

def dual (multiplier : Int) : List Int :=
  (powers 24).map fun power => Int.bmod (multiplier * power) (2 ^ 57)

/-- Multipliers whose residues are short, with slopes and weights. -/
def table : List (Int × List Int × Nat) :=
  [
    (17689472085736378, [], 5),
    (5169533839408445, [-30], 6),
    (-2514748028024938, [-5, 27], 6),
    (13465358248622553, [-9, 33, 16], 5),
    (14794879382500089, [-31, 12, -8, 10], 5),
    (6660111688519348, [-24, -6, -15, -11, 29], 6),
    (4734505231548879, [9, 34, 26, 9, -40, -27], 7),
    (-693912977776799, [48, -50, -25, -23, -26, -20, -3], 6),
    (2028938063641718, [27, -49, -8, -17, -2, 20, -19, 13], 6),
    (8114776632519556, [36, -44, -5, -23, -20, -20, -24, 21, 24], 7),
    (-7047059484953666, [3, 29, 6, 25, 20, -1, 8, 21, 12, -22], 8),
    (-14966249458355870, [-22, 18, -37, 13, 38, 10, -13, 7, -33, -7, -19], 8),
    (10967239969972517, [41, -68, 29, -56, -68, -30, 8, 33, 51, 38, -14,
      -28], 8),
    (10831094794329321, [30, -48, -19, -24, -15, 10, -31, -1, -19, 2, -13,
      -20, -26], 9),
    (-6519402929242380, [36, -87, -20, -23, 7, 25, -18, 9, 48, 13, -18, -18,
      28, -23], 10),
    (3281889508465091, [-18, 92, 37, 48, -40, -48, 12, 2, -3, 15, 36, -1, -9,
      -18, -32], 10),
    (-4890237104965739, [-22, 34, 0, 27, 73, 40, -4, -30, 0, -26, 22, 18, 10,
      -46, 20, 24], 10),
    (-8221168501406806, [-49, -24, -23, 28, 105, 63, -12, -38, 11, -16, 12,
      -3, 28, -38, 40, -14, 27], 12),
    (14922537330788314, [-44, 92, -22, 57, 118, 44, -9, -20, -27, -64, 44, 44,
      -7, -67, 16, 15, 39, 32], 13),
    (14039244088488196, [-76, 99, 18, 78, 79, -6, 34, -25, -18, -39, 41, 40,
      3, -63, -12, 32, 42, 24, 0], 12),
    (-12275892275101442, [90, -158, -16, -85, -23, 14, -27, 22, 55, 50, -21,
      -73, 44, 37, 67, -43, 6, -1, -26, -28], 14),
    (-19316196606057240, [47, -141, -48, -26, 40, 77, -41, -20, 73, 23, -27,
      -53, 27, 2, 66, -51, -5, 29, -21, 1, 26], 14),
    (-6719489210804901, [-54, 99, 43, 49, 83, -13, 49, -12, -20, -22, 60, 42,
      37, -60, -3, 43, 63, 30, 17, 16, 16, -26], 16),
    (-6765950552195434, [61, -266, -35, -121, -33, 67, -86, -1, 79, 96, -109,
      -89, 39, 81, 75, -70, -25, -10, -39, -35, 19, 10, -29], 15)
  ]

def levels : List Level :=
  table.map fun row => ⟨dual row.1, row.2.1, row.2.2⟩

/-- The coordinates of a vector, each as a combination of its coefficients. -/
def coordinates : List (List Int) :=
  [
    [8, -15, -4, -9, -5, 0, -2, 2, 3, 4, -5, -4, 1, 4, 3, -4, -2, -2, -2, -1,
      1, 0, -2, 1],
    [-5, 13, 3, 4, 2, -3, 4, 0, -4, -5, 6, 4, -2, -3, -4, 4, 0, 0, 2, 0, -2,
      -3, 2, -2],
    [-3, 4, -1, 4, 9, 3, 2, 0, 1, -2, 4, 4, 1, -6, 2, 1, 3, 3, 1, 3, 1, 1, 2,
      -1],
    [-9, 16, 2, 8, 2, -5, 5, -1, -6, -4, 2, 9, -2, -5, -6, 5, 1, 0, 2, 3, -5,
      -2, 1, -1],
    [-4, 6, 1, 3, 3, -3, 2, 1, -3, -2, 4, 3, 0, -2, -3, 2, 2, 0, 1, 2, 1, -2,
      1, -1],
    [3, -9, 2, -5, -7, -1, -2, 2, 4, 4, -5, -4, 0, 4, 0, -3, -4, -2, -2, -1,
      -1, 0, -4, 2],
    [4, -9, -5, -2, 0, 4, -4, 0, 3, 1, -2, -2, 0, 0, 3, -3, -2, 2, 0, -2, 0,
      2, -2, -2],
    [5, -2, 2, -3, -6, -3, 2, 3, 4, 1, 2, -2, 2, 1, -1, -1, -1, -1, 0, 0, 0,
      1, 1, -2],
    [1, -13, -4, -4, 4, 7, -4, -2, 7, 2, -5, -4, 4, 0, 7, -5, -1, 1, -1, -1,
      2, 2, -1, 2],
    [5, -8, -1, -7, -8, -1, -3, 3, 0, 3, -5, -1, -1, 7, 0, -1, -3, -3, 0, -2,
      0, -2, -1, 1],
    [2, 3, 1, 2, -3, -3, 4, 2, -2, -3, 1, 1, 0, -1, -1, 0, -2, 0, 1, 1, 0, 1,
      1, -2],
    [-1, -1, -1, 1, 4, 3, 0, 0, 0, -2, 1, 2, 2, -1, 1, -1, 2, 1, -1, 0, 0, -1,
      0, 1],
    [-1, 8, 5, 2, -4, -5, 4, 0, -1, 2, 2, 2, 1, -2, -4, 3, 0, 0, 1, 0, 0, -2,
      2, 0],
    [0, 2, 0, 3, 2, -1, 0, 0, 2, -2, 3, 1, 0, -3, -1, 3, 2, 2, 1, 2, 0, 1, 1,
      0],
    [-1, 2, 1, 0, -4, 0, 1, 1, 1, 0, 0, 0, 0, -2, -2, 3, 0, -2, 0, 1, -2, 0,
      -1, 0],
    [0, 1, 1, 2, 1, 1, 2, -2, 1, -1, 2, -1, 0, -1, 2, 1, 2, 0, 0, -1, 1, 0, 0,
      0],
    [1, 7, 2, 3, -3, -4, 1, 1, -2, -2, 2, 3, -3, -2, -2, 2, 0, -3, 1, 1, -1,
      -1, 0, -1],
    [5, -9, -1, -3, -8, -1, -2, 1, 3, 5, -4, -4, -2, 7, -1, -2, -5, -3, -5, 0,
      0, 2, -1, 0],
    [0, 8, -1, 3, -4, -4, 0, 2, -2, -1, 2, 2, -3, 0, -3, 2, -3, -2, 1, 0, -1,
      1, -3, -1],
    [4, -3, -1, -3, 1, 1, -2, 2, 1, 1, -1, 1, 1, 0, 1, 0, 1, -2, 1, -3, 1, 0,
      1, 0],
    [-4, 8, 2, 4, 5, 1, 2, -4, -2, -4, 2, 3, 0, -4, -1, 2, 3, 1, 0, 3, 0, 1,
      0, -2],
    [-3, 5, -3, 2, 1, 3, -1, -2, -4, -4, -1, 3, -6, 2, -4, -2, -3, -1, 2, 0,
      -3, 2, -2, 0],
    [-3, 15, 2, 5, -1, -5, 6, 1, -5, -5, 4, 4, -3, -2, -5, 3, 1, -1, 1, 1, 0,
      -2, 1, -3],
    [-4, 11, 0, 8, 9, 2, 1, -2, -3, -6, 5, 4, -2, -5, -1, 3, 3, 2, 4, 2, -2,
      -1, 0, -1]
  ]

/-- Whether all coefficients are zero or a coordinate is more than two. -/
def leaf (known : List Nat) : Bool :=
  known.all (Nat.beq · 2) ||
    coordinates.any fun row =>
      Nat.blt 2
        (inner row (known.reverse.map fun digit => (digit : Int) - 2)).natAbs

theorem levels_fit : fits [] levels = true := by
  decide +kernel

theorem combine_coordinates :
    coordinates.map (combine 24 · (levels.map (·.vector))) =
      (List.range 24).map fun position =>
        scaled (2 ^ 57) ((zeros 24).set position 1) := by
  decide +kernel

theorem search_passes : search leaf (prepare [] levels) root = true := by
  decide +kernel

end RelayFrame.Lattice
