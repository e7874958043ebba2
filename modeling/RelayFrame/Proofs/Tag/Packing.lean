import RelayFrame.Proofs.Tag.Fields

/-!
# Hashes made of fields

A hash can be put together from segments that lie side by side, lowest first,
and each segment is then the field at its place.  So fields that do not
overlap can be given any values at once, and a field inside another one is a
quotient of it.
-/

namespace RelayFrame.Chonkle

/-! ## Segments -/

structure Segment where
  width : Nat
  value : Nat
  value_lt : value < 2 ^ width

namespace Segment

def low (width number : Nat) : Segment :=
  ⟨width, number % 2 ^ width, Nat.mod_lt _ (Nat.two_pow_pos width)⟩

def span (segments : List Segment) : Nat :=
  (segments.map width).sum

/-- The number that segments form side by side, lowest first. -/
def pack : List Segment → Nat
  | [] => 0
  | segment :: rest => segment.value + 2 ^ segment.width * pack rest

theorem pack_append (front back : List Segment) :
    pack (front ++ back) = pack front + 2 ^ span front * pack back := by
  induction front with
  | nil => simp [pack, span]
  | cons segment rest inductionHypothesis =>
      simp only [List.cons_append, pack, inductionHypothesis, span,
        List.map_cons, List.sum_cons, Nat.pow_add, Nat.mul_add,
        Nat.mul_assoc, Nat.add_assoc]

/-- Segments have no bits beyond those they take together. -/
theorem pack_lt (segments : List Segment) :
    pack segments < 2 ^ span segments := by
  induction segments with
  | nil => simp [pack, span]
  | cons segment rest inductionHypothesis =>
      have valueBound := segment.value_lt
      have restBound : pack rest + 1 ≤ 2 ^ span rest := inductionHypothesis
      have product :
          2 ^ segment.width * (pack rest + 1) ≤
            2 ^ segment.width * 2 ^ span rest :=
        Nat.mul_le_mul_left _ restBound
      have total : span (segment :: rest) = segment.width + span rest := by
        simp [span]
      rw [pack, total, Nat.pow_add]
      rw [Nat.mul_add, Nat.mul_one] at product
      omega

/-- A segment can be read off at its place. -/
theorem pack_div_mod
    (front : List Segment) (segment : Segment) (back : List Segment) :
    pack (front ++ segment :: back) / 2 ^ span front % 2 ^ segment.width =
      segment.value := by
  rw [pack_append, Nat.add_mul_div_left _ _ (Nat.two_pow_pos _),
    Nat.div_eq_of_lt (pack_lt front), Nat.zero_add, pack,
    Nat.add_mul_mod_self_left, Nat.mod_eq_of_lt segment.value_lt]

/-- The hash that segments form side by side, lowest first. -/
def hash (segments : List Segment) : UInt64 :=
  UInt64.ofNat (pack segments)

/-- A segment is read off as the field at its place. -/
theorem field_hash
    {front back : List Segment} {segment : Segment}
    (fits : span (front ++ segment :: back) ≤ 64) :
    field (hash (front ++ segment :: back)) (span front) segment.width =
      segment.value := by
  have bound : pack (front ++ segment :: back) < UInt64.size :=
    (pack_lt _).trans_le (Nat.pow_le_pow_right (by decide) fits)
  rw [field_eq, hash, UInt64.toNat_ofNat_of_lt' bound, pack_div_mod]

/-- Whether segments are the fields of a hash that lie side by side from a
place on. -/
def LieIn (hash : UInt64) : (place : Nat) → List Segment → Prop
  | _, [] => True
  | place, segment :: rest =>
      field hash place segment.width = segment.value ∧
        LieIn hash (place + segment.width) rest

theorem lieIn_hash_append
    (front back : List Segment) (fits : span (front ++ back) ≤ 64) :
    LieIn (hash (front ++ back)) (span front) back := by
  induction back generalizing front with
  | nil => trivial
  | cons segment rest inductionHypothesis =>
      have moved : front ++ segment :: rest = (front ++ [segment]) ++ rest := by
        simp
      have next : span (front ++ [segment]) = span front + segment.width := by
        simp [span]
      refine ⟨field_hash fits, ?_⟩
      rw [moved, ← next]
      exact inductionHypothesis (front ++ [segment]) (moved ▸ fits)

/-- Segments that a hash has room for are its fields. -/
theorem lieIn_hash {segments : List Segment} (fits : span segments ≤ 64) :
    LieIn (hash segments) 0 segments :=
  lieIn_hash_append [] segments fits

end Segment

/-! ## Fields inside fields -/

/-- The upper bits of a field are a field of their own. -/
theorem field_add_low (hash : UInt64) (low shift width : Nat) :
    field hash (low + shift) width =
      field hash low (shift + width) / 2 ^ shift := by
  rw [field_eq, field_eq, Nat.pow_add, ← Nat.div_div_eq_div_mul, Nat.pow_add,
    Nat.mod_mul_right_div_self]

/-- Every number of as many bits is the value of a field. -/
theorem exists_field_eq
    {low width value : Nat} (inside : low + width ≤ 64)
    (bound : value < 2 ^ width) :
    ∃ hash, field hash low width = value := by
  let segment : Segment := ⟨width, value, bound⟩
  have start : Segment.span [Segment.low low 0] = low := by
    simp [Segment.span, Segment.low]
  have fits : Segment.span ([Segment.low low 0] ++ [segment]) ≤ 64 := by
    simpa [Segment.span, Segment.low, segment] using inside
  have value := Segment.field_hash fits
  rw [start] at value
  exact ⟨_, value⟩

end RelayFrame.Chonkle
