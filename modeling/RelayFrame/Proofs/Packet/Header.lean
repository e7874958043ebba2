import Mathlib.Data.List.Forall2
import RelayFrame.Packet.Admission
import RelayFrame.Proofs.Packet.Parts
import RelayFrame.Proofs.Tag.Fields

/-!
# Headers that pass

The first check reports nothing exactly when every byte of the header lies in
its band.  Whatever the hash, the bytes of its tag lie in the bands after the
first one, so a packet with a genuine Chonkle passes exactly when its type
byte is a packet type.
-/

namespace RelayFrame.Packet

/-! ## Bands -/

def InBands (bands : List Band) (bytes : Bytes) : Prop :=
  List.Forall₂ (fun band byte => band.admits byte = true) bands bytes

theorem firstOutOfBand?_append
    {bands : List Band} {bytes : Bytes} (inBands : InBands bands bytes)
    (index : Nat) (rest : Bytes) :
    firstOutOfBand? index bands (bytes ++ rest) = none := by
  induction inBands generalizing index with
  | nil => rfl
  | cons admitted _ inductionHypothesis =>
      rw [List.cons_append, firstOutOfBand?, if_pos admitted]
      exact inductionHypothesis (index + 1)

theorem Band.admits_between_ofNat
    {low high : UInt8} {value : Nat}
    (atLeast : low.toNat ≤ value) (atMost : value ≤ high.toNat) :
    (Band.between low high).admits (UInt8.ofNat value) = true := by
  have highBound := high.toNat_lt
  have valueBound : value < 256 := by omega
  simp only [Band.admits, Bool.and_eq_true, decide_eq_true_eq,
    UInt8.le_iff_toNat_le, UInt8.toNat_ofNat', Nat.mod_eq_of_lt valueBound]
  exact ⟨atLeast, atMost⟩

theorem Band.admits_between_field
    {low high : UInt8} {base width : Nat} (hash : UInt64) (start : Nat)
    (atLeast : low.toNat ≤ base) (atMost : base + 2 ^ width ≤ high.toNat + 1) :
    (Band.between low high).admits
      (UInt8.ofNat (Chonkle.field hash start width + base)) = true := by
  have bound := Chonkle.field_lt hash start width
  exact Band.admits_between_ofNat (by omega) (by omega)

/-! ## The bands of the tag -/

def tagBands : List Band :=
  headerBands.tail

theorem headerBands_eq :
    headerBands = .between typeMinimum typeMaximum :: tagBands := rfl

theorem admits_choice (value : Nat) :
    (Band.oneOf [0x61, 0x05, 0x2b, 0x0d]).admits
      (UInt8.ofNat (Chonkle.choice value)) = true := by
  unfold Chonkle.choice
  split <;> decide

/-- Every tag passes the bands, whatever the hash. -/
theorem inBands_scatter (hash : UInt64) :
    InBands tagBands (Chonkle.scatter hash).toList := by
  rw [Chonkle.toList_scatter]
  refine .cons (Band.admits_between_field hash 54 (by decide) (by decide)) ?_
  refine .cons (Band.admits_between_field hash 24 (by decide) (by decide)) ?_
  refine .cons (Band.admits_between_field hash 18 (by decide) (by decide)) ?_
  refine .cons rfl ?_
  refine .cons (Band.admits_between_field hash 16 (by decide) (by decide)) ?_
  refine .cons (Band.admits_between_field hash 32 (by decide) (by decide)) ?_
  refine .cons (Band.admits_between_field hash 10 (by decide) (by decide)) ?_
  refine .cons (by split <;> decide) ?_
  refine .cons (by split <;> decide) ?_
  refine .cons (Band.admits_between_field hash 40 (by decide) (by decide)) ?_
  refine .cons (Band.admits_between_field hash 13 (by decide) (by decide)) ?_
  refine .cons (Band.admits_between_field hash 48 (by decide) (by decide)) ?_
  refine .cons (admits_choice _) ?_
  refine .cons (Band.admits_between_field hash 43 (by decide) (by decide)) ?_
  refine .cons (Band.admits_between_field hash 57 (by decide) (by decide)) ?_
  exact .nil

/-- A packet with a genuine Chonkle passes the first check exactly when its
first byte is a packet type. -/
theorem hasPlausibleHeader_assemble_scatter
    (type : UInt8) (hash : UInt64) (body : Bytes) (pittle : Pittle) :
    hasPlausibleHeader
        (assemble type (Chonkle.scatter hash) body pittle) =
      isType type := by
  have long :
      ¬ (assemble type (Chonkle.scatter hash) body pittle).length <
        minimumLength := by
    rw [length_assemble]
    omega
  have tagPasses :
      firstOutOfBand? (0 + 1) tagBands
        ((Chonkle.scatter hash).toList ++ (body ++ pittle.toList)) = none :=
    firstOutOfBand?_append (inBands_scatter hash) _ _
  rw [hasPlausibleHeader, headerFault?, if_neg long, headerBands_eq,
    assemble, List.append_assoc, firstOutOfBand?, tagPasses, isType,
    Band.admits]
  split <;> simp_all

end RelayFrame.Packet
