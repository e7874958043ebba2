import Mathlib.Data.Set.Image
import RelayFrame.Proofs.Bytes.HexText
import RelayFrame.Proofs.Report.DocumentText
import RelayFrame.Report.Inspection
import RelayFrame.Report.Tags

/-!
# Reports told from their text

Neither the report for people nor the one for programs leaves anything out.
In the former each value has a line of its own, and no value breaks its line,
so the lines tell the values.  The latter is the text of a document, which has
one member for each value.
-/

namespace RelayFrame

/-! ## Lines -/

namespace Text

/-- The lines of a text, without the line feeds between them. -/
def linesOf (text : String) : List String :=
  (text.toList.splitOn '\n').map String.ofList

def IsLine (text : String) : Prop :=
  '\n' ∉ text.toList

instance (text : String) : Decidable (IsLine text) :=
  inferInstanceAs (Decidable (_ ∉ _))

theorem isLine_append {first second : String} :
    IsLine (first ++ second) ↔ IsLine first ∧ IsLine second := by
  rw [IsLine, String.toList_append, List.mem_append, not_or]
  rfl

/-- Lines are read back when none of them holds a line feed. -/
theorem linesOf_intercalate
    {lines : List String} (nonempty : lines ≠ [])
    (areLines : ∀ line ∈ lines, IsLine line) :
    linesOf ("\n".intercalate lines) = lines := by
  have feed : "\n".toList = ['\n'] := rfl
  have split :
      (['\n'].intercalate (lines.map String.toList)).splitOn '\n' =
        lines.map String.toList := by
    apply List.splitOn_intercalate
    · intro characters member
      obtain ⟨line, inLines, rfl⟩ := List.mem_map.mp member
      exact areLines line inLines
    · exact fun isNil => nonempty (List.map_eq_nil_iff.mp isNil)
  rw [linesOf, String.toList_intercalate, feed, split, List.map_map]
  simp [Function.comp_def]

end Text

namespace Report

open Text

namespace Inspection

/-! ## The values of an inspection in text -/

theorem repr_inj {number other : Nat} :
    number.repr = other.repr ↔ number = other := by
  refine ⟨fun same => ?_, congrArg Nat.repr⟩
  have sameDigits := congrArg (· ++ []) (String.ofList_inj.mp same)
  exact
    (splitsOff_toDigits (stopsDigits_nil 10) (stopsDigits_nil 10)
      sameDigits).1

theorem typeText_inj {packetType other : Option UInt8} :
    typeText packetType = typeText other ↔ packetType = other := by
  have present : typeText none ∉ Set.range (typeText ∘ some) := by
    rintro ⟨byte, same⟩
    have sameFirst := congrArg (·.toList.head?) same
    simp [typeText] at sameFirst
  refine
    (Option.injective_iff.mpr
      ⟨fun byte otherByte same => ?_, present⟩).eq_iff
  have sameHex : Hex.encode [byte] = Hex.encode [otherByte] :=
    (String.append_right_inj "0x").mp same
  exact (List.cons.inj (Hex.encode_inj.mp sameHex)).1

theorem payloadText_inj {length other : Option Nat} :
    payloadText length = payloadText other ↔ length = other := by
  have present : payloadText none ∉ Set.range (payloadText ∘ some) := by
    rintro ⟨length, same⟩
    have sameLast := congrArg (·.toList.getLast?) same
    simp [payloadText] at sameLast
  refine
    (Option.injective_iff.mpr
      ⟨fun length otherLength same => ?_, present⟩).eq_iff
  have sameDigits : length.repr = otherLength.repr :=
    (String.append_left_inj " bytes").mp same
  exact repr_inj.mp sameDigits

theorem checkText_inj {passed other : Bool} :
    checkText passed = checkText other ↔ passed = other := by
  cases passed <;> cases other <;> decide

theorem advancedText_inj {verdict other : Option Bool} :
    advancedText verdict = advancedText other ↔ verdict = other := by
  rcases verdict with _ | _ | _ <;> rcases other with _ | _ | _ <;> decide

theorem isLine_repr (number : Nat) : IsLine number.repr := by
  rw [IsLine, Nat.repr, String.toList_ofList]
  exact Numeral.not_mem_toDigits (by decide) (by decide) rfl number

theorem isLine_typeText (packetType : Option UInt8) :
    IsLine (typeText packetType) := by
  cases packetType with
  | none => decide
  | some byte =>
      refine isLine_append.mpr ⟨by decide, fun member => ?_⟩
      have inDigits : '\n' ∈ Hex.digits [byte] := by
        simpa [Hex.digits] using member
      cases Hex.isDigit_of_mem_digits inDigits

theorem isLine_payloadText (length : Option Nat) :
    IsLine (payloadText length) := by
  cases length with
  | none => decide
  | some length => exact isLine_append.mpr ⟨isLine_repr length, by decide⟩

theorem isLine_checkText (passed : Bool) : IsLine (checkText passed) := by
  cases passed <;> decide

theorem isLine_advancedText (verdict : Option Bool) :
    IsLine (advancedText verdict) := by
  rcases verdict with _ | _ | _ <;> decide

theorem isLine_verdictText (accepted : Bool) :
    IsLine (verdictText accepted) := by
  cases accepted <;> decide

/-! ## The report for people -/

def lines (inspection : Inspection) : List String :=
  ["length: " ++ inspection.packetLength.repr ++ " bytes",
    "type: " ++ typeText inspection.packetType,
    "payload: " ++ payloadText inspection.payloadLength,
    "basic filter: " ++ checkText inspection.basic,
    "advanced filter: " ++ advancedText inspection.advanced,
    "verdict: " ++ verdictText inspection.accepted]

/-- The report for people is the list of its lines. -/
theorem pretty_eq_intercalate (inspection : Inspection) :
    inspection.pretty = "\n".intercalate inspection.lines := by
  have text :
      inspection.pretty =
        "length: " ++ inspection.packetLength.repr ++ " bytes\ntype: " ++
          typeText inspection.packetType ++ "\npayload: " ++
          payloadText inspection.payloadLength ++ "\nbasic filter: " ++
          checkText inspection.basic ++ "\nadvanced filter: " ++
          advancedText inspection.advanced ++ "\nverdict: " ++
          verdictText inspection.accepted := rfl
  have typeLine : " bytes\ntype: " = " bytes" ++ ("\n" ++ "type: ") := by
    decide
  have payloadLine : "\npayload: " = "\n" ++ "payload: " := by decide
  have basicLine : "\nbasic filter: " = "\n" ++ "basic filter: " := by decide
  have advancedLine :
      "\nadvanced filter: " = "\n" ++ "advanced filter: " := by decide
  have verdictLine : "\nverdict: " = "\n" ++ "verdict: " := by decide
  rw [text, typeLine, payloadLine, basicLine, advancedLine, verdictLine]
  simp only [lines, String.intercalate_cons_cons, String.intercalate_singleton,
    String.append_assoc]

theorem isLine_of_mem_lines (inspection : Inspection) :
    ∀ line ∈ inspection.lines, IsLine line := by
  simp only [lines, List.forall_mem_cons, isLine_append, isLine_repr,
    isLine_typeText, isLine_payloadText, isLine_checkText,
    isLine_advancedText, isLine_verdictText]
  decide

theorem linesOf_pretty (inspection : Inspection) :
    linesOf inspection.pretty = inspection.lines := by
  rw [pretty_eq_intercalate]
  exact
    linesOf_intercalate (List.cons_ne_nil _ _) inspection.isLine_of_mem_lines

/-- Each line tells one thing, and all are told. -/
theorem lines_inj {inspection other : Inspection} :
    inspection.lines = other.lines ↔ inspection = other := by
  constructor
  · intro same
    simp only [lines, List.cons.injEq, String.append_left_inj,
      String.append_right_inj, repr_inj, typeText_inj, payloadText_inj,
      checkText_inj, advancedText_inj] at same
    obtain ⟨length, packetType, payload, basic, advanced, -⟩ := same
    cases inspection
    cases other
    simp_all
  · rintro rfl
    rfl

theorem getLast?_linesOf_pretty (inspection : Inspection) :
    (linesOf inspection.pretty).getLast? =
      some ("verdict: " ++ verdictText inspection.accepted) := by
  rw [linesOf_pretty]
  rfl

theorem pretty_inj {inspection other : Inspection} :
    inspection.pretty = other.pretty ↔ inspection = other := by
  refine ⟨fun same => lines_inj.mp ?_, congrArg pretty⟩
  rw [← linesOf_pretty, same, linesOf_pretty]

/-! ## The report for programs -/

theorem optional_inj
    {α : Type} {scalar : α → Scalar} {value other : Option α}
    (injective : Function.Injective scalar)
    (present : ∀ value, scalar value ≠ .nothing) :
    optional scalar value = optional scalar other ↔ value = other := by
  have never : optional scalar none ∉ Set.range (optional scalar ∘ some) := by
    rintro ⟨value, same⟩
    exact present value same
  have optionalInjective : Function.Injective (optional scalar) :=
    Option.injective_iff.mpr ⟨injective, never⟩
  exact optionalInjective.eq_iff

theorem json_inj {inspection other : Inspection} :
    inspection.json = other.json ↔ inspection = other := by
  refine ⟨fun same => ?_, congrArg json⟩
  have sameDocument := Document.text_inj.mp same
  simp only [document, List.cons.injEq, Prod.mk.injEq, true_and, and_true,
    Scalar.number.injEq, Scalar.truth.injEq] at sameDocument
  obtain ⟨length, packetType, payload, basic, advanced⟩ := sameDocument
  rw [optional_inj
    (fun _ _ same => UInt8.toNat_inj.mp (Scalar.number.inj same))
    fun _ => nofun] at packetType
  rw [optional_inj (fun _ _ => Scalar.number.inj) fun _ => nofun] at payload
  rw [optional_inj (fun _ _ => Scalar.truth.inj) fun _ => nofun] at advanced
  cases inspection
  cases other
  simp_all

end Inspection

theorem Tags.json_inj {tags other : Tags} :
    tags.json = other.json ↔ tags = other := by
  refine ⟨fun same => ?_, congrArg json⟩
  have sameDocument := Document.text_inj.mp same
  simp only [document, List.cons.injEq, Prod.mk.injEq, true_and, and_true,
    Scalar.number.injEq, Scalar.text.injEq, UInt32.toNat_inj] at sameDocument
  cases tags
  cases other
  simp_all

/-- Reports with the same text are the same, for inspections in either form and
for tags in the form for programs, and the last line for people tells whether
the packet was let in. -/
theorem report_texts_tell_the_whole_report :
    (∀ inspection other : Inspection,
      inspection.pretty = other.pretty ↔ inspection = other) ∧
      (∀ inspection other : Inspection,
        inspection.json = other.json ↔ inspection = other) ∧
      (∀ inspection : Inspection,
        ((linesOf inspection.pretty).getLast? = some "verdict: accept" ↔
            inspection.accepted = true) ∧
          ((linesOf inspection.pretty).getLast? = some "verdict: reject" ↔
            inspection.accepted = false)) ∧
      ∀ tags other : Tags, tags.json = other.json ↔ tags = other := by
  refine
    ⟨fun _ _ => Inspection.pretty_inj, fun _ _ => Inspection.json_inj,
      fun inspection => ?_, fun _ _ => Tags.json_inj⟩
  rw [Inspection.getLast?_linesOf_pretty]
  cases inspection.accepted <;> decide

end Report

end RelayFrame
