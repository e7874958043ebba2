import Mathlib.Data.List.TakeWhile
import RelayFrame.Net.Ipv6
import RelayFrame.Proofs.Text.Numerals

/-!
# Hosts read back

The text of a host is taken off the front of a text as that host.  For an IPv4
host no digit may follow.  For an IPv6 host nothing may follow that a group or
a dotted tail could begin with: groups are taken as long as there are any, and
before each of them a dotted host is tried.  The double colon of a text stands
for the zero groups that the longest run of them has.
-/

namespace RelayFrame

open Text Numeral

variable {rest : List Char}

namespace Ipv4

/-! ## Dotted hosts -/

theorem isOctetSpelling_decimal (octet : UInt8) :
    isOctetSpelling (decimal octet.toNat) = true := by
  have short : (decimal octet.toNat).length ≤ 3 :=
    (Nat.length_toDigits_le_iff (by decide) (by decide)).mpr
      (Nat.lt_trans octet.toNat_lt (by decide))
  by_cases zero : octet.toNat = 0
  · rw [zero]
    rfl
  · have firstDigit : (decimal octet.toNat).head? ≠ some '0' :=
      head?_toDigits_ne_zero (by decide) (Nat.pos_of_ne_zero zero)
    generalize decimal octet.toNat = digits at short firstDigit
    fun_cases isOctetSpelling digits with
    | case1 => rfl
    | case2 others => exact absurd rfl firstDigit
    | case3 => exact decide_eq_true short

/-- An octet is read back when no digit follows it. -/
theorem scanOctet_decimal_append
    (octet : UInt8) (stops : StopsDigits 10 rest) :
    scanOctet (decimal octet.toNat ++ rest) = some (octet, rest) := by
  have taken :=
    numeral_toDigits_append (by decide) (by decide)
      (isOctetSpelling_decimal octet) octet.toNat_lt stops
  simp [scanOctet, decimal, taken]

theorem scan_text_append (host : Ipv4) (stops : StopsDigits 10 rest) :
    scan (host.text ++ rest) = some (host, rest) := by
  have dotStops (later : List Char) : StopsDigits 10 ('.' :: later) :=
    stopsDigits_cons (by decide) later
  simp [scan, text, scanOctet_decimal_append, dotStops, stops]

theorem scan_text (host : Ipv4) : scan host.text = some (host, []) := by
  rw [← List.append_nil host.text]
  exact scan_text_append host (stopsDigits_nil 10)

theorem scan_of_stopsDigits (stops : StopsDigits 10 rest) :
    scan rest = none := by
  simp [scan, scanOctet, numeral_of_stopsDigits stops]

theorem subset_of_scanOctet_eq_some
    {octet : UInt8} {text : List Char}
    (taken : scanOctet text = some (octet, rest)) : rest ⊆ text := by
  simp only [scanOctet, Option.bind_eq_bind, Option.bind_eq_some_iff] at taken
  obtain ⟨⟨value, later⟩, isNumeral, same⟩ := taken
  cases same
  exact subset_of_numeral_eq_some isNumeral

/-- A text without a dot in it begins with no dotted host. -/
theorem scan_of_noDot (noDot : '.' ∉ rest) : scan rest = none := by
  rw [scan]
  cases first : scanOctet rest with
  | none => rfl
  | some taken =>
      obtain ⟨octet, later⟩ := taken
      cases second : after? '.' later with
      | none => simp [second]
      | some others =>
          have dot : '.' ∈ later := by
            rw [eq_cons_of_after?_eq_some second]
            exact List.mem_cons_self
          exact absurd (subset_of_scanOctet_eq_some first dot) noDot

end Ipv4

namespace Ipv6

/-! ## Groups one by one -/

/-- A group is read back when no digit follows it. -/
theorem scanGroup_hexadecimal_append
    (group : UInt16) (stops : StopsDigits 16 rest) :
    scanGroup (hexadecimal group.toNat ++ rest) = some (group, rest) := by
  have short : (hexadecimal group.toNat).length ≤ 4 :=
    (Nat.length_toDigits_le_iff (by decide) (by decide)).mpr group.toNat_lt
  have taken :
      numeral 16 0x10000 (·.length ≤ 4) (hexadecimal group.toNat ++ rest) =
        some (group.toNat, rest) :=
    numeral_toDigits_append (by decide) (by decide) (decide_eq_true short)
      group.toNat_lt stops
  simp [scanGroup, taken]

theorem scanGroup_of_stopsDigits (stops : StopsDigits 16 rest) :
    scanGroup rest = none := by
  simp [scanGroup, numeral_of_stopsDigits stops]

section Steps

variable {room : Nat} {first : Bool} {text start : List Char}

theorem scanGroups_succ_of_group
    {group : UInt16} (begins : groupStart? first text = some start)
    (notDotted : Ipv4.scan start = none)
    (taken : scanGroup start = some (group, rest)) :
    scanGroups (room + 1) first text =
      let later := scanGroups room false rest
      ⟨group :: later.groups, later.dotted, later.rest⟩ := by
  simp [scanGroups, begins, notDotted, taken]

theorem scanGroups_of_end
    (notDotted : groupStart? first text >>= Ipv4.scan = none)
    (noGroup : groupStart? first text >>= scanGroup = none) :
    scanGroups room first text = ⟨[], false, text⟩ := by
  cases room with
  | zero => rfl
  | succ room => simp only [scanGroups, notDotted, noGroup, ite_self]

end Steps

/-! ## Runs of groups -/

/-- A text with which no run of groups goes on. -/
structure EndsGroups (rest : List Char) : Prop where
  stops : StopsDigits 16 rest
  noLater : ∀ later, rest = ':' :: later → StopsDigits 16 later
  noDot : '.' ∉ rest

theorem endsGroups_nil : EndsGroups [] where
  stops := stopsDigits_nil 16
  noLater _ same := nomatch same
  noDot := List.not_mem_nil

theorem endsGroups_cons
    {character : Char} (notDigit : isDigit 16 character = false)
    (notColon : character ≠ ':') (noDot : '.' ∉ character :: rest) :
    EndsGroups (character :: rest) where
  stops := stopsDigits_cons notDigit rest
  noLater _ same := absurd (List.cons.inj same).1 notColon
  noDot := noDot

/-- Where no run of groups goes on, no group is taken. -/
theorem EndsGroups.scanGroups_eq
    (ends : EndsGroups rest) (room : Nat) (first : Bool) :
    scanGroups room first rest = ⟨[], false, rest⟩ := by
  cases first with
  | true =>
      exact scanGroups_of_end (Ipv4.scan_of_noDot ends.noDot)
        (scanGroup_of_stopsDigits ends.stops)
  | false =>
      have begins : groupStart? false rest = after? ':' rest := rfl
      cases after : after? ':' rest with
      | none => apply scanGroups_of_end <;> rw [begins, after] <;> rfl
      | some later =>
          have isRest := eq_cons_of_after?_eq_some after
          have noDot : '.' ∉ later := fun member =>
            ends.noDot (isRest ▸ List.mem_cons_of_mem _ member)
          apply scanGroups_of_end <;> rw [begins, after]
          · exact Ipv4.scan_of_noDot noDot
          · exact scanGroup_of_stopsDigits (ends.noLater later isRest)

def laterText (groups : List UInt16) : List Char :=
  groups.flatMap fun group => ':' :: hexadecimal group.toNat

theorem groupsText_cons (group : UInt16) (groups : List UInt16) :
    groupsText (group :: groups) =
      hexadecimal group.toNat ++ laterText groups := by
  induction groups generalizing group with
  | nil => simp [groupsText, laterText]
  | cons next groups inductionHypothesis =>
      rw [groupsText, inductionHypothesis]
      · simp [laterText]
      · simp

theorem noDot_hexadecimal (number : Nat) : '.' ∉ hexadecimal number :=
  not_mem_toDigits (by decide) (by decide) (by decide) number

theorem noDot_laterText_append
    (groups : List UInt16) (noDot : '.' ∉ rest) :
    '.' ∉ laterText groups ++ rest := by
  simp [laterText, noDot_hexadecimal, noDot]

theorem noDot_groupsText_append
    (groups : List UInt16) (noDot : '.' ∉ rest) :
    '.' ∉ groupsText groups ++ rest := by
  cases groups with
  | nil => exact noDot
  | cons group groups =>
      rw [groupsText_cons, List.append_assoc, List.mem_append, not_or]
      exact ⟨noDot_hexadecimal _, noDot_laterText_append groups noDot⟩

theorem noDot_groupsText (groups : List UInt16) : '.' ∉ groupsText groups := by
  rw [← List.append_nil (groupsText groups)]
  exact noDot_groupsText_append groups List.not_mem_nil

theorem stopsDigits_laterText_append
    (groups : List UInt16) (stops : StopsDigits 16 rest) :
    StopsDigits 16 (laterText groups ++ rest) := by
  cases groups with
  | nil => exact stops
  | cons group groups => exact stopsDigits_cons (by decide) _

/-- One group with others behind it is taken off, whether it is the first or
stands behind a colon. -/
theorem scanGroups_succ_of_begins
    {room : Nat} {first : Bool} {text : List Char} {group : UInt16}
    {groups : List UInt16} (ends : EndsGroups rest)
    (begins :
      groupStart? first text =
        some (hexadecimal group.toNat ++ (laterText groups ++ rest)))
    (later :
      scanGroups room false (laterText groups ++ rest) =
        ⟨groups, false, rest⟩) :
    scanGroups (room + 1) first text = ⟨group :: groups, false, rest⟩ := by
  have noDot :
      '.' ∉ hexadecimal group.toNat ++ (laterText groups ++ rest) := by
    rw [List.mem_append, not_or]
    exact ⟨noDot_hexadecimal _, noDot_laterText_append groups ends.noDot⟩
  have taken :=
    scanGroup_hexadecimal_append group
      (stopsDigits_laterText_append groups ends.stops)
  rw [scanGroups_succ_of_group begins (Ipv4.scan_of_noDot noDot) taken, later]

theorem scanGroups_laterText_append
    {groups : List UInt16} {room : Nat} (fits : groups.length ≤ room)
    (ends : EndsGroups rest) :
    scanGroups room false (laterText groups ++ rest) =
      ⟨groups, false, rest⟩ := by
  induction groups generalizing room with
  | nil => exact ends.scanGroups_eq room false
  | cons group groups inductionHypothesis =>
      cases room with
      | zero => cases fits
      | succ room =>
          refine
            scanGroups_succ_of_begins ends ?_
              (inductionHypothesis (Nat.le_of_succ_le_succ fits))
          simp [groupStart?, laterText]

/-- Groups that fit into the room are read back, whatever ends them. -/
theorem scanGroups_groupsText_append
    (groups : List UInt16) {room : Nat} (fits : groups.length ≤ room)
    (ends : EndsGroups rest) :
    scanGroups room true (groupsText groups ++ rest) =
      ⟨groups, false, rest⟩ := by
  cases groups with
  | nil => exact ends.scanGroups_eq room true
  | cons group groups =>
      cases room with
      | zero => cases fits
      | succ room =>
          refine
            scanGroups_succ_of_begins ends ?_
              (scanGroups_laterText_append (Nat.le_of_succ_le_succ fits) ends)
          rw [groupsText_cons, List.append_assoc]
          rfl

/-! ## The longest run of zeros -/

/-- The longest run of zeros is where it is said to be. -/
theorem exists_around_longestZeroRun (groups : List UInt16) :
    ∃ before after,
      (longestZeroRun groups).start = before.length ∧
        groups =
          before ++
            (List.replicate (longestZeroRun groups).length 0 ++ after) := by
  induction groups with
  | nil => exact ⟨[], [], rfl, rfl⟩
  | cons group groups inductionHypothesis =>
      rw [longestZeroRun]
      split
      case isTrue laterLonger =>
        obtain ⟨before, after, start, split⟩ := inductionHypothesis
        exact
          ⟨group :: before, after, congrArg Nat.succ start,
            congrArg (group :: ·) split⟩
      case isFalse =>
        have zeros :
            (group :: groups).takeWhile (· == 0) = List.replicate _ 0 :=
          List.eq_replicate_of_mem fun zero member => by
            simpa using List.mem_takeWhile_imp member
        refine ⟨[], (group :: groups).dropWhile (· == 0), rfl, ?_⟩
        rw [List.nil_append, ← zeros, List.takeWhile_append_dropWhile]

theorem eq_around_longestZeroRun
    {groups : List UInt16} {run : Run} (isRun : longestZeroRun groups = run) :
    groups =
      groups.take run.start ++
        (List.replicate run.length 0 ++
          groups.drop (run.start + run.length)) := by
  obtain ⟨before, after, start, split⟩ := exists_around_longestZeroRun groups
  rw [isRun] at start split
  have isBefore : groups.take run.start = before := by
    rw [start, split, List.take_left]
  have isAfter : groups.drop (run.start + run.length) = after := by
    rw [start, split, ← List.append_assoc]
    exact List.drop_left' (by simp)
  rw [isBefore, isAfter]
  exact split

/-! ## Whole hosts -/

/-- A double colon between groups stands for as many zeros as are missing. -/
theorem scan_of_doubleColon
    {before after : List UInt16} {text tail : List Char} {dotted : Bool}
    {host : Ipv6} (hidden : Nat)
    (head : scanGroups 8 true text = ⟨before, false, ':' :: ':' :: tail⟩)
    (scanned :
      scanGroups (7 - before.length) true tail = ⟨after, dotted, rest⟩)
    (positive : 0 < hidden)
    (split :
      host.groups = before ++ (List.replicate hidden 0 ++ after)) :
    scan text = some (host, rest) := by
  have total : 8 = before.length + (hidden + after.length) := by
    have eight : host.groups.length = 8 := rfl
    rw [← eight, split]
    simp
  have missing : 8 - before.length - after.length = hidden := by omega
  have whole : ofGroups? host.groups = some host := rfl
  simp only [scan, head]
  rw [if_neg (by omega)]
  simp only [scanned, missing, List.append_assoc, ← split, whole]
  rfl

theorem groups_of_mapped?
    {host : Ipv6} {inner : Ipv4} (mapped : host.mapped? = some inner) :
    host.groups =
      List.replicate 5 0 ++
        [0xffff, groupOf inner.a inner.b, groupOf inner.c inner.d] := by
  rw [mapped?] at mapped
  split at mapped
  case isTrue block =>
    cases mapped
    simp [groups, block, groupOf_highOctet_lowOctet]
  case isFalse => cases mapped

/-- The dotted tail of a host that stands for an IPv4 host is tried as a dotted
host before it could be taken for a group. -/
theorem scan_mapped_append
    {host : Ipv6} {inner : Ipv4} (mapped : host.mapped? = some inner)
    (stops : StopsDigits 16 rest) :
    scan ("::ffff:".toList ++ inner.text ++ rest) = some (host, rest) := by
  let dotted := ':' :: (inner.text ++ rest)
  let tail := hexadecimal (0xffff : UInt16).toNat ++ dotted
  have isText :
      "::ffff:".toList ++ inner.text ++ rest = ':' :: ':' :: tail := by
    rw [List.append_assoc]
    rfl
  have head :
      scanGroups 8 true (':' :: ':' :: tail) =
        ⟨[], false, ':' :: ':' :: tail⟩ := by
    have colonStops : StopsDigits 16 (':' :: ':' :: tail) :=
      stopsDigits_cons (by decide) _
    exact
      scanGroups_of_end
        (Ipv4.scan_of_stopsDigits (colonStops.of_le (by decide)))
        (scanGroup_of_stopsDigits colonStops)
  have last :
      scanGroups 6 false dotted =
        ⟨[groupOf inner.a inner.b, groupOf inner.c inner.d], true,
          rest⟩ := by
    have inside := Ipv4.scan_text_append inner (stops.of_le (by decide))
    simp [dotted, scanGroups, groupStart?, inside]
  have scanned :
      scanGroups 7 true tail =
        ⟨[0xffff, groupOf inner.a inner.b, groupOf inner.c inner.d], true,
          rest⟩ := by
    have notDotted : Ipv4.scan tail = none :=
      Ipv4.scan_of_stopsDigits (stopsDigits_cons (by decide) _)
    have taken : scanGroup tail = some (0xffff, dotted) :=
      scanGroup_hexadecimal_append 0xffff (stopsDigits_cons (by decide) _)
    rw [scanGroups_succ_of_group rfl notDotted taken, last]
  rw [isText]
  exact
    scan_of_doubleColon 5 head scanned (by decide) (groups_of_mapped? mapped)

theorem EndsGroups.doubleColon
    (ends : EndsGroups rest) (groups : List UInt16) :
    EndsGroups (':' :: ':' :: (groupsText groups ++ rest)) where
  stops := stopsDigits_cons (by decide) _
  noLater later same := by
    cases same
    exact stopsDigits_cons (by decide) _
  noDot := by simpa using noDot_groupsText_append groups ends.noDot

theorem scan_text_append (host : Ipv6) (ends : EndsGroups rest) :
    scan (host.text ++ rest) = some (host, rest) := by
  have eight : host.groups.length = 8 := rfl
  rw [text]
  cases mapped : host.mapped? with
  | some inner => exact scan_mapped_append mapped ends.stops
  | none =>
      dsimp only
      split
      case isTrue long =>
        generalize isRun : longestZeroRun host.groups = run at long ⊢
        have split := eq_around_longestZeroRun isRun
        generalize host.groups.take run.start = before at split ⊢
        generalize host.groups.drop (run.start + run.length) = after
          at split ⊢
        have total : 8 = before.length + (run.length + after.length) := by
          rw [← eight, split]
          simp
        have beforeFits : before.length ≤ 8 := by omega
        have afterFits : after.length ≤ 7 - before.length := by omega
        rw [List.append_assoc]
        exact
          scan_of_doubleColon run.length
            (scanGroups_groupsText_append before beforeFits
              (ends.doubleColon after))
            (scanGroups_groupsText_append after afterFits ends)
            (by omega) split
      case isFalse =>
        have head := scanGroups_groupsText_append host.groups eight.le ends
        rw [scan, head]
        rfl

theorem scan_text (host : Ipv6) : scan host.text = some (host, []) := by
  rw [← List.append_nil host.text]
  exact scan_text_append host endsGroups_nil

/-- No IPv6 host is written with a dotted host at the front. -/
theorem scanIpv4_text (host : Ipv6) : Ipv4.scan host.text = none := by
  rw [text]
  split
  case h_1 => exact Ipv4.scan_of_stopsDigits (stopsDigits_cons (by decide) _)
  case h_2 =>
    apply Ipv4.scan_of_noDot
    dsimp only
    split
    · apply noDot_groupsText_append
      simp [noDot_groupsText]
    · exact noDot_groupsText _

end Ipv6

end RelayFrame
