import RelayFrame.Net.Ipv4

/-!
# IPv6 hosts

Eight groups of sixteen bits, written in base sixteen between colons.  The
first of the longest runs of two or more zero groups is written as a double
colon, and a host that stands for an IPv4 host shows it in dotted form after
`::ffff:`.  Reading takes any one double colon that hides at least one group,
and a dotted tail in place of the last two groups.

A group, like a port, travels as two octets, and it and its pair of octets
determine each other.
-/

namespace RelayFrame

/-! ## Groups -/

def highOctet (group : UInt16) : UInt8 :=
  UInt8.ofNat (group.toNat / 256)

def lowOctet (group : UInt16) : UInt8 :=
  UInt8.ofNat group.toNat

/-- The group with the given high and low octet. -/
def groupOf (high low : UInt8) : UInt16 :=
  UInt16.ofNat (256 * high.toNat + low.toNat)

theorem groupOf_highOctet_lowOctet (group : UInt16) :
    groupOf (highOctet group) (lowOctet group) = group := by
  have bound := group.toNat_lt
  apply UInt16.toNat_inj.mp
  simp only [groupOf, highOctet, lowOctet, UInt16.toNat_ofNat',
    UInt8.toNat_ofNat']
  omega

@[simp]
theorem highOctet_groupOf (high low : UInt8) :
    highOctet (groupOf high low) = high := by
  have highBound := high.toNat_lt
  have lowBound := low.toNat_lt
  apply UInt8.toNat_inj.mp
  simp only [groupOf, highOctet, UInt16.toNat_ofNat', UInt8.toNat_ofNat']
  omega

@[simp]
theorem lowOctet_groupOf (high low : UInt8) :
    lowOctet (groupOf high low) = low := by
  have highBound := high.toNat_lt
  have lowBound := low.toNat_lt
  apply UInt8.toNat_inj.mp
  simp only [groupOf, lowOctet, UInt16.toNat_ofNat', UInt8.toNat_ofNat']
  omega

/-! ## Hosts -/

/-- An IPv6 host, by its groups in the order they are written. -/
structure Ipv6 where
  a : UInt16
  b : UInt16
  c : UInt16
  d : UInt16
  e : UInt16
  f : UInt16
  g : UInt16
  h : UInt16
deriving DecidableEq, Repr

namespace Ipv6

open Text

def groups (host : Ipv6) : List UInt16 :=
  [host.a, host.b, host.c, host.d, host.e, host.f, host.g, host.h]

def ofGroups? : List UInt16 → Option Ipv6
  | [a, b, c, d, e, f, g, h] => some ⟨a, b, c, d, e, f, g, h⟩
  | _ => none

def octets (host : Ipv6) : List UInt8 :=
  host.groups.flatMap fun group => [highOctet group, lowOctet group]

/-- The IPv4 host that an IPv6 host stands for, if it lies in the block set
aside for that. -/
def mapped? (host : Ipv6) : Option Ipv4 :=
  if host.a = 0 ∧ host.b = 0 ∧ host.c = 0 ∧ host.d = 0 ∧ host.e = 0 ∧
      host.f = 0xffff then
    some
      ⟨highOctet host.g, lowOctet host.g, highOctet host.h, lowOctet host.h⟩
  else
    none

/-! ## Writing -/

structure Run where
  start : Nat
  length : Nat
deriving DecidableEq, Repr

/-- The first of the longest runs of zero groups. -/
def longestZeroRun : List UInt16 → Run
  | [] => ⟨0, 0⟩
  | group :: rest =>
      let here := ((group :: rest).takeWhile (· == 0)).length
      let later := longestZeroRun rest
      if here < later.length then
        ⟨later.start + 1, later.length⟩
      else
        ⟨0, here⟩

/-- Groups in base sixteen, with colons between them. -/
def groupsText : List UInt16 → List Char
  | [] => []
  | [group] => Numeral.hexadecimal group.toNat
  | group :: rest =>
      Numeral.hexadecimal group.toNat ++ ':' :: groupsText rest

def text (host : Ipv6) : List Char :=
  match host.mapped? with
  | some inner => "::ffff:".toList ++ inner.text
  | none =>
      let run := longestZeroRun host.groups
      if 1 < run.length then
        groupsText (host.groups.take run.start) ++ ':' :: ':' ::
          groupsText (host.groups.drop (run.start + run.length))
      else
        groupsText host.groups

/-! ## Reading -/

/-- Takes one group, of one to four digits. -/
def scanGroup : Scanner UInt16 := fun text => do
  let (value, rest) ← numeral 16 0x10000 (·.length ≤ 4) text
  return (UInt16.ofNat value, rest)

/-- The text where the next group begins: all of it for the first group, and
the text after a colon for the others. -/
def groupStart? (first : Bool) (text : List Char) : Option (List Char) :=
  if first then some text else after? ':' text

/-- Groups taken off the front of a text, whether a dotted tail ended them,
and what follows. -/
structure GroupScan where
  groups : List UInt16
  dotted : Bool
  rest : List Char
deriving DecidableEq, Repr

/-- Takes as many groups as there are, up to the given room.  A dotted host
fills two groups and ends the run. -/
def scanGroups : (room : Nat) → (first : Bool) → List Char → GroupScan
  | 0, _, text => ⟨[], false, text⟩
  | room + 1, first, text =>
      let dotted :=
        if 0 < room then groupStart? first text >>= Ipv4.scan else none
      match dotted with
      | some (host, rest) =>
          ⟨[groupOf host.a host.b, groupOf host.c host.d], true, rest⟩
      | none =>
          match groupStart? first text >>= scanGroup with
          | some (group, rest) =>
              let later := scanGroups room false rest
              ⟨group :: later.groups, later.dotted, later.rest⟩
          | none => ⟨[], false, text⟩

/-- Takes a host.  A double colon stands for the groups that are missing, at
least one of them, and no dotted host comes before it. -/
def scan : Scanner Ipv6 := fun text =>
  let head := scanGroups 8 true text
  if head.groups.length = 8 then
    (ofGroups? head.groups).map (·, head.rest)
  else if head.dotted then
    none
  else
    match head.rest with
    | ':' :: ':' :: rest =>
        let tail := scanGroups (7 - head.groups.length) true rest
        let hidden := 8 - head.groups.length - tail.groups.length
        (ofGroups?
            (head.groups ++ List.replicate hidden 0 ++ tail.groups)).map
          (·, tail.rest)
    | _ => none

end Ipv6

end RelayFrame
