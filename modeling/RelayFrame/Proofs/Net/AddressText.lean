import RelayFrame.Net.Address
import RelayFrame.Proofs.Net.HostText
import RelayFrame.Proofs.Text.Trimming

/-!
# Addresses read back

The text of an address is read as that address, without its flow label, which
the text does not show.  A host alone is read with port zero.  What can be read
at all is therefore an address that its own text is read as again.
-/

namespace RelayFrame

open Text Numeral

/-! ## The characters of a host -/

/-- Whether a character can stand in the text of a host. -/
def IsHostCharacter (character : Char) : Prop :=
  isDigit 16 character = true ∨ character = '.' ∨ character = ':'
deriving Decidable

def IsHostText (text : List Char) : Prop :=
  ∀ character ∈ text, IsHostCharacter character

instance : DecidablePred IsHostText := List.decidableBAll _

namespace IsHostText

theorem cons
    {character : Char} {text : List Char}
    (isHost : IsHostCharacter character) (rest : IsHostText text) :
    IsHostText (character :: text) :=
  List.forall_mem_cons.mpr ⟨isHost, rest⟩

theorem append
    {first second : List Char} (isFirst : IsHostText first)
    (isSecond : IsHostText second) : IsHostText (first ++ second) :=
  List.forall_mem_append.mpr ⟨isFirst, isSecond⟩

theorem isSolid {text : List Char} (isHost : IsHostText text) :
    IsSolid text := by
  intro character member
  rcases isHost character member with digit | rfl | rfl
  · exact isBlank_eq_false_of_isDigit digit
  · decide
  · decide

end IsHostText

theorem isHostText_hexadecimal (number : Nat) :
    IsHostText (hexadecimal number) := fun _ member =>
  .inl (isDigit_of_mem_toDigits (by decide) (by decide) member)

theorem isHostText_decimal (number : Nat) : IsHostText (decimal number) :=
  fun _ member => .inl <| isDigit_of_le (by decide) <|
    isDigit_of_mem_toDigits (by decide) (by decide) member

theorem noDot_decimal (number : Nat) : '.' ∉ decimal number :=
  not_mem_toDigits (by decide) (by decide) (by decide) number

theorem Ipv4.isHostText_text (host : Ipv4) : IsHostText host.text := by
  have dotted {text : List Char} (number : Nat) (rest : IsHostText text) :
      IsHostText (decimal number ++ '.' :: text) :=
    (isHostText_decimal number).append (.cons (by decide) rest)
  exact dotted _ (dotted _ (dotted _ (isHostText_decimal _)))

theorem Ipv6.isHostText_groupsText (groups : List UInt16) :
    IsHostText (groupsText groups) := by
  fun_induction groupsText groups with
  | case1 => exact fun _ member => nomatch member
  | case2 group => exact isHostText_hexadecimal _
  | case3 group rest _ inductionHypothesis =>
      exact
        (isHostText_hexadecimal _).append
          (.cons (by decide) inductionHypothesis)

theorem Ipv6.isHostText_text (host : Ipv6) : IsHostText host.text := by
  rw [text]
  split
  case h_1 inner mapped =>
    have front : IsHostText "::ffff:".toList := by decide
    exact front.append inner.isHostText_text
  case h_2 =>
    dsimp only
    split
    · exact
        (isHostText_groupsText _).append
          (.cons (by decide) (.cons (by decide) (isHostText_groupsText _)))
    · exact isHostText_groupsText _

namespace Address

def withoutFlow : Address → Address
  | ipv6 host port _ scope => ipv6 host port 0 scope
  | address => address

def flowLabel : Address → UInt32
  | ipv6 _ _ flow _ => flow
  | _ => 0

theorem withoutFlow_of_flowLabel_eq_zero
    {address : Address} (zero : address.flowLabel = 0) :
    address.withoutFlow = address := by
  cases address with
  | absent => rfl
  | ipv4 host port => rfl
  | ipv6 host port flow scope => rw [withoutFlow, ← zero, flowLabel]

/-! ## Socket addresses -/

theorem scanPort_decimal (port : UInt16) :
    scanPort (':' :: decimal port.toNat) = some (port, []) := by
  have taken :
      numeral 10 0x10000 (fun _ => true) (decimal port.toNat ++ []) =
        some (port.toNat, []) :=
    numeral_toDigits_append (by decide) (by decide) rfl port.toNat_lt
      (stopsDigits_nil 10)
  rw [List.append_nil] at taken
  simp [scanPort, taken]

theorem scanScope_decimal_append
    (scope : UInt32) {rest : List Char} (stops : StopsDigits 10 rest) :
    scanScope ('%' :: (decimal scope.toNat ++ rest)) = some (scope, rest) := by
  have taken :
      numeral 10 0x100000000 (fun _ => true)
          (decimal scope.toNat ++ rest) =
        some (scope.toNat, rest) :=
    numeral_toDigits_append (by decide) (by decide) rfl scope.toNat_lt stops
  simp [scanScope, taken]

theorem scanIpv4_characters (host : Ipv4) (port : UInt16) :
    scanIpv4 (ipv4 host port).characters = some (ipv4 host port, []) := by
  have colonStops : StopsDigits 10 (':' :: decimal port.toNat) :=
    stopsDigits_cons (by decide) _
  have taken := Ipv4.scan_text_append host colonStops
  simp [scanIpv4, characters, taken, scanPort_decimal]

/-- An IPv6 socket address is read to its end, with or without a scope. -/
theorem scanIpv6_of_scanScope
    {host : Ipv6} {port : UInt16} {scope : UInt32}
    {scopeText behind : List Char}
    (isPort : behind = ']' :: ':' :: decimal port.toNat)
    (ends : Ipv6.EndsGroups (scopeText ++ behind))
    (scopeTaken :
      (scanScope (scopeText ++ behind)).getD (0, scopeText ++ behind) =
        (scope, behind)) :
    scanIpv6 ('[' :: (host.text ++ scopeText ++ behind)) =
      some (ipv6 host port 0 scope, []) := by
  have taken := Ipv6.scan_text_append host ends
  have portTaken : after? ']' behind = some (':' :: decimal port.toNat) := by
    rw [isPort, after?_cons_self]
  simp [scanIpv6, taken, scopeTaken, portTaken, scanPort_decimal]

theorem scanIpv6_characters
    (host : Ipv6) (port : UInt16) (flow scope : UInt32) :
    scanIpv6 (ipv6 host port flow scope).characters =
      some (ipv6 host port 0 scope, []) := by
  let behind := ']' :: ':' :: decimal port.toNat
  have noDot : '.' ∉ behind := by simp [behind, noDot_decimal]
  by_cases zero : scope = 0
  · subst zero
    have ends : Ipv6.EndsGroups ([] ++ behind) :=
      Ipv6.endsGroups_cons (by decide) (by decide) noDot
    exact scanIpv6_of_scanScope rfl ends rfl
  · have written :
        (ipv6 host port flow scope).characters =
          '[' :: (host.text ++ '%' :: decimal scope.toNat ++ behind) := by
      simp [characters, zero, behind]
    have ends : Ipv6.EndsGroups ('%' :: decimal scope.toNat ++ behind) :=
      Ipv6.endsGroups_cons (by decide) (by decide)
        (by simp [noDot_decimal, noDot])
    have scopeTaken :
        scanScope ('%' :: decimal scope.toNat ++ behind) =
          some (scope, behind) :=
      scanScope_decimal_append scope (stopsDigits_cons (by decide) _)
    rw [written]
    exact scanIpv6_of_scanScope rfl ends (by rw [scopeTaken]; rfl)

/-- Every address that is not absent is read back, but for its flow label. -/
theorem ofSocketText?_characters
    {address : Address} (present : address ≠ absent) :
    ofSocketText? address.characters = some address.withoutFlow := by
  cases address with
  | absent => exact absurd rfl present
  | ipv4 host port =>
      rw [ofSocketText?, Scanner.whole?, scanIpv4_characters]
      rfl
  | ipv6 host port flow scope =>
      have notIpv4 :
          scanIpv4 (ipv6 host port flow scope).characters = none := by
        have stops : StopsDigits 10 (ipv6 host port flow scope).characters :=
          stopsDigits_cons (by decide) _
        simp [scanIpv4, Ipv4.scan_of_stopsDigits stops]
      rw [ofSocketText?, Scanner.whole?, notIpv4, scanIpv6_characters]
      rfl

theorem isSolid_characters (address : Address) :
    IsSolid address.characters := by
  have solidNumber (number : Nat) : IsSolid (decimal number) :=
    (isHostText_decimal number).isSolid
  cases address with
  | absent => exact (by decide : IsSolid "none".toList)
  | ipv4 host port =>
      have solidPort : IsSolid (':' :: decimal port.toNat) :=
        .cons (by decide) (solidNumber _)
      exact host.isHostText_text.isSolid.append solidPort
  | ipv6 host port flow scope =>
      have solidScope :
          IsSolid (if scope = 0 then [] else '%' :: decimal scope.toNat) := by
        split
        · exact .nil
        · exact .cons (by decide) (solidNumber _)
      have solidPort : IsSolid (']' :: ':' :: decimal port.toNat) :=
        .cons (by decide) (.cons (by decide) (solidNumber _))
      have solidHost := host.isHostText_text.isSolid.append solidScope
      exact .cons (by decide) (solidHost.append solidPort)

/-! ## Bare hosts -/

theorem scanIpv6_of_isHostText
    {text : List Char} (isHost : IsHostText text) : scanIpv6 text = none := by
  have noBracket : after? '[' text = none := by
    cases after : after? '[' text with
    | none => rfl
    | some rest =>
        rw [eq_cons_of_after?_eq_some after] at isHost
        exact absurd (isHost '[' List.mem_cons_self) (by decide)
  simp [scanIpv6, noBracket]

theorem ofSocketText?_ipv4 (host : Ipv4) :
    ofSocketText? host.text = none := by
  have noPort : scanIpv4 host.text = none := by
    simp [scanIpv4, host.scan_text, scanPort, after?]
  rw [ofSocketText?, Scanner.whole?, noPort,
    scanIpv6_of_isHostText host.isHostText_text]
  rfl

theorem ofSocketText?_ipv6 (host : Ipv6) :
    ofSocketText? host.text = none := by
  have notIpv4 : scanIpv4 host.text = none := by
    simp [scanIpv4, host.scanIpv4_text]
  rw [ofSocketText?, Scanner.whole?, notIpv4,
    scanIpv6_of_isHostText host.isHostText_text]
  rfl

theorem ofHostText?_ipv4 (host : Ipv4) :
    ofHostText? host.text = some (ipv4 host 0) := by
  simp [ofHostText?, Scanner.whole?, scanBareIpv4, host.scan_text]

theorem ofHostText?_ipv6 (host : Ipv6) :
    ofHostText? host.text = some (ipv6 host 0 0 0) := by
  simp [ofHostText?, Scanner.whole?, scanBareIpv4, host.scanIpv4_text,
    scanBareIpv6, host.scan_text]

/-! ## Reading -/

/-- Reading trims the text and tries a socket address first. -/
theorem parse_eq_ok_iff {input : String} {address : Address} :
    parse input = .ok address ↔
      (ofSocketText? (trimmed input.toList) <|>
        ofHostText? (trimmed input.toList)) = some address := by
  -- Deriving the equation that `rw` would use takes seconds.
  delta parse
  generalize trimmed input.toList = inner
  dsimp only
  split <;> simp [*]

/-- Whether an address shows all that it has in its text. -/
def IsLegible (address : Address) : Prop :=
  address ≠ absent ∧ address.flowLabel = 0

section Legible

variable {address : Address} {text rest : List Char}

theorem isLegible_of_scanIpv4
    (taken : scanIpv4 text = some (address, rest)) : address.IsLegible := by
  simp only [scanIpv4, Option.bind_eq_bind, Option.bind_eq_some_iff] at taken
  obtain ⟨_, -, _, -, same⟩ := taken
  cases same
  exact ⟨nofun, rfl⟩

theorem isLegible_of_scanIpv6
    (taken : scanIpv6 text = some (address, rest)) : address.IsLegible := by
  simp only [scanIpv6, Option.bind_eq_bind, Option.bind_eq_some_iff] at taken
  obtain ⟨_, -, _, -, _, -, _, -, same⟩ := taken
  cases same
  exact ⟨nofun, rfl⟩

theorem isLegible_of_scanBareIpv4
    (taken : scanBareIpv4 text = some (address, rest)) :
    address.IsLegible := by
  simp only [scanBareIpv4, Option.bind_eq_bind, Option.bind_eq_some_iff]
    at taken
  obtain ⟨_, -, same⟩ := taken
  cases same
  exact ⟨nofun, rfl⟩

theorem isLegible_of_scanBareIpv6
    (taken : scanBareIpv6 text = some (address, rest)) :
    address.IsLegible := by
  simp only [scanBareIpv6, Option.bind_eq_bind, Option.bind_eq_some_iff]
    at taken
  obtain ⟨_, -, same⟩ := taken
  cases same
  exact ⟨nofun, rfl⟩

/-- A text that one of two scanners takes whole is taken by the first of them,
or by the second. -/
theorem scan_eq_of_whole?_orElse
    {first second : Scanner Address}
    (whole :
      Scanner.whole? (fun text => first text <|> second text) text =
        some address) :
    first text = some (address, []) ∨ second text = some (address, []) := by
  rw [Scanner.whole?] at whole
  split at whole
  case h_1 other scanned =>
    cases whole
    rcases Option.or_eq_some_iff.mp (by simpa using scanned) with
      taken | ⟨-, taken⟩
    · exact .inl taken
    · exact .inr taken
  case h_2 => cases whole

/-- Nothing that is read has a flow label or is absent. -/
theorem isLegible_of_parse_eq_ok
    {input : String} (parsed : parse input = .ok address) :
    address.IsLegible := by
  have read := parse_eq_ok_iff.mp parsed
  rcases Option.or_eq_some_iff.mp (by simpa using read) with
    socket | ⟨-, host⟩
  · rcases scan_eq_of_whole?_orElse socket with taken | taken
    · exact isLegible_of_scanIpv4 taken
    · exact isLegible_of_scanIpv6 taken
  · rcases scan_eq_of_whole?_orElse host with taken | taken
    · exact isLegible_of_scanBareIpv4 taken
    · exact isLegible_of_scanBareIpv6 taken

end Legible

section Parse

variable {before after : String}
  (blankBefore : IsBlankText before.toList)
  (blankAfter : IsBlankText after.toList)
include blankBefore blankAfter

theorem parse_of_isSolid
    {address : Address} {text : List Char} (solid : IsSolid text)
    (spelled : (ofSocketText? text <|> ofHostText? text) = some address) :
    parse (before ++ String.ofList text ++ after) = .ok address := by
  have inner :
      trimmed (before ++ String.ofList text ++ after).toList = text := by
    rw [String.toList_append, String.toList_append, String.toList_ofList]
    exact trimmed_append blankBefore blankAfter solid
  rw [parse_eq_ok_iff, inner, spelled]

theorem parse_text_between
    {address : Address} (present : address ≠ absent) :
    parse (before ++ address.text ++ after) = .ok address.withoutFlow := by
  refine parse_of_isSolid blankBefore blankAfter address.isSolid_characters ?_
  rw [ofSocketText?_characters present]
  rfl

theorem parse_ipv4_text (host : Ipv4) :
    parse (before ++ String.ofList host.text ++ after) =
      .ok (ipv4 host 0) := by
  refine parse_of_isSolid blankBefore blankAfter host.isHostText_text.isSolid ?_
  rw [ofSocketText?_ipv4, ofHostText?_ipv4]
  rfl

theorem parse_ipv6_text (host : Ipv6) :
    parse (before ++ String.ofList host.text ++ after) =
      .ok (ipv6 host 0 0 0) := by
  refine parse_of_isSolid blankBefore blankAfter host.isHostText_text.isSolid ?_
  rw [ofSocketText?_ipv6, ofHostText?_ipv6]
  rfl

end Parse

theorem parse_text {address : Address} (present : address ≠ absent) :
    parse address.text = .ok address.withoutFlow := by
  have noBlanks : IsBlankText "".toList := by decide
  have parsed := parse_text_between noBlanks noBlanks present
  rwa [String.empty_append, String.append_empty] at parsed

/-- The text of an address, with any white space around it, is read as the
address without its flow label, and the text of a host alone as that host with
port zero.  An address that can be read is there, has no flow label, and is
read from its own text. -/
theorem address_texts_are_read_back :
    (∀ before after : String,
      IsBlankText before.toList → IsBlankText after.toList →
        (∀ address : Address, address ≠ absent →
          parse (before ++ address.text ++ after) =
            .ok address.withoutFlow) ∧
        (∀ host : Ipv4,
          parse (before ++ String.ofList host.text ++ after) =
            .ok (ipv4 host 0)) ∧
        ∀ host : Ipv6,
          parse (before ++ String.ofList host.text ++ after) =
            .ok (ipv6 host 0 0 0)) ∧
      ∀ (input : String) (address : Address), parse input = .ok address →
        address ≠ absent ∧ address.flowLabel = 0 ∧
          parse address.text = .ok address := by
  constructor
  · intro before after blankBefore blankAfter
    exact
      ⟨fun _ present => parse_text_between blankBefore blankAfter present,
        parse_ipv4_text blankBefore blankAfter,
        parse_ipv6_text blankBefore blankAfter⟩
  · intro input address parsed
    obtain ⟨present, zero⟩ := isLegible_of_parse_eq_ok parsed
    refine ⟨present, zero, ?_⟩
    rw [parse_text present, withoutFlow_of_flowLabel_eq_zero zero]

/-- A host with two runs of zeros and a scope between two kinds of white space,
and a text with leading zeros and a dotted tail. -/
theorem scoped_address_is_read_back :
    let host : Ipv6 := ⟨0xfe80, 0, 0, 0, 1, 0, 0, 0xa0b⟩
    let loose : Address := ipv6 ⟨1, 0, 0, 0, 0, 0, 0x0102, 0x0304⟩ 53 0 7
    (ipv6 host 40000 9 3).text = "[fe80::1:0:0:a0b%3]:40000" ∧
      parse ("\t" ++ (ipv6 host 40000 9 3).text ++ "\u3000 ") =
        .ok (ipv6 host 40000 0 3) ∧
      parse "[0001::1.2.3.4%007]:0053" = .ok loose ∧
      loose.text = "[1::102:304%7]:53" ∧ parse loose.text = .ok loose := by
  intro host loose
  have read : parse "[0001::1.2.3.4%007]:0053" = .ok loose := by
    decide +kernel
  exact
    ⟨by decide +kernel,
      (address_texts_are_read_back.1 "\t" "\u3000 " (by decide) (by decide)).1
        (ipv6 host 40000 9 3) nofun,
      read, by decide +kernel,
      (address_texts_are_read_back.2 _ loose read).2.2⟩

end Address

end RelayFrame
