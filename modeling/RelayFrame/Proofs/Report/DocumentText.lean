import RelayFrame.Proofs.Text.Numerals
import RelayFrame.Report.Document

/-!
# Documents told from their text

No two documents have the same text.  A text literal ends at its first
quotation mark that is not escaped, a number ends at its first character that
is no digit, and the other values are told by their first character.  So each
part of a document can be split off the front of the text, and what is left is
the text of the other parts.
-/

namespace RelayFrame.Report

open Numeral Text

/-! ## Escapes -/

def escapedBy (letter : Char) : Char :=
  if letter = 'b' then '\x08'
  else if letter = 'f' then '\x0c'
  else if letter = 'n' then '\n'
  else if letter = 'r' then '\r'
  else if letter = 't' then '\t'
  else letter

/-- Takes one character off a text, which may stand there escaped. -/
def takeChar? : List Char → Option (Char × List Char)
  | '\\' :: 'u' :: _ :: _ :: high :: low :: rest =>
      some (Char.ofNat (ofDigits 16 [high, low]), rest)
  | '\\' :: letter :: rest => some (escapedBy letter, rest)
  | character :: rest => some (character, rest)
  | [] => none

theorem takeChar?_codeEscape
    {character : Char} (control : character.toNat < 0x20)
    (rest : List Char) :
    takeChar? (codeEscape character ++ rest) = some (character, rest) := by
  have value :
      ofDigits 16
          [Nat.digitChar (character.toNat / 16),
            Nat.digitChar (character.toNat % 16)] =
        character.toNat := by
    simp only [ofDigits, List.foldl_cons, List.foldl_nil,
      digitValue?_digitChar (show character.toNat / 16 < 16 by omega),
      digitValue?_digitChar (show character.toNat % 16 < 16 by omega),
      Option.getD_some]
    omega
  simp only [codeEscape, List.cons_append, List.nil_append, takeChar?, value,
    Char.ofNat_toNat]

/-- An escaped character is taken back, whatever follows. -/
theorem takeChar?_escapeChar (character : Char) (rest : List Char) :
    takeChar? (escapeChar character ++ rest) = some (character, rest) := by
  fun_cases escapeChar character
  case case8 control => exact takeChar?_codeEscape control rest
  case case9 => simp [takeChar?, *]
  all_goals
    subst_vars
    rfl

theorem escapeChar_append_ne_quote_cons
    (character : Char) (rest otherRest : List Char) :
    escapeChar character ++ rest ≠ '"' :: otherRest := by
  fun_cases escapeChar character
  case case9 notQuote _ _ _ _ _ _ _ => simp [notQuote]
  all_goals simp [codeEscape]

/-! ## Parts that can be split off -/

/-- Whether values can be split off the front of a text when what follows them
is of a certain form. -/
def SplitsOff {α : Type} (follows : List Char → Prop)
    (characters : α → List Char) : Prop :=
  ∀ ⦃value other rest otherRest⦄, follows rest → follows otherRest →
    characters value ++ rest = characters other ++ otherRest →
      value = other ∧ rest = otherRest

theorem splitsOff_escapes :
    SplitsOff (∃ rest, · = '"' :: rest) (List.flatMap escapeChar) := by
  rintro value other _ _ ⟨rest, rfl⟩ ⟨otherRest, rfl⟩ same
  induction value generalizing other with
  | nil =>
      cases other with
      | nil => exact ⟨rfl, same⟩
      | cons character others =>
          rw [List.flatMap_cons, List.append_assoc] at same
          exact absurd same.symm (escapeChar_append_ne_quote_cons _ _ _)
  | cons character others inductionHypothesis =>
      rw [List.flatMap_cons, List.append_assoc] at same
      cases other with
      | nil => exact absurd same (escapeChar_append_ne_quote_cons _ _ _)
      | cons otherCharacter otherOthers =>
          rw [List.flatMap_cons, List.append_assoc] at same
          have taken := congrArg takeChar? same
          rw [takeChar?_escapeChar, takeChar?_escapeChar, Option.some.injEq,
            Prod.mk.injEq] at taken
          obtain ⟨rfl, sameOthers⟩ := taken
          obtain ⟨rfl, sameRest⟩ := inductionHypothesis sameOthers
          exact ⟨rfl, sameRest⟩

/-- A text ends at its closing mark, as all marks in it are escaped. -/
theorem splitsOff_textLiteral :
    SplitsOff (fun _ => True) textLiteral := by
  intro value other rest otherRest _ _ same
  simp only [textLiteral, List.cons_append, List.append_assoc,
    List.cons.injEq, true_and] at same
  obtain ⟨sameCharacters, sameRest⟩ :=
    splitsOff_escapes ⟨rest, rfl⟩ ⟨otherRest, rfl⟩ same
  exact
    ⟨String.toList_inj.mp sameCharacters, (List.cons.inj sameRest).2⟩

theorem splitsOff_toDigits :
    SplitsOff (StopsDigits 10) (Nat.toDigits 10) := by
  intro value other rest otherRest stops otherStops same
  have taken :=
    congrArg (numeral 10 (value + other + 1) fun _ => true) same
  rw [numeral_toDigits_append (by decide) (by decide) rfl (by omega) stops,
    numeral_toDigits_append (by decide) (by decide) rfl (by omega) otherStops,
    Option.some.injEq, Prod.mk.injEq] at taken
  exact taken

/-- Whether a member of a document ends in front of a text. -/
def EndsMember (rest : List Char) : Prop :=
  rest.head? = some ',' ∨ rest.head? = some '\n'

theorem EndsMember.stopsDigits
    {rest : List Char} (ends : EndsMember rest) : StopsDigits 10 rest := by
  intro character isHead
  rcases ends with comma | lineEnd
  · cases comma.symm.trans isHead
    rfl
  · cases lineEnd.symm.trans isHead
    rfl

def Scalar.mark? : Scalar → Option Char
  | nothing => some 'n'
  | truth true => some 't'
  | truth false => some 'f'
  | number _ => none
  | text _ => some '"'

theorem filter_head?_characters (value : Scalar) (rest : List Char) :
    ((value.characters ++ rest).head?.filter fun character =>
        !isDigit 10 character) =
      value.mark? := by
  cases value with
  | nothing => rfl
  | truth value => cases value <;> rfl
  | text value => rfl
  | number value =>
      cases digits : Nat.toDigits 10 value with
      | nil => exact absurd digits Nat.toDigits_ne_nil
      | cons digit others =>
          have isFirst : isDigit 10 digit = true := by
            apply isDigit_of_mem_toDigits (by decide) (by decide)
            rw [digits]
            exact List.mem_cons_self
          simp [Scalar.characters, digits, isFirst, Scalar.mark?]

theorem splitsOff_scalar : SplitsOff EndsMember Scalar.characters := by
  intro value other rest otherRest ends otherEnds same
  have sameMark : value.mark? = other.mark? := by
    rw [← filter_head?_characters value rest, same, filter_head?_characters]
  rcases value with _ | (_ | _) | number | text <;>
    rcases other with _ | (_ | _) | otherNumber | otherText <;>
    simp only [Scalar.mark?, reduceCtorEq, Option.some.injEq, Char.reduceEq]
      at sameMark
  case number.number =>
    obtain ⟨rfl, sameRest⟩ :=
      splitsOff_toDigits ends.stopsDigits otherEnds.stopsDigits same
    exact ⟨rfl, sameRest⟩
  case text.text =>
    obtain ⟨rfl, sameRest⟩ := splitsOff_textLiteral trivial trivial same
    exact ⟨rfl, sameRest⟩
  all_goals exact ⟨rfl, List.append_cancel_left same⟩

theorem splitsOff_memberLine : SplitsOff EndsMember memberLine := by
  rintro ⟨name, value⟩ ⟨otherName, otherValue⟩ rest otherRest ends otherEnds
    same
  simp only [memberLine, List.cons_append, List.append_assoc,
    List.cons.injEq, true_and] at same
  obtain ⟨rfl, sameValue⟩ := splitsOff_textLiteral trivial trivial same
  simp only [List.cons.injEq, true_and] at sameValue
  obtain ⟨rfl, sameRest⟩ := splitsOff_scalar ends otherEnds sameValue
  exact ⟨rfl, sameRest⟩

/-! ## Documents -/

/-- What stands behind a member that the given members follow. -/
def afterMember : Document → List Char
  | [] => ['\n', '\x7d']
  | rest => ',' :: '\n' :: (memberLines rest ++ ['\n', '\x7d'])

theorem memberLines_cons_append
    (member : String × Scalar) (rest : Document) :
    memberLines (member :: rest) ++ ['\n', '\x7d'] =
      memberLine member ++ afterMember rest := by
  cases rest with
  | nil => rfl
  | cons next others => simp [memberLines, afterMember]

theorem endsMember_afterMember (rest : Document) :
    EndsMember (afterMember rest) := by
  cases rest with
  | nil => exact .inr rfl
  | cons next others => exact .inl rfl

theorem memberLines_eq_of_afterMember_eq
    {rest otherRest : Document}
    (same : afterMember rest = afterMember otherRest) :
    memberLines rest ++ ['\n', '\x7d'] =
      memberLines otherRest ++ ['\n', '\x7d'] := by
  cases rest with
  | nil =>
      cases otherRest with
      | nil => rfl
      | cons => cases (List.cons.inj same).1
  | cons =>
      cases otherRest with
      | nil => cases (List.cons.inj same).1
      | cons => exact (List.cons.inj (List.cons.inj same).2).2

/-- Members are split off one after the other up to the closing brace. -/
theorem memberLines_append_inj
    {document other : Document}
    (same :
      memberLines document ++ ['\n', '\x7d'] =
        memberLines other ++ ['\n', '\x7d']) :
    document = other := by
  induction document generalizing other with
  | nil =>
      cases other with
      | nil => rfl
      | cons member others =>
          rw [memberLines_cons_append] at same
          cases (List.cons.inj same).1
  | cons member rest inductionHypothesis =>
      rw [memberLines_cons_append] at same
      cases other with
      | nil => cases (List.cons.inj same).1
      | cons otherMember otherRest =>
          rw [memberLines_cons_append] at same
          obtain ⟨rfl, sameRest⟩ :=
            splitsOff_memberLine (endsMember_afterMember rest)
              (endsMember_afterMember otherRest) same
          rw [inductionHypothesis (memberLines_eq_of_afterMember_eq sameRest)]

/-- No two documents have the same text. -/
theorem Document.text_inj {document other : Document} :
    document.text = other.text ↔ document = other := by
  constructor
  · intro same
    have sameCharacters := congrArg String.toList same
    simp only [text, String.toList_ofList, List.cons_append, List.cons.injEq,
      true_and] at sameCharacters
    exact memberLines_append_inj sameCharacters
  · rintro rfl
    rfl

end RelayFrame.Report
