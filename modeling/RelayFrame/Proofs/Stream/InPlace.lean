import RelayFrame.Proofs.Stream.Decoding

/-!
# Reading and writing in place

Readers and writers move their position and change their buffer as they go, so
one that fails half way could leave something behind.  None does.  A text is
the only item that is read or written in two parts: its reader goes back to
where it was, and its writer makes sure that there is room for the second part
before it lays the first.  Each of them therefore does the same as the
function that hands back a new input or output only when all went well.
-/

namespace RelayFrame.Stream

/-! ## Readers -/

/-- What a read gives, and the input after it, which has not moved if the read
failed. -/
def Input.settle {α : Type} (input : Input) :
    Except ReadError (α × Input) → Except ReadError α × Input
  | .ok (value, later) => (.ok value, later)
  | .error error => (.error error, input)

namespace Reader

theorem run_ofRead
    {α : Type} (read : Input → Except ReadError (α × Input)) (input : Input) :
    (ofRead read).run.run input = input.settle (read input) := by
  rw [ofRead, run_get_bind]
  cases read input <;> rfl

/-- Until it goes back, a reader of a text that fails may have moved. -/
theorem run_textBody (limit : UInt32) (input : Input) :
    ∃ moved, (textBody limit).run.run input =
      match input.takeText limit with
      | .ok (value, later) => (.ok value, later)
      | .error error => (.error error, input.advance moved) := by
  rw [Input.takeText, textBody, run_bind, run_ofRead]
  cases counted : input.takeNumber 4 with
  | error error => exact ⟨0, rfl⟩
  | ok pair =>
      obtain ⟨count, body⟩ := pair
      obtain ⟨-, -, rfl⟩ := Input.takeNumber_eq_ok counted
      simp only [Input.settle, ok_bind]
      by_cases long : limit.toNat < count
      · rw [if_pos long, if_pos long]
        exact ⟨4, rfl⟩
      · rw [if_neg long, if_neg long, run_bind, run_ofRead]
        cases taken : (input.advance 4).take count with
        | error error => exact ⟨4, rfl⟩
        | ok pair =>
            obtain ⟨bytes, later⟩ := pair
            obtain ⟨-, -, rfl⟩ := Input.take_eq_ok_iff.mp taken
            rw [Input.advance_advance]
            simp only [Input.settle, ok_bind]
            cases textOfBytes? bytes with
            | none => exact ⟨4 + count, rfl⟩
            | some value => exact ⟨0, rfl⟩

theorem run_text (limit : UInt32) (input : Input) :
    (text limit).run.run input = input.settle (input.takeText limit) := by
  obtain ⟨moved, body⟩ := run_textBody limit input
  rw [text, run_get_bind, run_tryCatch, body]
  cases input.takeText limit <;> rfl

/-- Read in place or not, an item comes out the same, and a read that fails
moves nothing. -/
theorem run_item (shape : Shape) (input : Input) :
    (item shape).run.run input = input.settle (input.read shape) := by
  cases shape with
  | text limit =>
      rw [item, run_bind, run_text, Input.read]
      cases input.takeText limit <;> rfl
  | _ => exact run_ofRead _ input

end Reader

/-! ## Writers -/

/-- Whether a write succeeded, and the output after it, which has not changed
if the write was refused. -/
def Output.settle (output : Output) :
    Except WriteError Output → Except WriteError Unit × Output
  | .ok later => (.ok (), later)
  | .error error => (.error error, output)

theorem Output.put_append
    {output : Output} {first second : Bytes}
    (fits : output.position + (first ++ second).length ≤ output.capacity) :
    ∃ middle, output.put first = .ok middle ∧
      middle.put second = output.put (first ++ second) := by
  have sum := fits
  rw [List.length_append] at sum
  have firstFits : output.position + first.length ≤ output.buffer.length :=
    Nat.le_trans (by omega) sum
  let middle : Output :=
    ⟨splice output.buffer output.position first,
      output.position + first.length⟩
  have secondFits : middle.position + second.length ≤ middle.capacity := by
    rw [capacity, length_splice firstFits, Nat.add_assoc]
    exact sum
  refine ⟨middle, put_of_fits firstFits, ?_⟩
  rw [put_of_fits secondFits, put_of_fits fits, splice_splice firstFits,
    List.length_append, Nat.add_assoc]

namespace Writer

theorem run_ofWrite
    (write : Output → Except WriteError Output) (output : Output) :
    (ofWrite write).run.run output = output.settle (write output) := by
  rw [ofWrite, run_get_bind]
  cases write output <;> rfl

theorem run_ensure (count : Nat) (output : Output) :
    (ensure count).run.run output =
      if count ≤ output.remaining then
        (.ok (), output)
      else
        (.error (.noRoom count output.remaining), output) := by
  rw [ensure, run_get_bind]
  by_cases room : count ≤ output.remaining
  · simp only [if_pos room]
    rfl
  · simp only [if_neg room]
    rfl

theorem run_text (value : String) (limit : UInt32) (output : Output) :
    (text value limit).run.run output =
      output.settle (output.write ⟨.text value, limit⟩) := by
  let count := littleEndian 4 (textBytes value).length
  have length :
      (count ++ textBytes value).length = 4 + (textBytes value).length := by
    rw [List.length_append, length_littleEndian]
  have put_eq :
      output.write ⟨.text value, limit⟩ =
        if limit.toNat < (textBytes value).length then
          .error (.textTooLong (textBytes value).length limit)
        else
          output.put (count ++ textBytes value) := by
    rw [Output.write, Entry.excess?]
    by_cases long : limit.toNat < (textBytes value).length
    · simp only [if_pos long]
    · simp only [if_neg long]
      rfl
  rw [text, put_eq]
  by_cases long : limit.toNat < (textBytes value).length
  · simp only [if_pos long]
    rfl
  · simp only [if_neg long]
    rw [run_bind, run_ensure]
    by_cases room : 4 + (textBytes value).length ≤ output.remaining
    · have fits :
          output.position + (count ++ textBytes value).length ≤
            output.capacity := by
        rw [Output.remaining] at room
        omega
      obtain ⟨middle, laidCount, laidBody⟩ := Output.put_append fits
      rw [if_pos room]
      simp only
      rw [run_bind, run_ofWrite, laidCount]
      simp only [Output.settle]
      rw [run_ofWrite, laidBody, Output.put_of_fits fits]
      rfl
    · rw [if_neg room, Output.put, length, if_neg room]
      rfl

/-- Written in place or not, an entry does the same, and a write that is
refused changes nothing. -/
theorem run_entry (entry : Entry) (output : Output) :
    (Writer.entry entry).run.run output =
      output.settle (output.write entry) := by
  obtain ⟨item, limit⟩ := entry
  cases item with
  | text value => exact run_text value limit output
  | _ => exact run_ofWrite _ output

/-- Entries that can be written one after the other are so written in place. -/
theorem run_forM_entry
    {entries : List Entry} {output later : Output}
    (wrote : output.writeAll entries = .ok later) :
    (entries.forM Writer.entry).run.run output = (.ok (), later) := by
  induction entries generalizing output with
  | nil =>
      cases wrote
      rfl
  | cons entry entries inductionHypothesis =>
      obtain ⟨middle, first, rest⟩ := exists_of_bind_eq_ok wrote
      have step :
          ((entry :: entries).forM Writer.entry) =
            (Writer.entry entry >>= fun _ => entries.forM Writer.entry) := rfl
      rw [step, run_bind, run_entry, first]
      exact inductionHypothesis rest

end Writer

end RelayFrame.Stream
