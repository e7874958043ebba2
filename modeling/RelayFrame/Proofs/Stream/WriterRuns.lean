import RelayFrame.Proofs.Stream.InPlace

/-!
# Runs of a writer

A writer may seek and write in any order, over what it has written before, and
go on after a step that was refused.  The size of its buffer never changes and
its position stays inside.  A refused step changes nothing; a write that is not
refused changes the bytes between the position before it and the one after it.
So the buffer can be read off the writes that were not refused: the last of
them to cover a byte has put it there, and a byte that none covers is as it was
at the start.
-/

namespace RelayFrame.Stream

/-! ## Patches -/

structure Patch where
  offset : Nat
  bytes : Bytes
deriving DecidableEq, Repr

def Patch.byteAt? (patch : Patch) (index : Nat) : Option UInt8 :=
  if patch.offset ≤ index then patch.bytes[index - patch.offset]? else none

theorem Patch.byteAt?_of_outside
    {patch : Patch} {index : Nat}
    (outside :
      index < patch.offset ∨ patch.offset + patch.bytes.length ≤ index) :
    patch.byteAt? index = none := by
  rw [byteAt?]
  rcases outside with before | behind
  · exact if_neg (Nat.not_le.mpr before)
  · rw [if_pos (by omega), List.getElem?_eq_none (by omega)]

/-- The byte that the last patch to reach an index puts there. -/
def lastByte? (patches : List Patch) (index : Nat) : Option UInt8 :=
  patches.reverse.findSome? (·.byteAt? index)

theorem lastByte?_append (first second : List Patch) (index : Nat) :
    lastByte? (first ++ second) index =
      (lastByte? second index).or (lastByte? first index) := by
  rw [lastByte?, List.reverse_append, List.findSome?_append]
  rfl

/-- A patch decides the bytes it reaches and no others. -/
theorem getElem?_splice
    {buffer : Bytes} (patch : Patch)
    (fits : patch.offset + patch.bytes.length ≤ buffer.length) (index : Nat) :
    (splice buffer patch.offset patch.bytes)[index]? =
      (patch.byteAt? index).or buffer[index]? := by
  have inside : patch.offset ≤ buffer.length := by omega
  rw [Patch.byteAt?]
  by_cases before : index < patch.offset
  · rw [if_neg (Nat.not_le.mpr before), Option.none_or,
      ← List.getElem?_take_of_lt before, take_splice inside,
      List.getElem?_take_of_lt before]
  · obtain ⟨lane, rfl⟩ : ∃ lane, index = patch.offset + lane :=
      ⟨index - patch.offset, by omega⟩
    rw [if_pos (Nat.le_add_right ..), Nat.add_sub_cancel_left,
      ← List.getElem?_drop, drop_splice inside]
    by_cases covered : lane < patch.bytes.length
    · rw [List.getElem?_append_left covered,
        List.getElem?_eq_getElem covered, Option.some_or]
    · have behind : patch.bytes.length ≤ lane := Nat.le_of_not_lt covered
      rw [List.getElem?_append_right behind, List.getElem?_eq_none behind,
        Option.none_or, List.getElem?_drop]
      congr 1
      omega

/-! ## One step -/

structure Output.HasSize (output : Output) (size : Nat) : Prop where
  capacity_eq : output.capacity = size
  inside : output.position ≤ size

def WriteStep.Refused (output : Output) : WriteStep → Prop
  | seek position => output.capacity < position
  | write entry =>
      output.remaining < entry.item.size ∨ ¬ entry.WithinLimit

/-- The bytes that a step lays over the buffer, unless it is refused. -/
def Output.patch? (output : Output) : WriteStep → Option Patch
  | .seek _ => none
  | .write entry =>
      match (output.step (.write entry)).2 with
      | none => some ⟨output.position, entry.item.encode⟩
      | some _ => none

namespace Output

theorem write_of_excess
    (output : Output) {entry : Entry} (excess : ¬ entry.WithinLimit) :
    ∃ error, output.write entry = .error error := by
  rw [← Entry.excess?_eq_none_iff] at excess
  obtain ⟨length, excess⟩ := Option.ne_none_iff_exists'.mp excess
  exact ⟨_, by rw [write, excess]⟩

theorem step_seek (output : Output) (position : Nat) :
    output.step (.seek position) =
      match output.seek position with
      | .ok later => (later, none)
      | .error error => (output, some error) := by
  simp only [step, WriteStep.perform, Writer.run_ofWrite]
  cases output.seek position <;> rfl

theorem step_write (output : Output) (entry : Entry) :
    output.step (.write entry) =
      match output.write entry with
      | .ok later => (later, none)
      | .error error => (output, some error) := by
  simp only [step, WriteStep.perform, Writer.run_entry]
  cases output.write entry <;> rfl

theorem refused_write
    {output : Output} {entry : Entry} {error : WriteError}
    (refused : output.write entry = .error error) :
    output.patch? (.write entry) = none ∧
      ∃ error, output.step (.write entry) = (output, some error) := by
  have step_eq : output.step (.write entry) = (output, some error) := by
    rw [step_write, refused]
  exact ⟨by rw [patch?, step_eq], error, step_eq⟩

/-- All that a step can do. -/
theorem step_cases (output : Output) (action : WriteStep) :
    (action.Refused output ∧ output.patch? action = none ∧
      ∃ error, output.step action = (output, some error)) ∨
    (∃ position, action = .seek position ∧ position ≤ output.capacity ∧
      output.step action = ({ output with position }, none)) ∨
    ∃ entry, action = .write entry ∧ entry.WithinLimit ∧
      entry.item.size ≤ output.remaining ∧
      output.patch? action = some ⟨output.position, entry.item.encode⟩ ∧
      output.step action =
        (⟨splice output.buffer output.position entry.item.encode,
          output.position + entry.item.size⟩, none) := by
  cases action with
  | seek position =>
      by_cases inside : position ≤ output.capacity
      · refine .inr (.inl ⟨position, rfl, inside, ?_⟩)
        rw [step_seek, seek, if_pos inside]
      · refine .inl ⟨Nat.lt_of_not_le inside, rfl,
          .pastEnd position output.capacity, ?_⟩
        rw [step_seek, seek, if_neg inside]
  | write entry =>
      by_cases within : entry.WithinLimit
      · have put_eq := output.write_of_withinLimit within
        by_cases room : entry.item.size ≤ output.remaining
        · have step_eq :
              output.step (.write entry) =
                (⟨splice output.buffer output.position entry.item.encode,
                  output.position + entry.item.size⟩, none) := by
            rw [step_write, put_eq, put, entry.item.length_encode,
              if_pos room]
          refine .inr (.inr ⟨entry, rfl, within, room, ?_, step_eq⟩)
          rw [patch?, step_eq]
        · have short := Nat.lt_of_not_le room
          rw [← entry.item.length_encode] at room
          exact .inl ⟨.inl short, refused_write (put_eq.trans (if_neg room))⟩
      · obtain ⟨error, refused⟩ := output.write_of_excess within
        exact .inl ⟨.inr within, refused_write refused⟩

theorem isSome_step_iff (output : Output) (action : WriteStep) :
    (output.step action).2.isSome ↔ action.Refused output := by
  rcases output.step_cases action with
    ⟨refused, -, error, step_eq⟩ | ⟨position, rfl, inside, step_eq⟩ |
      ⟨entry, rfl, within, room, -, step_eq⟩
  · rw [step_eq]
    exact iff_of_true rfl refused
  · rw [step_eq]
    exact iff_of_false Bool.false_ne_true (Nat.not_lt.mpr inside)
  · rw [step_eq]
    refine iff_of_false Bool.false_ne_true ?_
    rintro (short | excess)
    · exact absurd room (Nat.not_le.mpr short)
    · exact excess within

/-- A refused step leaves the output as it was. -/
theorem step_of_refused
    {output : Output} {action : WriteStep}
    (refused : (output.step action).2.isSome) :
    (output.step action).1 = output := by
  rcases output.step_cases action with
    ⟨-, -, error, step_eq⟩ | ⟨position, -, -, step_eq⟩ |
      ⟨entry, -, -, -, -, step_eq⟩
  · rw [step_eq]
  · rw [step_eq] at refused
    cases refused
  · rw [step_eq] at refused
    cases refused

variable {output : Output} {size : Nat}

theorem HasSize.fits
    (sized : output.HasSize size) {entry : Entry}
    (room : entry.item.size ≤ output.remaining) :
    output.position + entry.item.encode.length ≤ output.buffer.length := by
  have inside := sized.inside
  rw [← sized.capacity_eq] at inside
  rw [entry.item.length_encode]
  rw [remaining] at room
  rw [capacity] at room inside
  omega

/-- No step changes the size of the buffer or leaves it. -/
theorem HasSize.step (sized : output.HasSize size) (action : WriteStep) :
    (output.step action).1.HasSize size := by
  rcases output.step_cases action with
    ⟨-, -, error, step_eq⟩ | ⟨position, -, inside, step_eq⟩ |
      ⟨entry, -, -, room, -, step_eq⟩
  · rw [step_eq]
    exact sized
  · rw [step_eq]
    exact ⟨sized.capacity_eq, sized.capacity_eq ▸ inside⟩
  · have fits := sized.fits room
    rw [step_eq]
    refine ⟨(length_splice fits).trans sized.capacity_eq, ?_⟩
    rw [entry.item.length_encode] at fits
    exact sized.capacity_eq ▸ fits

/-- A step changes the bytes that its patch reaches. -/
theorem HasSize.getElem?_step
    (sized : output.HasSize size) (action : WriteStep) (index : Nat) :
    (output.step action).1.buffer[index]? =
      ((output.patch? action).bind (·.byteAt? index)).or
        output.buffer[index]? := by
  rcases output.step_cases action with
    ⟨-, patch_eq, error, step_eq⟩ | ⟨position, rfl, -, step_eq⟩ |
      ⟨entry, -, -, room, patch_eq, step_eq⟩
  · rw [step_eq, patch_eq]
    rfl
  · rw [step_eq]
    rfl
  · rw [step_eq, patch_eq]
    exact getElem?_splice ⟨_, _⟩ (sized.fits room) index

theorem eq_of_step_seek
    {position : Nat} {later : Output}
    (moved : output.step (.seek position) = (later, none)) :
    later = { output with position } := by
  rcases output.step_cases (.seek position) with
    ⟨-, -, error, step_eq⟩ | ⟨target, action_eq, -, step_eq⟩ |
      ⟨entry, action_eq, -⟩
  · rw [step_eq] at moved
    cases moved
  · cases action_eq
    rw [step_eq] at moved
    exact (Prod.mk.inj moved).1.symm
  · cases action_eq

theorem HasSize.frame_of_step_write
    (sized : output.HasSize size) {entry : Entry} {later : Output}
    (wrote : output.step (.write entry) = (later, none)) :
    later.position = output.position + entry.item.size ∧
      ∀ index, index < output.position ∨ later.position ≤ index →
        later.buffer[index]? = output.buffer[index]? := by
  rcases output.step_cases (.write entry) with
    ⟨-, -, error, step_eq⟩ | ⟨position, action_eq, -⟩ |
      ⟨written, action_eq, -, -, patch_eq, step_eq⟩
  · rw [step_eq] at wrote
    cases wrote
  · cases action_eq
  · cases action_eq
    have bytes := sized.getElem?_step (.write entry)
    have position : later.position = output.position + entry.item.size := by
      rw [wrote] at step_eq
      rw [(Prod.mk.inj step_eq).1]
    refine ⟨position, fun index outside => ?_⟩
    rw [position, ← entry.item.length_encode] at outside
    have unchanged := bytes index
    rw [wrote, patch_eq, Option.bind_some,
      Patch.byteAt?_of_outside outside, Option.none_or] at unchanged
    exact unchanged

/-! ## Many steps -/

/-- The bytes that a row of steps lays over the buffer, one patch for each
write that is not refused. -/
def patches (output : Output) : List WriteStep → List Patch
  | [] => []
  | action :: actions =>
      (output.patch? action).toList ++ (output.step action).1.patches actions

/-- No run changes the size of the buffer or leaves it. -/
theorem HasSize.run (sized : output.HasSize size) (actions : List WriteStep) :
    (output.run actions).HasSize size := by
  induction actions generalizing output with
  | nil => exact sized
  | cons action actions inductionHypothesis =>
      exact inductionHypothesis (sized.step action)

/-- The last write to cover a byte wins. -/
theorem HasSize.getElem?_run
    (sized : output.HasSize size) (actions : List WriteStep) (index : Nat) :
    (output.run actions).buffer[index]? =
      (lastByte? (output.patches actions) index).or output.buffer[index]? := by
  induction actions generalizing output with
  | nil => rfl
  | cons action actions inductionHypothesis =>
      have here :
          lastByte? (output.patch? action).toList index =
            (output.patch? action).bind (·.byteAt? index) := by
        cases output.patch? action with
        | none => rfl
        | some patch => exact List.findSome?_singleton
      rw [Output.run, inductionHypothesis (sized.step action),
        sized.getElem?_step action, patches, lastByte?_append, here,
        Option.or_assoc]

end Output

/-- What holds of a writer after any steps.  The patches are those of the
writes that were not refused, each where the writer stood. -/
theorem last_write_to_cover_a_byte_wins
    (buffer : Bytes) (actions : List WriteStep) :
    let output := (Output.ofBuffer buffer).run actions
    let patches := (Output.ofBuffer buffer).patches actions
    output.capacity = buffer.length ∧
      output.position ≤ output.capacity ∧
      (∀ entry, (output.step (.write entry)).2.isSome ↔
        output.remaining < entry.item.size ∨ ¬ entry.WithinLimit) ∧
      (∀ position, (output.step (.seek position)).2.isSome ↔
        output.capacity < position) ∧
      (∀ action, (output.step action).2.isSome →
        (output.step action).1 = output) ∧
      (∀ position later, output.step (.seek position) = (later, none) →
        later = { output with position }) ∧
      (∀ entry later, output.step (.write entry) = (later, none) →
        later.position = output.position + entry.item.size ∧
          ∀ index, index < output.position ∨ later.position ≤ index →
            later.buffer[index]? = output.buffer[index]?) ∧
      ∀ index, output.buffer[index]? =
        (lastByte? patches index).or buffer[index]? := by
  intro output patches
  have fresh : (Output.ofBuffer buffer).HasSize buffer.length :=
    ⟨rfl, Nat.zero_le _⟩
  have sized : output.HasSize buffer.length := fresh.run actions
  refine ⟨sized.capacity_eq, sized.capacity_eq ▸ sized.inside,
    fun entry => output.isSome_step_iff _,
    fun position => output.isSome_step_iff _,
    fun action => Output.step_of_refused,
    fun position later => Output.eq_of_step_seek,
    fun entry later => sized.frame_of_step_write,
    fresh.getElem?_run actions⟩

/-- A number, then a shorter one laid over its second half, with three refused
steps between them. -/
theorem second_number_covers_half_of_the_first :
    let buffer : Bytes := List.replicate 8 0xee
    let actions : List WriteStep :=
      [.write ⟨.word32 0x04030201, 0⟩, .write ⟨.text "é€", 9⟩, .seek 2,
        .write ⟨.text "ab", 1⟩, .seek 9, .write ⟨.word16 0xbbaa, 0⟩]
    let output := (Output.ofBuffer buffer).run actions
    output.position = 4 ∧
      output.buffer[1]? = some 2 ∧
      output.buffer[3]? = some 0xbb ∧
      output.buffer[4]? = some 0xee ∧
      (output.step (.write ⟨.address .absent, 0⟩)).1 = output := by
  intro buffer actions output
  obtain ⟨-, -, refused, -, unchanged, -, -, bytes⟩ :=
    last_write_to_cover_a_byte_wins buffer actions
  have remaining : output.remaining = 4 := by decide +kernel
  have noRoom : (output.step (.write ⟨.address .absent, 0⟩)).2.isSome := by
    apply (refused _).mpr
    left
    change output.remaining < 19
    omega
  refine ⟨by decide +kernel, ?_, ?_, ?_, unchanged _ noRoom⟩
  · exact (bytes 1).trans (by decide +kernel)
  · exact (bytes 3).trans (by decide +kernel)
  · exact (bytes 4).trans (by decide +kernel)

end RelayFrame.Stream
