import RelayFrame.Proofs.Stream.InPlace

/-!
# Runs of a reader

A reader may seek, read, keep copies of itself and go back to any of them, in
any order.  Whatever it does, its data stay as they are and its position stays
inside them, so what remains is always the rest of the data.  A read whose
width is known beforehand succeeds exactly if as many bytes remain, and a read
that is refused, for whatever reason, has not moved.
-/

namespace RelayFrame.Stream

/-! ## One step -/

structure Input.LiesIn (input : Input) (data : Bytes) : Prop where
  data_eq : input.data = data
  inside : input.position ≤ data.length

namespace Input

variable {input : Input} {data : Bytes}

theorem LiesIn.ofBytes (data : Bytes) : (ofBytes data).LiesIn data :=
  ⟨rfl, Nat.zero_le _⟩

theorem LiesIn.seek_eq (lies : input.LiesIn data) (position : Nat) :
    input.seek position = ⟨data, min position data.length⟩ := by
  rw [seek, lies.data_eq]

theorem LiesIn.remaining_eq (lies : input.LiesIn data) :
    input.remaining = data.length - input.position := by
  rw [remaining, lies.data_eq]

theorem LiesIn.advance_eq (lies : input.LiesIn data) (count : Nat) :
    input.advance count = ⟨data, input.position + count⟩ := by
  rw [Input.advance, lies.data_eq]

theorem LiesIn.advance
    (lies : input.LiesIn data) {count : Nat}
    (enough : count ≤ input.remaining) :
    (input.advance count).LiesIn data := by
  have inside := lies.inside
  rw [lies.remaining_eq] at enough
  exact ⟨lies.data_eq, show input.position + count ≤ data.length by omega⟩

/-- A read of known width looks only at how many bytes remain. -/
theorem read_of_width?
    (input : Input) {shape : Shape} {width : Nat}
    (fixed : shape.width? = some width) :
    (width ≤ input.remaining →
      ∃ item, item.size = width ∧
        input.read shape = .ok (item, input.advance width)) ∧
      (input.remaining < width →
        input.read shape = .error (.endOfInput width input.remaining)) := by
  obtain ⟨decode, decodes⟩ := Shape.exists_decodes fixed
  rw [decodes.read_eq]
  constructor
  · intro enough
    have reads := decodes.reads _ (length_ahead enough)
    rw [take_eq_ok_iff.mpr ⟨enough, rfl, rfl⟩]
    exact ⟨_, reads.size_eq fixed, rfl⟩
  · intro short
    rw [take_of_remaining_lt short]
    rfl

end Input

namespace Reading

/-- All the inputs of the reading have the given data and positions in
them. -/
structure LiesIn (reading : Reading) (data : Bytes) : Prop where
  current : reading.current.LiesIn data
  kept : ∀ copy ∈ reading.kept, copy.LiesIn data

variable {reading : Reading} {data : Bytes}

theorem step_read (reading : Reading) (shape : Shape) :
    reading.step (.read shape) =
      match reading.current.read shape with
      | .ok (item, later) =>
          ({ reading with current := later }, .ok (some item))
      | .error error => (reading, .error error) := by
  simp only [step, Reader.run_item]
  cases reading.current.read shape <;> rfl

theorem step_read_of_ok
    {shape : Shape} {item : Item} {later : Input}
    (succeeds : reading.current.read shape = .ok (item, later)) :
    reading.step (.read shape) =
      ({ reading with current := later }, .ok (some item)) := by
  rw [step_read, succeeds]

theorem step_read_of_error
    {shape : Shape} {error : ReadError}
    (fails : reading.current.read shape = .error error) :
    reading.step (.read shape) = (reading, .error error) := by
  rw [step_read, fails]

/-- A read moves behind the item it gives or stays where it is. -/
theorem step_read_cases (reading : Reading) (shape : Shape) :
    (∃ item, shape.Reads item ∧ item.size ≤ reading.current.remaining ∧
      reading.step (.read shape) =
        ({ reading with current := reading.current.advance item.size },
          .ok (some item))) ∨
      ∃ error, reading.step (.read shape) = (reading, .error error) := by
  cases read : reading.current.read shape with
  | ok pair =>
      obtain ⟨item, later⟩ := pair
      have took := Input.took_of_read read
      rw [took.later_eq] at read
      exact .inl ⟨item, took.reads, took.enough, step_read_of_ok read⟩
  | error error => exact .inr ⟨error, step_read_of_error read⟩

/-- No step leaves the data. -/
theorem LiesIn.step (lies : reading.LiesIn data) (action : ReadStep) :
    (reading.step action).1.LiesIn data := by
  obtain ⟨current, kept⟩ := lies
  cases action with
  | seek position =>
      refine ⟨?_, kept⟩
      change (reading.current.seek position).LiesIn data
      rw [current.seek_eq]
      exact ⟨rfl, Nat.min_le_right ..⟩
  | save =>
      refine ⟨current, fun copy member => ?_⟩
      rcases List.mem_cons.mp member with rfl | earlier
      · exact current
      · exact kept copy earlier
  | restore age =>
      refine ⟨?_, kept⟩
      change (reading.kept.getD age reading.current).LiesIn data
      rw [List.getD_eq_getElem?_getD]
      cases found : reading.kept[age]? with
      | none => exact current
      | some copy => exact kept copy (List.mem_of_getElem? found)
  | read shape =>
      rcases step_read_cases reading shape with
        ⟨item, -, enough, step_eq⟩ | ⟨error, step_eq⟩
      · rw [step_eq]
        exact ⟨current.advance enough, kept⟩
      · rw [step_eq]
        exact ⟨current, kept⟩

/-! ## Many steps -/

theorem run_append (reading : Reading) (first second : List ReadStep) :
    reading.run (first ++ second) =
      (((reading.run first).1.run second).1,
        (reading.run first).2 ++ ((reading.run first).1.run second).2) := by
  induction first generalizing reading with
  | nil => rfl
  | cons action first inductionHypothesis =>
      simp only [List.cons_append, run, inductionHypothesis]

theorem run_of_readAll
    {input last : Input} {shapes : List Shape} {items : List Item}
    (succeeds : input.readAll shapes = .ok (items, last))
    (kept : List Input) :
    run ⟨input, kept⟩ (shapes.map .read) =
      (⟨last, kept⟩, items.map fun item => .ok (some item)) := by
  induction shapes generalizing input items with
  | nil =>
      cases succeeds
      rfl
  | cons shape shapes inductionHypothesis =>
      obtain ⟨item, later, rest, rfl, first, others⟩ :=
        Input.readAll_cons_eq_ok succeeds
      rw [List.map_cons, run, step_read_of_ok first]
      simp only [inductionHypothesis others, List.map_cons]

theorem run_of_readAll_of_error
    {input middle : Input} {shapes : List Shape} {items : List Item}
    {shape : Shape} {error : ReadError}
    (succeeds : input.readAll shapes = .ok (items, middle))
    (fails : middle.read shape = .error error) (kept : List Input) :
    run ⟨input, kept⟩ ((shapes ++ [shape]).map .read) =
      (⟨middle, kept⟩,
        items.map (fun item => .ok (some item)) ++ [.error error]) := by
  have refused : step ⟨middle, kept⟩ (.read shape) = (_, _) :=
    step_read_of_error fails
  rw [List.map_append, run_append, run_of_readAll succeeds, List.map_singleton]
  simp only [run, refused]

/-- No run leaves the data, by induction on its steps. -/
theorem LiesIn.run (lies : reading.LiesIn data) (actions : List ReadStep) :
    (reading.run actions).1.LiesIn data := by
  induction actions generalizing reading with
  | nil => exact lies
  | cons action actions inductionHypothesis =>
      exact inductionHypothesis (lies.step action)

theorem liesIn_ofBytes (data : Bytes) : (ofBytes data).LiesIn data := by
  refine ⟨.ofBytes data, fun copy member => ?_⟩
  rw [List.mem_singleton.mp member]
  exact .ofBytes data

end Reading

/-- What holds of a reader after any steps. -/
theorem reader_stays_in_its_data (data : Bytes) (actions : List ReadStep) :
    let reading := ((Reading.ofBytes data).run actions).1
    let input := reading.current
    input.data = data ∧
      input.position ≤ data.length ∧
      input.remaining = data.length - input.position ∧
      (∀ copy ∈ reading.kept,
        copy.data = data ∧ copy.position ≤ data.length) ∧
      (∀ position, reading.step (.seek position) =
        ({ reading with current := ⟨data, min position data.length⟩ },
          .ok none)) ∧
      (∀ shape later error,
        reading.step (.read shape) = (later, .error error) →
          later = reading) ∧
      (∀ shape later result,
        reading.step (.read shape) = (later, .ok result) →
          ∃ item, result = some item ∧ shape.Reads item ∧
            item.size ≤ input.remaining ∧
            later = { reading with
              current := ⟨data, input.position + item.size⟩ }) ∧
      ∀ shape width, shape.width? = some width →
        (width ≤ input.remaining →
          ∃ item, item.size = width ∧
            reading.step (.read shape) =
              ({ reading with current := ⟨data, input.position + width⟩ },
                .ok (some item))) ∧
          (input.remaining < width →
            reading.step (.read shape) =
              (reading, .error (.endOfInput width input.remaining))) := by
  intro reading input
  have lies : reading.LiesIn data := (Reading.liesIn_ofBytes data).run actions
  have here := lies.current
  have read_cases := reading.step_read_cases
  simp only [here.advance_eq] at read_cases
  refine ⟨here.data_eq, here.inside, here.remaining_eq, ?_, ?_, ?_, ?_, ?_⟩
  · exact fun copy member =>
      ⟨(lies.kept copy member).data_eq, (lies.kept copy member).inside⟩
  · intro position
    rw [Reading.step, here.seek_eq]
  · intro shape later error refused
    rcases read_cases shape with ⟨item, -, -, step_eq⟩ | ⟨cause, step_eq⟩
    · rw [step_eq] at refused
      cases refused
    · rw [step_eq] at refused
      exact (Prod.mk.inj refused).1.symm
  · intro shape later result succeeds
    rcases read_cases shape with
      ⟨item, reads, enough, step_eq⟩ | ⟨cause, step_eq⟩
    · rw [step_eq] at succeeds
      obtain ⟨later_eq, result_eq⟩ := Prod.mk.inj succeeds
      exact ⟨item, (Except.ok.inj result_eq).symm, reads, enough,
        later_eq.symm⟩
    · rw [step_eq] at succeeds
      cases succeeds
  · intro shape width fixed
    obtain ⟨enoughCase, shortCase⟩ := input.read_of_width? fixed
    constructor
    · intro enough
      obtain ⟨item, size, read⟩ := enoughCase enough
      rw [here.advance_eq] at read
      exact ⟨item, size, Reading.step_read_of_ok read⟩
    · exact fun short => Reading.step_read_of_error (shortCase short)

/-- Two copies are kept, at one and at five, before the reader seeks too far
and goes back to the older one. -/
theorem reader_with_two_copies_stays_in_its_data :
    let data : Bytes := [5, 0, 0, 0, 0x68, 0x69, 7]
    let actions : List ReadStep :=
      [.read .word8, .save, .read .word32, .save, .read (.text 9), .seek 1000,
        .restore 1]
    let reading := ((Reading.ofBytes data).run actions).1
    reading.current = ⟨data, 1⟩ ∧
      reading.step (.read (.raw (2 ^ 64 - 1))) =
        (reading, .error (.endOfInput (2 ^ 64 - 1) 6)) ∧
      ∃ item, item.size = 4 ∧
        reading.step (.read .word32) =
          ({ reading with current := ⟨data, 5⟩ }, .ok (some item)) := by
  intro data actions reading
  have current : reading.current = ⟨data, 1⟩ := by decide +kernel
  have remaining : reading.current.remaining = 6 := by rw [current]; rfl
  obtain ⟨-, -, -, -, -, -, -, fixed⟩ := reader_stays_in_its_data data actions
  have refused := (fixed (.raw (2 ^ 64 - 1)) _ rfl).2
  obtain ⟨item, size, read⟩ := (fixed .word32 4 rfl).1 <| by
    rw [remaining]
    decide
  rw [remaining] at refused
  rw [current] at read
  exact ⟨current, refused (by decide), item, size, read⟩

end RelayFrame.Stream
