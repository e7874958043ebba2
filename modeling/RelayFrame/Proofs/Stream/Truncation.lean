import RelayFrame.Proofs.Stream.ReaderRuns

/-!
# Streams that are cut short and streams that go on

A read looks at the bytes it takes and at none behind them.  More bytes behind
the data therefore change nothing but a read that has run out of them, and in a
stream that was cut short every item that ends before the cut is still read.
The first one that does not end there is refused for want of bytes: any other
answer would also be the answer to the whole stream, and that one takes more
bytes than there are before the cut.
-/

namespace RelayFrame.Stream

/-! ## Bytes behind the data -/

def Input.extend (input : Input) (more : Bytes) : Input :=
  { input with data := input.data ++ more }

/-- A read was refused because it needs more bytes than there are. -/
def RunsOut {α : Type} (result : Except ReadError α) : Prop :=
  ∃ requested available, result = .error (.endOfInput requested available)

/-- A way of reading that runs out of bytes or does not depend on what stands
behind them. -/
def IsLocal {α : Type} (reader : Input → Except ReadError (α × Input)) : Prop :=
  ∀ input more, RunsOut (reader input) ∨
    reader (input.extend more) =
      (reader input).map fun (value, later) => (value, later.extend more)

namespace IsLocal

variable {α β : Type} {reader : Input → Except ReadError (α × Input)}

theorem error (error : ReadError) :
    IsLocal fun _ => (.error error : Except ReadError (α × Input)) :=
  fun _ _ => .inr rfl

theorem ok (value : α) : IsLocal fun input => .ok (value, input) :=
  fun _ _ => .inr rfl

theorem bind
    {next : α × Input → Except ReadError (β × Input)}
    (firstLocal : IsLocal reader)
    (nextLocal : ∀ value, IsLocal fun later => next (value, later)) :
    IsLocal fun input => reader input >>= next := by
  intro input more
  rcases firstLocal input more with ⟨requested, available, out⟩ | same
  · exact .inl ⟨requested, available, by simp only [out]; rfl⟩
  · simp only [same]
    cases reader input with
    | error error => exact .inr rfl
    | ok pair => exact nextLocal pair.1 pair.2 more

theorem map (readerLocal : IsLocal reader) (change : α → β) :
    IsLocal fun input =>
      (reader input).map fun (value, later) => (change value, later) := by
  intro input more
  rcases readerLocal input more with ⟨requested, available, out⟩ | same
  · exact .inl ⟨requested, available, by simp only [out]; rfl⟩
  · simp only [same]
    cases reader input <;> exact .inr rfl

end IsLocal

namespace Input

theorem LiesIn.tail_extend
    {input : Input} {data : Bytes} (lies : input.LiesIn data) (more : Bytes) :
    (input.extend more).tail = input.tail ++ more := by
  rw [tail, tail, extend, lies.data_eq]
  exact List.drop_append_of_le_length lies.inside

theorem isLocal_take (count : Nat) : IsLocal (take · count) := by
  intro input more
  by_cases enough : count ≤ input.remaining
  · have still : count ≤ (input.extend more).remaining := by
      simp only [remaining, extend, List.length_append] at enough ⊢
      omega
    have same : (input.extend more).ahead count = input.ahead count := by
      rw [← length_tail, tail] at enough
      simp only [ahead, extend]
      rw [List.drop_append, List.take_append_of_le_length enough]
    have taken := take_eq_ok_iff.mpr ⟨enough, rfl, rfl⟩
    have takenStill := take_eq_ok_iff.mpr ⟨still, same, rfl⟩
    right
    simp only [taken, takenStill]
    rfl
  · exact .inl ⟨_, _, if_neg enough⟩

theorem isLocal_takeNumber (width : Nat) : IsLocal (takeNumber · width) :=
  (isLocal_take width).map ofLittleEndian

theorem isLocal_takeText (limit : UInt32) : IsLocal (takeText · limit) := by
  refine (isLocal_takeNumber 4).bind fun count => ?_
  by_cases long : limit.toNat < count
  · simp only [if_pos long]
    exact .error _
  · simp only [if_neg long]
    refine (isLocal_take count).bind fun bytes => ?_
    simp only
    cases textOfBytes? bytes with
    | none => exact .error _
    | some value => exact .ok value

theorem isLocal_read (shape : Shape) : IsLocal (read · shape) := by
  cases fixed : shape.width? with
  | none =>
      obtain ⟨limit, rfl⟩ : ∃ limit, shape = .text limit := by
        cases shape with
        | text limit => exact ⟨limit, rfl⟩
        | _ => cases fixed
      exact (isLocal_takeText limit).map Item.text
  | some width =>
      obtain ⟨decode, decodes⟩ := Shape.exists_decodes fixed
      rw [show (read · shape) = _ from funext decodes.read_eq]
      exact (isLocal_take width).map decode

/-- No list of reads looks behind what it takes. -/
theorem isLocal_readAll (shapes : List Shape) : IsLocal (readAll · shapes) := by
  induction shapes with
  | nil => exact .ok []
  | cons shape shapes inductionHypothesis =>
      exact (isLocal_read shape).bind fun item =>
        inductionHypothesis.bind fun items => .ok (item :: items)

/-! ## Data that go on -/

theorem readAll_take
    {input last : Input} {shapes : List Shape} {items : List Item}
    (succeeds : input.readAll shapes = .ok (items, last)) (count : Nat) :
    ∃ middle, input.readAll (shapes.take count) =
      .ok (items.take count, middle) := by
  induction shapes generalizing input items count with
  | nil =>
      cases succeeds
      exact ⟨_, by rw [List.take_nil, List.take_nil]; rfl⟩
  | cons shape shapes inductionHypothesis =>
      obtain ⟨item, later, rest, rfl, first, others⟩ :=
        readAll_cons_eq_ok succeeds
      cases count with
      | zero => exact ⟨input, rfl⟩
      | succ count =>
          obtain ⟨middle, taken⟩ := inductionHypothesis others count
          exact ⟨middle, readAll_cons_of_ok first taken⟩

/-- More data behind the input changes nothing for reads that succeed. -/
theorem readAll_extend
    {input last : Input} {shapes : List Shape} {items : List Item}
    (succeeds : input.readAll shapes = .ok (items, last)) (more : Bytes) :
    (input.extend more).readAll shapes = .ok (items, last.extend more) := by
  rcases isLocal_readAll shapes input more with ⟨_, _, out⟩ | same
  · cases succeeds.symm.trans out
  · simp only [succeeds] at same
    exact same

/-! ## Streams that were cut -/

/-- An item that is cut off runs out of bytes. -/
theorem read_of_cut
    {input : Input} {data : Bytes} {shape : Shape} {item : Item} {cut : Nat}
    (lies : input.LiesIn data) (reads : shape.Reads item)
    (short : cut < item.size) (ahead : input.tail = item.encode.take cut) :
    RunsOut (input.read shape) := by
  let more := item.encode.drop cut
  have whole : (input.extend more).tail = item.encode ++ [] := by
    rw [lies.tail_extend, ahead, List.take_append_drop, List.append_nil]
  have readWhole := read_of_tail reads whole
  rcases isLocal_read shape input more with out | same
  · exact out
  · simp only [readWhole] at same
    cases read : input.read shape with
    | error error =>
        rw [read] at same
        cases same
    | ok pair =>
        -- A read that succeeds here succeeds on the whole item with the same
        -- width, but then there were too few bytes for it.
        obtain ⟨other, later⟩ := pair
        have took := took_of_read read
        rw [read, took.later_eq] at same
        have position :
            input.position + item.size = input.position + other.size :=
          congrArg (·.2.position) (Except.ok.inj same)
        have enough := took.enough
        rw [← length_tail, ahead, List.length_take] at enough
        omega

/-- Of a list of items that was cut short, the ones that end before the cut
are read, and the next one is refused. -/
theorem readAll_of_cut
    {shapes : List Shape} {items : List Item}
    (reads : List.Forall₂ Shape.Reads shapes items)
    {input : Input} {data : Bytes} {cut : Nat} (lies : input.LiesIn data)
    (short : cut < totalSize items)
    (ahead : input.tail = (encodeAll items).take cut) :
    ∃ index shape, shapes[index]? = some shape ∧
      totalSize (items.take index) ≤ cut ∧
      cut < totalSize (items.take (index + 1)) ∧
      input.readAll (shapes.take index) =
        .ok ((items.take index).map Item.received,
          input.advance (totalSize (items.take index))) ∧
      RunsOut ((input.advance (totalSize (items.take index))).read shape) := by
  induction reads generalizing input cut with
  | nil => exact absurd short (Nat.not_lt_zero cut)
  | @cons shape item shapes items first _ inductionHypothesis =>
      have bytes :
          encodeAll (item :: items) = item.encode ++ encodeAll items := rfl
      rw [bytes] at ahead
      rw [totalSize] at short
      by_cases fits : item.size ≤ cut
      · have itemAhead :
            input.tail =
              item.encode ++ (encodeAll items).take (cut - item.size) := by
          rw [ahead, List.take_append, item.length_encode,
            List.take_of_length_le (by rwa [item.length_encode])]
        have enough : item.size ≤ input.remaining := by
          rw [← length_tail, itemAhead, List.length_append, item.length_encode]
          omega
        have laterAhead :
            (input.advance item.size).tail =
              (encodeAll items).take (cut - item.size) := by
          rw [tail_advance, itemAhead]
          exact List.drop_left' item.length_encode
        obtain ⟨index, cutShape, found, before, behind, readBefore, out⟩ :=
          inductionHypothesis (lies.advance enough) (by omega) laterAhead
        have moved :
            (input.advance item.size).advance (totalSize (items.take index)) =
              input.advance (totalSize ((item :: items).take (index + 1))) :=
          input.advance_advance ..
        rw [moved] at readBefore out
        refine ⟨index + 1, cutShape, found, ?_, ?_, ?_, out⟩
        · rw [List.take_succ_cons, totalSize]
          omega
        · rw [List.take_succ_cons, totalSize]
          omega
        · exact readAll_cons_of_ok (read_of_tail first itemAhead) readBefore
      · have itemShort : cut < item.size := Nat.lt_of_not_le fits
        have itemAhead : input.tail = item.encode.take cut := by
          rw [ahead, List.take_append_of_le_length]
          rw [item.length_encode]
          exact Nat.le_of_lt itemShort
        exact ⟨0, shape, rfl, Nat.zero_le _, itemShort, rfl,
          read_of_cut lies first itemShort itemAhead⟩

end Input

/-- A stream that was written and then cut is read up to the cut: the items
that end before it come back as they travel, and the first one that does not is
refused for want of bytes and leaves the reader where that item begins.  A
stream that goes on after its items is read like one that ends with them, item
by item and position by position. -/
theorem stream_is_read_up_to_its_cut :
    (∀ (buffer : Bytes) (start cut : Nat) (entries : List Entry)
        (shapes : List Shape),
      start + totalSize (itemsOf entries) ≤ buffer.length →
      (∀ entry ∈ entries, entry.WithinLimit) →
      List.Forall₂ Shape.Reads shapes (itemsOf entries) →
      cut < totalSize (itemsOf entries) →
      ∃ opened final,
        Output.openAt buffer start = .ok opened ∧
          opened.writeAll entries = .ok final ∧
          let items := itemsOf entries
          let stream := (final.buffer.drop start).take cut
          ∃ index requested available,
            totalSize (items.take index) ≤ cut ∧
              cut < totalSize (items.take (index + 1)) ∧
              (Reading.ofBytes stream).run
                  ((shapes.take (index + 1)).map .read) =
                (⟨⟨stream, totalSize (items.take index)⟩, [.ofBytes stream]⟩,
                  (items.take index).map (fun item =>
                      .ok (some item.received)) ++
                    [.error (.endOfInput requested available)])) ∧
      ∀ (input last : Input) (shapes : List Shape) (items : List Item)
          (more : Bytes),
        input.readAll shapes = .ok (items, last) →
        ∀ count, ∃ middle,
          input.readAll (shapes.take count) =
              .ok (items.take count, middle) ∧
            (input.extend more).readAll (shapes.take count) =
              .ok (items.take count, middle.extend more) := by
  constructor
  · intro buffer start cut entries shapes fits within reads short
    have inside : start ≤ buffer.length := by omega
    let written := splice buffer start (encodeAll (itemsOf entries))
    refine ⟨⟨buffer, start⟩, ⟨written, start + totalSize (itemsOf entries)⟩,
      Output.openAt_of_le inside, Output.writeAll_of_fits fits within, ?_⟩
    intro items stream
    have ahead : (Input.ofBytes stream).tail = (encodeAll items).take cut := by
      change (written.drop start).take cut = _
      rw [drop_splice inside, List.take_append_of_le_length]
      rw [length_encodeAll]
      exact Nat.le_of_lt short
    obtain ⟨index, shape, found, before, behind, readBefore, requested,
      available, out⟩ := Input.readAll_of_cut reads (.ofBytes stream) short ahead
    have ran :=
      Reading.run_of_readAll_of_error readBefore out [.ofBytes stream]
    refine ⟨index, requested, available, before, behind, ?_⟩
    rw [Input.advance, Input.ofBytes, Nat.zero_add, List.map_map] at ran
    rw [List.take_add_one, found]
    exact ran
  · intro input last shapes items more succeeds count
    obtain ⟨middle, taken⟩ := Input.readAll_take succeeds count
    exact ⟨middle, taken, Input.readAll_extend taken more⟩

/-- The cut lies in the first character of a text, which stands behind an item
of no bytes. -/
theorem text_cut_inside_a_character_is_refused :
    let entries : List Entry :=
      [⟨.word16 0x0102, 0⟩, ⟨.raw [], 0⟩, ⟨.text "é€", 5⟩, ⟨.address .absent, 0⟩]
    (∃ opened final requested available,
      Output.openAt (List.replicate 40 0) 3 = .ok opened ∧
        opened.writeAll entries = .ok final ∧
        let stream := (final.buffer.drop 3).take 7
        (Reading.ofBytes stream).run
            [.read .word16, .read (.raw 0), .read (.text 9)] =
          (⟨⟨stream, 2⟩, [.ofBytes stream]⟩,
            [.ok (some (.word16 0x0102)), .ok (some (.raw [])),
              .error (.endOfInput requested available)])) ∧
      (Input.ofBytes [2, 1, 0xff]).readAll [.word16] =
        .ok ([.word16 0x0102], ⟨[2, 1, 0xff], 2⟩) := by
  intro entries
  obtain ⟨cutStream, longStream⟩ := stream_is_read_up_to_its_cut
  constructor
  · have total : totalSize (itemsOf entries) = 30 := by decide +kernel
    have within : ∀ entry ∈ entries, entry.WithinLimit := by
      intro entry member
      rw [← Entry.excess?_eq_none_iff]
      revert entry
      decide +kernel
    have reads :
        List.Forall₂ Shape.Reads [.word16, .raw 0, .text 9, .address]
          (itemsOf entries) :=
      .cons (.word16 _) <| .cons (.raw []) <|
        .cons (.text 9 "é€" (by decide +kernel)) <| .cons (.address _) .nil
    obtain ⟨opened, final, isOpened, wrote, index, requested, available,
      before, behind, ran⟩ :=
      cutStream (List.replicate 40 0) 3 7 entries _ (by rw [total]; decide)
        within reads (by rw [total]; decide)
    have index_eq : index = 2 := by
      match index with
      | 0 => exact absurd behind (by decide)
      | 1 => exact absurd behind (by decide)
      | 2 => rfl
      | later + 3 =>
          change 2 + (0 + (9 + totalSize _)) ≤ 7 at before
          omega
    subst index_eq
    exact ⟨opened, final, requested, available, isOpened, wrote, ran⟩
  · obtain ⟨middle, short, long⟩ :=
      longStream (.ofBytes [2, 1]) ⟨[2, 1], 2⟩ [.word16] [.word16 0x0102] [0xff]
        (by decide) 1
    have middle_eq : middle = ⟨[2, 1], 2⟩ := by
      cases short
      rfl
    rw [middle_eq] at long
    exact long

end RelayFrame.Stream
