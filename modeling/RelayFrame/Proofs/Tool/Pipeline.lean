import RelayFrame.Proofs.Tool.FilesKept

/-!
# From a stamped file to its inspection

A stamp command and a filter command given the same texts read the same magic
and the same route from them.  So whatever the one writes the other lets in,
and both tell the same type and lengths.
-/

namespace RelayFrame

/-! ## Bytes spelled out -/

namespace Hex

/-- The sixteen digits, each at the place of its value. -/
def lowerDigits : List Char :=
  "0123456789abcdef".toList

/-- A byte as two of these digits, the high one first. -/
def digitPair (byte : UInt8) : List Char :=
  [lowerDigits.getD (byte.toNat / 16) '?',
    lowerDigits.getD (byte.toNat % 16) '?']

theorem digitChar_eq_getD_lowerDigits :
    ∀ value < 16, Nat.digitChar value = lowerDigits.getD value '?' := by
  decide

theorem hexByte_eq_digitPair (byte : UInt8) :
    Numeral.hexByte byte = digitPair byte := by
  have bound := byte.toNat_lt
  rw [Numeral.hexByte, digitPair,
    digitChar_eq_getD_lowerDigits (byte.toNat / 16) (by omega),
    digitChar_eq_getD_lowerDigits (byte.toNat % 16) (by omega)]

theorem encode_eq_digitPairs (bytes : Bytes) :
    encode bytes = String.ofList (bytes.flatMap digitPair) := by
  rw [encode, digits, funext hexByte_eq_digitPair]

end Hex

/-! ## Packets that are let in -/

namespace Report.Inspection

/-- The inspection of a packet that passes both checks. -/
def admitted (packetType : UInt8) (bodyLength : Nat) : Inspection :=
  ⟨18 + bodyLength, some packetType, some bodyLength, true, some true⟩

theorem pretty_admitted (packetType : UInt8) (bodyLength : Nat) :
    (admitted packetType bodyLength).pretty ++ "\n" =
      "length: " ++ (18 + bodyLength).repr ++ " bytes\n" ++
        "type: 0x" ++ String.ofList (Hex.digitPair packetType) ++ "\n" ++
        "payload: " ++ bodyLength.repr ++ " bytes\n" ++
        "basic filter: pass\n" ++ "advanced filter: pass\n" ++
        "verdict: accept\n" := by
  have text :
      (admitted packetType bodyLength).pretty =
        "length: " ++ (18 + bodyLength).repr ++ " bytes\ntype: " ++
          ("0x" ++ String.ofList (Numeral.hexByte packetType)) ++
          "\npayload: " ++ (bodyLength.repr ++ " bytes") ++
          "\nbasic filter: " ++ "pass" ++ "\nadvanced filter: " ++ "pass" ++
          "\nverdict: " ++ "accept" := rfl
  have typeLine : " bytes\ntype: " = " bytes\n" ++ "type: " := by decide
  have typeWord : "type: 0x" = "type: " ++ "0x" := by decide
  have payloadLine : "\npayload: " = "\n" ++ "payload: " := by decide
  have checkLines :
      " bytes" ++ ("\nbasic filter: " ++ ("pass" ++
          ("\nadvanced filter: " ++ ("pass" ++
            ("\nverdict: " ++ ("accept" ++ "\n")))))) =
        " bytes\n" ++ ("basic filter: pass\n" ++
          ("advanced filter: pass\n" ++ "verdict: accept\n")) := by decide
  rw [text, Hex.hexByte_eq_digitPair, typeLine, typeWord, payloadLine]
  simp only [String.append_assoc]
  rw [checkLines]

theorem json_admitted (packetType : UInt8) (bodyLength : Nat) :
    (admitted packetType bodyLength).json ++ "\n" =
      "\x7b\n" ++
        "  \"packet_len\": " ++ (18 + bodyLength).repr ++ ",\n" ++
        "  \"packet_type\": " ++ packetType.toNat.repr ++ ",\n" ++
        "  \"payload_len\": " ++ bodyLength.repr ++ ",\n" ++
        "  \"basic\": true,\n" ++ "  \"advanced\": true\n" ++
        "\x7d\n" := by
  have characters (value : Nat) :
      value.repr.toList = Nat.toDigits 10 value := String.toList_ofList
  rw [← String.toList_inj]
  simp only [String.toList_append, characters]
  rw [json, Document.text, String.toList_ofList]
  simp [admitted, document, optional, memberLines, memberLine, textLiteral,
    escapeChar, Scalar.characters]

end Report.Inspection

/-- A packet with both tags of its route passes both checks. -/
theorem Packet.inspect_genuine
    (route : Route) (magic : Bytes) {type : UInt8} {body : Bytes}
    (valid : isType type = true)
    (fits : minimumLength + body.length < lengthBound) :
    (Report.inspect (genuine route magic type body)
        (some ⟨magic, route⟩)).1 =
      .admitted type body.length := by
  have header : (headerFault? (genuine route magic type body)).isNone = true :=
    (hasPlausibleHeader_genuine route magic type body).trans valid
  have tags :
      (route.tagFault? magic (genuine route magic type body)).isNone = true :=
    accepts_genuine route magic type fits
  simp only [Report.inspect, Option.map_some, header, tags]
  simp only [genuine, length_assemble, head?_assemble, payload?_assemble]
  rfl

namespace Tool

/-! ## What both commands read -/

section Described

variable {texts : RouteTexts} {packetType : UInt8} {payload : String}
variable {packet : Bytes}

/-- The texts that describe a packet give the claim and the payload that it was
made from. -/
theorem Describes.exists_genuine
    (described : Describes texts packetType payload packet) :
    ∃ claim body, readClaim texts = .ok claim ∧
      Hex.decode (Text.trim payload) = .ok body ∧
      Packet.isType packetType = true ∧
      Packet.minimumLength + body.length < Packet.lengthBound ∧
      packet = Packet.genuine claim.route claim.magic packetType body := by
  obtain ⟨magic, body, sender, receiver, magicRead, bodyRead, senderRead,
    receiverRead, built⟩ := described
  obtain ⟨valid, fits, same⟩ := Packet.build_eq_ok_iff.mp built
  refine ⟨⟨magic, Route.between sender receiver⟩, body, ?_, bodyRead, valid,
    fits, same⟩
  rw [readClaim, readMagic, magicRead, readAddress, senderRead, readAddress,
    receiverRead]
  rfl

/-- The report on a packet, from the texts it was made from. -/
theorem filterOutcome_of_describes
    (described : Describes texts packetType payload packet) {body : Bytes}
    (bodyRead : Hex.decode (Text.trim payload) = .ok body)
    (path : String) :
    let inspection := Report.Inspection.admitted packetType body.length
    (filterOutcome path (some texts) .pretty (.ok packet)).result =
        .ok (printed inspection.pretty) ∧
      (filterOutcome path (some texts) .json (.ok packet)).result =
        .ok (printed inspection.json) := by
  obtain ⟨claim, _, claimRead, otherRead, valid, fits, rfl⟩ :=
    described.exists_genuine
  obtain rfl := Except.ok.inj (otherRead.symm.trans bodyRead)
  have inspected := Packet.inspect_genuine claim.route claim.magic valid fits
  simp only [filterOutcome, readOptionalClaim, claimRead, Except.map,
    inspectionOutcome, inspected, and_self]

end Described

/-! ## Both commands written out -/

def stampArguments (texts : RouteTexts) (packetType payload : String) :
    List String :=
  ["stamp", "--magic", texts.magic, "--from", texts.sender, "--to",
    texts.receiver, "--packet-type", packetType, "--payload", payload]

def filterArguments (path : String) (texts : RouteTexts) : List String :=
  ["filter", path, "--magic", texts.magic, "--from", texts.sender, "--to",
    texts.receiver]

theorem Host.node?_ne_device
    (files : String → Option Bytes) (name : String) (device : Device) :
    (Host.tree files).node? (Host.workingFolder ++ [name]) ≠
      some (.device device) := by
  change Host.node? files (Host.workingFolder ++ [name]) ≠ _
  rw [Host.node?, if_pos List.dropLast_concat]
  cases (Host.workingFolder ++ [name]).getLast?.bind files <;> nofun

section Runs

variable {entropy : Entropy} {environment : Log.Environment}
variable {tree : FileTree} {notices : Notices}
variable {texts : RouteTexts} {typeText payload path : String}

theorem run_of_result
    {arguments : List String} {request : Request} {outcome : Outcome}
    {later : FileTree} {text : String}
    (parsed : Request.parse arguments = .ok request)
    (ran : request.command.task.run entropy tree = (outcome, later))
    (result : outcome.result = .ok text) :
    let transcript := (run entropy environment tree arguments notices).1
    transcript.exitCode = 0 ∧ transcript.output = text := by
  rw [run_of_parse parsed ran]
  dsimp only
  rw [Transcript.ofOutcome, result]
  exact ⟨rfl, rfl⟩

/-- What a stamp command with a file must have been given if it succeeded. -/
theorem exists_describes_of_exitCode_eq_zero
    (succeeded :
      (run entropy environment tree
        (stampArguments texts typeText payload ++ ["--out", path])
        notices).1.exitCode = 0) :
    Command.StampTakes texts typeText payload (some path) ∧
      ∃ (packetType : UInt8) (packet : Bytes),
        readSignedBelow? Command.typeLimit typeText =
            some packetType.toNat ∧
          Describes texts packetType payload packet ∧
          OnlyWrote tree
            (run entropy environment tree
              (stampArguments texts typeText payload ++ ["--out", path])
              notices).2
            path packet := by
  by_cases takes : Command.StampTakes texts typeText payload (some path)
  · obtain ⟨packetType, read, parsed⟩ := Command.parse_stamp_of_takes takes
    rcases run_stamp parsed with
      ⟨-, packet, described, written⟩ | ⟨nonzero, -⟩
    · exact
        ⟨takes, packetType, packet, read, described,
          onlyWrote_of_write written⟩
    · exact absurd succeeded nonzero
  · obtain ⟨error, refused⟩ := Command.parse_stamp_of_not_takes takes
    exact absurd succeeded (run_of_usage refused).1

section Taken

variable {packetType : UInt8} {packet body : Bytes}
variable (takes : Command.StampTakes texts typeText payload (some path))
variable (described : Describes texts packetType payload packet)

include takes described

theorem run_filter
    (format : Option Format)
    (bodyRead : Hex.decode (Text.trim payload) = .ok body)
    (holds : tree.read path = .ok packet) :
    let transcript :=
      (run entropy environment tree
        ("filter" :: path :: spelled (Command.filterSpelling texts format))
        notices).1
    let inspection := Report.Inspection.admitted packetType body.length
    transcript.exitCode = 0 ∧
      transcript.output =
        match format.getD .pretty with
        | .pretty => printed inspection.pretty
        | .json => printed inspection.json := by
  have pathTaken := takes ("out", path) (by simp [Command.stampSpelling])
  obtain ⟨plainPath, notEmpty⟩ := Bool.and_eq_true_iff.mp pathTaken
  have plainTexts :
      ∀ option ∈ Command.routeSpelling texts, isPlain option.2 = true := by
    intro option member
    have taken := takes option (by simp [Command.stampSpelling, member])
    exact (Bool.and_eq_true_iff.mp taken).1
  have parsed :=
    Command.parse_filter format plainPath (bne_iff_ne.mp notEmpty) plainTexts
  obtain ⟨pretty, json⟩ := filterOutcome_of_describes described bodyRead path
  refine run_of_result parsed rfl ?_
  rw [holds]
  cases format.getD .pretty with
  | pretty => exact pretty
  | json => exact json

theorem run_stamp_printed
    (typeRead :
      readSignedBelow? Command.typeLimit typeText = some packetType.toNat) :
    let transcript :=
      (run entropy environment tree (stampArguments texts typeText payload)
        notices).1
    transcript.exitCode = 0 ∧
      transcript.output = printed (Hex.encode packet) := by
  have takesRest : Command.StampTakes texts typeText payload none := by
    intro option member
    refine takes option ?_
    rw [Command.stampSpelling, Option.toList_none, List.map_nil,
      List.append_nil] at member
    exact List.mem_append_left _ member
  obtain ⟨number, numberRead, parsed⟩ := Command.parse_stamp_of_takes takesRest
  obtain rfl : number = packetType :=
    UInt8.toNat_inj.mp (Option.some.inj (numberRead.symm.trans typeRead))
  have task :
      (Command.stamp texts number payload none).task =
        .finish
          ⟨[.stamped packet.length number],
            .ok (printed (Hex.encode packet))⟩ := by
    rw [Command.task, stampResult_eq_ok_iff.mpr ⟨described, rfl⟩]
  exact run_of_result parsed (congrArg (Task.run entropy tree) task) rfl

end Taken

end Runs

/-- If a stamp command writes a file of the working folder, a filter command
with the same texts lets that file in afterwards and reports what was stamped,
and the stamp command without the file prints the bytes of the file, each as
two digits in lower case. -/
theorem stamped_file_is_let_in_and_printed
    {entropy : Entropy} {environment : Log.Environment} {notices : Notices}
    {files : String → Option Bytes} {texts : RouteTexts}
    {typeText payload path : String}
    (oneName : '/' ∉ path.toList)
    (succeeded :
      (run entropy environment (Host.tree files)
        (stampArguments texts typeText payload ++ ["--out", path])
        notices).1.exitCode = 0) :
    let later :=
      (run entropy environment (Host.tree files)
        (stampArguments texts typeText payload ++ ["--out", path])
        notices).2
    ∃ (packetType : UInt8) (body packet : Bytes),
      readSignedBelow? 0x100 typeText = some packetType.toNat ∧
        Hex.decode (Text.trim payload) = .ok body ∧
        later.read path = .ok packet ∧
        ∀ (nextEntropy : Entropy) (nextEnvironment : Log.Environment)
          (nextNotices : Notices) (other : FileTree),
          let filtered := fun format =>
            (run nextEntropy nextEnvironment later
              (filterArguments path texts ++ format) nextNotices).1
          let withoutFile :=
            (run nextEntropy nextEnvironment other
              (stampArguments texts typeText payload) nextNotices).1
          (∀ format ∈ [[], ["--format", "pretty"]],
            (filtered format).exitCode = 0 ∧
              (filtered format).output =
                "length: " ++ (18 + body.length).repr ++ " bytes\n" ++
                  "type: 0x" ++ String.ofList (Hex.digitPair packetType) ++
                  "\n" ++ "payload: " ++ body.length.repr ++ " bytes\n" ++
                  "basic filter: pass\n" ++ "advanced filter: pass\n" ++
                  "verdict: accept\n") ∧
            ((filtered ["--format", "json"]).exitCode = 0 ∧
              (filtered ["--format", "json"]).output =
                "\x7b\n" ++
                  "  \"packet_len\": " ++ (18 + body.length).repr ++ ",\n" ++
                  "  \"packet_type\": " ++ packetType.toNat.repr ++ ",\n" ++
                  "  \"payload_len\": " ++ body.length.repr ++ ",\n" ++
                  "  \"basic\": true,\n" ++ "  \"advanced\": true\n" ++
                  "\x7d\n") ∧
            withoutFile.exitCode = 0 ∧
              withoutFile.output =
                String.ofList (packet.flatMap Hex.digitPair) ++ "\n" := by
  intro later
  obtain ⟨takes, packetType, packet, typeRead, described, location, place, -,
    kept⟩ := exists_describes_of_exitCode_eq_zero succeeded
  obtain ⟨-, body, -, bodyRead, -⟩ := described.exists_genuine
  have holds : later.read path = .ok packet := by
    refine (kept fun device => ?_).2
    rw [FileTree.place?_of_noSlash oneName place]
    exact Host.node?_ne_device files path device
  refine
    ⟨packetType, body, packet, typeRead, bodyRead, holds,
      fun nextEntropy nextEnvironment nextNotices other => ?_⟩
  intro filtered withoutFile
  have filters := fun format =>
    @run_filter nextEntropy nextEnvironment later nextNotices _ _ _ _ _ _ _
      takes described format bodyRead holds
  refine ⟨?_, ?_, ?_⟩
  · intro format member
    rw [← Report.Inspection.pretty_admitted]
    simp only [List.mem_cons, List.not_mem_nil, or_false] at member
    rcases member with rfl | rfl
    · exact filters none
    · exact filters (some .pretty)
  · rw [← Report.Inspection.json_admitted]
    exact filters (some .json)
  · rw [← Hex.encode_eq_digitPairs]
    exact run_stamp_printed takes described typeRead

/-- Texts that are not the plainest for what they say: the magic stands between
blanks, the type has a sign and the receiver is an IPv4 host in IPv6 form. -/
theorem signed_type_and_mapped_host_are_let_in :
    let texts : RouteTexts :=
      ⟨" 0908070605040302 ", "1.2.3.4:1000", "[::ffff:5.6.7.8]:2000"⟩
    let run := run (fun count => Vector.replicate count 0) fun _ => none
    let stamped :=
      run (Host.tree fun _ => none)
        (stampArguments texts "+7" "aaBB" ++ ["--out", "packet.bin"])
    let filtered := fun format =>
      run stamped.2 (filterArguments "packet.bin" texts ++ format)
    let shown := run stamped.2 (stampArguments texts "+7" "aaBB")
    ('/' ∉ "packet.bin".toList ∧ stamped.1.exitCode = 0) ∧
      ((filtered []).1.exitCode = 0 ∧
        (filtered []).1.output =
          "length: 20 bytes\ntype: 0x07\npayload: 2 bytes\n" ++
            "basic filter: pass\nadvanced filter: pass\nverdict: accept\n") ∧
      ((filtered ["--format", "json"]).1.exitCode = 0 ∧
        (filtered ["--format", "json"]).1.output =
          "\x7b\n  \"packet_len\": 20,\n  \"packet_type\": 7,\n" ++
            "  \"payload_len\": 2,\n  \"basic\": true,\n" ++
            "  \"advanced\": true\n\x7d\n") ∧
      shown.1.exitCode = 0 ∧
        shown.1.output = "072ae120714eb06d072581b03d2be158aabb3bb5\n" := by
  intro texts run stamped filtered shown
  have oneName : '/' ∉ "packet.bin".toList := by decide
  have zero : stamped.1.exitCode = 0 := by decide +kernel
  obtain ⟨packetType, body, packet, typeRead, bodyRead, holds, next⟩ :=
    stamped_file_is_let_in_and_printed oneName zero
  have typeValue : readSignedBelow? 0x100 "+7" = some 7 := by decide +kernel
  have bodyValue : Hex.decode (Text.trim "aaBB") = .ok [0xaa, 0xbb] := by
    decide +kernel
  have packetValue :
      stamped.2.read "packet.bin" =
        .ok [0x07, 0x2a, 0xe1, 0x20, 0x71, 0x4e, 0xb0, 0x6d, 0x07, 0x25,
          0x81, 0xb0, 0x3d, 0x2b, 0xe1, 0x58, 0xaa, 0xbb, 0x3b, 0xb5] := by
    decide +kernel
  obtain rfl : packetType = 7 :=
    UInt8.toNat_inj.mp (Option.some.inj (typeRead.symm.trans typeValue))
  obtain rfl : body = [0xaa, 0xbb] :=
    Except.ok.inj (bodyRead.symm.trans bodyValue)
  obtain rfl := Except.ok.inj (holds.symm.trans packetValue)
  obtain ⟨pretty, ⟨jsonZero, json⟩, shownZero, output⟩ :=
    next (fun count => Vector.replicate count 0) (fun _ => none) .silent
      stamped.2
  obtain ⟨prettyZero, pretty⟩ := pretty [] List.mem_cons_self
  exact
    ⟨⟨oneName, zero⟩, ⟨prettyZero, pretty.trans (by decide +kernel)⟩,
      ⟨jsonZero, json.trans (by decide +kernel)⟩, shownZero,
      output.trans (by decide +kernel)⟩

end Tool

end RelayFrame
