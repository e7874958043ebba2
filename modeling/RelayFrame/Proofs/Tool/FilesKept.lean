import RelayFrame.Proofs.Packet.Duality
import RelayFrame.Proofs.Tool.Files
import RelayFrame.Proofs.Tool.Options
import RelayFrame.Tool.Host
import RelayFrame.Tool.Run

/-!
# Runs that keep the files

A run touches the files in one way only: a stamp command writes its packet to
the file it was given, after everything else has succeeded.  Whatever goes
wrong, the files are as they were.
-/

namespace RelayFrame.Tool

/-! ## What a stamp command asks for -/

/-- The packet that the texts of a stamp command describe. -/
def Describes (texts : RouteTexts) (packetType : UInt8) (payload : String)
    (packet : Bytes) : Prop :=
  ∃ magic body sender receiver,
    Hex.decode (Text.trim texts.magic) = .ok magic ∧
      Hex.decode (Text.trim payload) = .ok body ∧
      Address.parse texts.sender = .ok sender ∧
      Address.parse texts.receiver = .ok receiver ∧
      Packet.build packetType body magic (Route.between sender receiver) =
        .ok packet

/-- A stamp command makes the packet that its texts describe, and logs it. -/
theorem stampResult_eq_ok_iff
    {texts : RouteTexts} {packetType : UInt8} {payload : String}
    {packet : Bytes} {events : List Log.Event} :
    stampResult texts packetType payload = .ok (packet, events) ↔
      Describes texts packetType payload packet ∧
        events = [.stamped packet.length packetType] := by
  constructor
  · intro result
    obtain ⟨magic, readMagic, result⟩ := exists_of_bind_eq_ok result
    obtain ⟨body, readBody, result⟩ := exists_of_bind_eq_ok result
    obtain ⟨sender, readSender, result⟩ := exists_of_bind_eq_ok result
    obtain ⟨receiver, readReceiver, result⟩ := exists_of_bind_eq_ok result
    obtain ⟨built, logged⟩ := craft_eq_ok_iff.mp result
    exact
      ⟨⟨magic, body, sender, receiver, mapError_eq_ok_iff.mp readMagic,
        mapError_eq_ok_iff.mp readBody, mapError_eq_ok_iff.mp readSender,
        mapError_eq_ok_iff.mp readReceiver, built⟩, logged⟩
  · rintro ⟨⟨magic, body, sender, receiver, magicRead, bodyRead, senderRead,
      receiverRead, built⟩, logged⟩
    rw [stampResult, readMagic, magicRead, readPayload, bodyRead,
      readAddress, senderRead, readAddress, receiverRead]
    exact craft_eq_ok_iff.mpr ⟨built, logged⟩

theorem Describes.unique
    {texts : RouteTexts} {packetType : UInt8} {payload : String}
    {first second : Bytes}
    (one : Describes texts packetType payload first)
    (other : Describes texts packetType payload second) : first = second := by
  have oneResult := stampResult_eq_ok_iff.mpr ⟨one, rfl⟩
  have otherResult := stampResult_eq_ok_iff.mpr ⟨other, rfl⟩
  exact (Prod.mk.inj (Except.ok.inj (oneResult.symm.trans otherResult))).1

/-- What can be wrong with a stamp command that is to write a file. -/
inductive StampFault (tree : FileTree) (texts : RouteTexts)
    (packetType : UInt8) (payload path : String) : Prop
  | magic (unread : ∀ magic, Hex.decode (Text.trim texts.magic) ≠ .ok magic)
  | payload (unread : ∀ body, Hex.decode (Text.trim payload) ≠ .ok body)
  | sender (unread : ∀ address, Address.parse texts.sender ≠ .ok address)
  | receiver
      (unread : ∀ address, Address.parse texts.receiver ≠ .ok address)
  | packetType (outside : packetType < 0x01 ∨ 0x63 < packetType)
  | path
      (unwritable : ∀ packet later,
        Describes texts packetType payload packet →
          tree.write path packet ≠ .ok later)

/-- With a fault there is no packet, or it cannot be written. -/
theorem StampFault.write_ne_ok
    {tree later : FileTree} {texts : RouteTexts} {packetType : UInt8}
    {payload path : String} {packet : Bytes}
    (fault : StampFault tree texts packetType payload path)
    (described : Describes texts packetType payload packet) :
    tree.write path packet ≠ .ok later := by
  cases fault with
  | path unwritable => exact unwritable packet later described
  | packetType outside =>
      obtain ⟨_, _, _, _, -, -, -, -, built⟩ := described
      obtain ⟨atLeast, atMost⟩ :=
        (Packet.isType_iff packetType).mp (Packet.build_eq_ok_iff.mp built).1
      rcases outside with below | above
      · exact absurd below (UInt8.not_lt.mpr atLeast)
      · exact absurd above (UInt8.not_lt.mpr atMost)
  | magic unread =>
      obtain ⟨magic, -, -, -, read, -⟩ := described
      exact absurd read (unread magic)
  | payload unread =>
      obtain ⟨-, body, -, -, -, read, -⟩ := described
      exact absurd read (unread body)
  | sender unread =>
      obtain ⟨-, -, sender, -, -, -, read, -⟩ := described
      exact absurd read (unread sender)
  | receiver unread =>
      obtain ⟨-, -, -, receiver, -, -, -, read, -⟩ := described
      exact absurd read (unread receiver)

/-! ## Tasks and files -/

section Tasks

variable {entropy : Entropy} {tree later : FileTree} {outcome : Outcome}
variable {texts : RouteTexts} {packetType : UInt8} {payload path : String}

/-- What running a stamp command with a file comes to.  Either the packet was
made and written, or there is a failure and nothing was written. -/
theorem task_run_stamp
    (ran :
      (Command.stamp texts packetType payload (some path)).task.run entropy
        tree = (outcome, later)) :
    (outcome.result = .ok "" ∧
        ∃ packet, Describes texts packetType payload packet ∧
          tree.write path packet = .ok later) ∨
      ((∃ failure, outcome.result = .error failure) ∧ later = tree ∧
        ∀ packet written, Describes texts packetType payload packet →
          tree.write path packet ≠ .ok written) := by
  rw [Command.task] at ran
  cases result : stampResult texts packetType payload with
  | error failure =>
      rw [result] at ran
      obtain ⟨rfl, rfl⟩ := Prod.mk.inj ran
      refine .inr ⟨⟨failure, rfl⟩, rfl, fun packet written described => ?_⟩
      have made := stampResult_eq_ok_iff.mpr ⟨described, rfl⟩
      cases result.symm.trans made
  | ok made =>
      obtain ⟨packet, events⟩ := made
      rw [result] at ran
      obtain ⟨described, -⟩ := stampResult_eq_ok_iff.mp result
      simp only [Task.run] at ran
      cases wrote : tree.write path packet with
      | error error =>
          rw [wrote] at ran
          obtain ⟨rfl, rfl⟩ := Prod.mk.inj ran
          refine .inr ⟨⟨_, rfl⟩, rfl, fun other written otherDescribed => ?_⟩
          rw [otherDescribed.unique described, wrote]
          exact nofun
      | ok written =>
          rw [wrote] at ran
          obtain ⟨rfl, rfl⟩ := Prod.mk.inj ran
          exact .inl ⟨rfl, packet, described, wrote⟩

theorem task_run_tree
    {command : Command}
    (noFile : ∀ texts packetType payload path,
      command ≠ .stamp texts packetType payload (some path)) :
    (command.task.run entropy tree).2 = tree := by
  cases command with
  | tags texts packetLength format => rfl
  | stamp texts packetType payload out =>
      cases out with
      | none =>
          rw [Command.task]
          split <;> rfl
      | some path => exact absurd rfl (noFile _ _ _ _)
  | filter path texts format => rfl
  | address text => rfl
  | magic count =>
      rw [Command.task]
      split <;> rfl

end Tasks

/-! ## Whole runs -/

/-- The file that a path leads to holds some bytes now, and nothing else has
changed.  A device that stands there keeps none of them. -/
def OnlyWrote (tree later : FileTree) (path : String) (content : Bytes) :
    Prop :=
  ∃ location, tree.place? path = .ok location ∧
    (∀ other, other ≠ location → later.node? other = tree.node? other) ∧
    ((∀ device, tree.node? location ≠ some (.device device)) →
      later.node? location = some (.file content) ∧
        later.read path = .ok content)

theorem onlyWrote_of_write
    {tree later : FileTree} {path : String} {content : Bytes}
    (written : tree.write path content = .ok later) :
    OnlyWrote tree later path content := by
  obtain ⟨location, place, -⟩ := FileTree.exists_of_write_eq_ok written
  refine ⟨location, place, ?_, fun notDevice => ⟨?_, ?_⟩⟩
  · exact fun other => FileTree.node?_of_write_of_ne written place
  · exact FileTree.node?_of_write written place notDevice
  · exact FileTree.read_of_write written place notDevice

theorem exitCode_ofOutcome_eq_zero_iff
    {verbosity : Log.Verbosity} {outcome : Outcome} :
    (Transcript.ofOutcome verbosity outcome).exitCode = 0 ↔
      ∃ text, outcome.result = .ok text := by
  rw [Transcript.ofOutcome]
  split
  next text result => exact iff_of_true rfl ⟨text, result⟩
  next failure result =>
    rw [result]
    exact iff_of_false failure.exitCode_ne_zero nofun

section Runs

variable {entropy : Entropy} {environment : Log.Environment}
variable {tree : FileTree} {arguments : List String} {notices : Notices}

theorem run_of_parse
    {request : Request} {outcome : Outcome} {later : FileTree}
    (parsed : Request.parse arguments = .ok request)
    (ran : request.command.task.run entropy tree = (outcome, later)) :
    run entropy environment tree arguments notices =
      (Transcript.ofOutcome (request.verbosity environment) outcome,
        later) := by
  rw [run, parsed]
  dsimp only
  rw [ran]

/-- A run whose arguments are not understood fails and touches nothing. -/
theorem run_of_usage
    {error : UsageError}
    (refused : Request.parse arguments = .error (.usage error)) :
    let ended := run entropy environment tree arguments notices
    ended.1.exitCode ≠ 0 ∧ ended.2 = tree := by
  rw [run, refused]
  exact ⟨show (2 : UInt32) ≠ 0 by decide, rfl⟩

/-- How the run of a stamp command with a file ends. -/
theorem run_stamp
    {debug : Bool} {texts : RouteTexts} {packetType : UInt8}
    {payload path : String}
    (parsed :
      Request.parse arguments =
        .ok ⟨debug, .stamp texts packetType payload (some path)⟩) :
    let ended := run entropy environment tree arguments notices
    (ended.1.exitCode = 0 ∧
        ∃ packet, Describes texts packetType payload packet ∧
          tree.write path packet = .ok ended.2) ∨
      (ended.1.exitCode ≠ 0 ∧ ended.2 = tree ∧
        ∀ packet written, Describes texts packetType payload packet →
          tree.write path packet ≠ .ok written) := by
  obtain ⟨⟨outcome, later⟩, ran⟩ :
      ∃ came, (Command.stamp texts packetType payload (some path)).task.run
        entropy tree = came := ⟨_, rfl⟩
  rw [run_of_parse parsed ran]
  dsimp only
  rw [Ne, exitCode_ofOutcome_eq_zero_iff]
  rcases task_run_stamp ran with
    ⟨result, written⟩ | ⟨⟨failure, result⟩, kept, unwritten⟩
  · exact .inl ⟨⟨"", result⟩, written⟩
  · refine .inr ⟨?_, kept, unwritten⟩
    rw [result]
    exact nofun

theorem run_tree
    (noFile : ∀ debug texts packetType payload path,
      Request.parse arguments ≠
        .ok ⟨debug, .stamp texts packetType payload (some path)⟩) :
    (run entropy environment tree arguments notices).2 = tree := by
  cases parsed : Request.parse arguments with
  | error stop => rw [run, parsed]
  | ok request =>
      rw [run_of_parse parsed rfl]
      refine task_run_tree fun texts packetType payload path isStamp => ?_
      refine noFile request.debug texts packetType payload path ?_
      rw [parsed, ← isStamp]

end Runs

/-- A run changes files only as a stamp command with a file that succeeds.
Then that file holds the packet it describes, and nothing else has changed.  A
run whose arguments are not understood fails, and so does a stamp command with
anything wrong about it, whether that shows when the arguments are read or
later; either leaves every file as it was. -/
theorem only_a_successful_stamp_changes_a_file
    (entropy : Entropy) (environment : Log.Environment) (tree : FileTree)
    (arguments : List String) (notices : Notices) :
    let ended := run entropy environment tree arguments notices
    (ended.2 = tree ∨
      ended.1.exitCode = 0 ∧
        ∃ debug texts packetType payload path,
          Request.parse arguments =
            .ok ⟨debug, .stamp texts packetType payload (some path)⟩) ∧
    (∀ error, Request.parse arguments = .error (.usage error) →
      ended.1.exitCode ≠ 0 ∧ ended.2 = tree) ∧
    (∀ debug texts packetType payload path,
      Request.parse arguments =
          .ok ⟨debug, .stamp texts packetType payload (some path)⟩ →
        (ended.1.exitCode = 0 →
          ∃ packet, Describes texts packetType payload packet ∧
            OnlyWrote tree ended.2 path packet) ∧
        (StampFault tree texts packetType payload path →
          ended.1.exitCode ≠ 0 ∧ ended.2 = tree)) ∧
    (∀ texts packetType payload path,
      arguments =
          ["stamp", "--magic", texts.magic, "--from", texts.sender,
            "--to", texts.receiver, "--packet-type", packetType,
            "--payload", payload, "--out", path] →
        (ended.1.exitCode ≠ 0 ∧ ended.2 = tree) ∨
          ∃ number : UInt8,
            readSignedBelow? 0x100 packetType = some number.toNat ∧
              Request.parse arguments =
                .ok ⟨false, .stamp texts number payload (some path)⟩) := by
  intro ended
  refine ⟨?_, fun error => run_of_usage, ?_, ?_⟩
  · by_cases stamps : ∃ debug texts packetType payload path,
        Request.parse arguments =
          .ok ⟨debug, .stamp texts packetType payload (some path)⟩
    · obtain ⟨debug, texts, packetType, payload, path, parsed⟩ := stamps
      rcases run_stamp parsed with ⟨zero, -⟩ | ⟨-, kept, -⟩
      · exact .inr ⟨zero, debug, texts, packetType, payload, path, parsed⟩
      · exact .inl kept
    · push Not at stamps
      exact .inl (run_tree stamps)
  · intro debug texts packetType payload path parsed
    rcases run_stamp parsed with
      ⟨zero, packet, described, written⟩ | ⟨nonzero, kept, -⟩
    · exact
        ⟨fun _ => ⟨packet, described, onlyWrote_of_write written⟩,
          fun fault => absurd written (fault.write_ne_ok described)⟩
    · exact ⟨fun zero => absurd zero nonzero, fun _ => ⟨nonzero, kept⟩⟩
  · rintro texts packetType payload path rfl
    by_cases takes : Command.StampTakes texts packetType payload (some path)
    · obtain ⟨number, read, parsed⟩ := Command.parse_stamp_of_takes takes
      exact .inr ⟨number, read, parsed⟩
    · obtain ⟨error, refused⟩ := Command.parse_stamp_of_not_takes takes
      exact .inl (run_of_usage refused)

/-- A payload with an odd number of digits leaves the file as it was, and an
empty payload replaces it. -/
theorem odd_payload_keeps_the_file_and_empty_payload_replaces_it :
    let tree := Host.tree fun name =>
      if name = "packet.bin" then some [0x07] else none
    let ended := fun payload =>
      run (fun count => Vector.replicate count 0) (fun _ => none) tree
        ["stamp", "--magic", "00", "--from", "10.0.0.1:1", "--to",
          "10.0.0.2:2", "--payload", payload, "--out", "packet.bin"]
    ((ended "abc").1.exitCode ≠ 0 ∧
        (ended "abc").2.read "packet.bin" = .ok [0x07]) ∧
      (ended "").1.exitCode = 0 ∧
        ∃ packet, packet.length = 18 ∧
          (ended "").2.read "packet.bin" = .ok packet := by
  intro tree ended
  let texts : RouteTexts := ⟨"00", "10.0.0.1:1", "10.0.0.2:2"⟩
  have stamps := fun payload =>
    (only_a_successful_stamp_changes_a_file
      (fun count => Vector.replicate count 0) (fun _ => none) tree
      ["stamp", "--magic", "00", "--from", "10.0.0.1:1", "--to",
        "10.0.0.2:2", "--payload", payload, "--out", "packet.bin"]
      .silent).2.2.1
      false texts 0x01 payload "packet.bin"
  constructor
  · have unread : Hex.decode (Text.trim "abc") = .error .oddLength := by
      decide +kernel
    obtain ⟨nonzero, kept⟩ :=
      (stamps "abc" (by decide +kernel)).2
        (.payload fun body => by rw [unread]; exact nofun)
    refine ⟨nonzero, ?_⟩
    change (ended "abc").2 = tree at kept
    rw [kept]
    rfl
  · have zero : (ended "").1.exitCode = 0 := rfl
    obtain ⟨packet, ⟨_, body, _, _, -, readBody, -, -, built⟩, location, place,
        -, holds⟩ := (stamps "" (by decide +kernel)).1 zero
    have empty : Hex.decode (Text.trim "") = .ok [] := by decide +kernel
    obtain rfl : body = [] := Except.ok.inj (readBody.symm.trans empty)
    obtain ⟨-, -, rfl⟩ := Packet.build_eq_ok_iff.mp built
    have inScratch : location = ["tmp", "relay", "packet.bin"] :=
      Except.ok.inj (place.symm.trans rfl)
    refine ⟨zero, _, Packet.length_assemble _ _ _ _, (holds ?_).2⟩
    rw [inScratch]
    exact nofun

end RelayFrame.Tool
