import Mathlib.Data.List.Nodup
import RelayFrame.Proofs.Attempts
import RelayFrame.Tool.Command

/-!
# Options written out

Options can be given one after the other, each name with its value behind it.
Then nothing but the values decides whether a command takes its arguments:
each has to be of its kind and must not look like an option itself.
-/

namespace RelayFrame.Tool

/-- Options written out, each name with its value behind it. -/
def spelled (options : List (String × String)) : List String :=
  options.flatMap fun option => ["--" ++ option.1, option.2]

def Grammar.takes (grammar : Grammar) (option : String × String) : Bool :=
  isPlain option.2 &&
    (grammar.options.lookup option.1).any (·.admits option.2)

/-- Whether a grammar has an option, under a name that reads as one. -/
def Grammar.Names (grammar : Grammar) (name : String) : Prop :=
  Word.ofString ("--" ++ name) = .long name none ∧
    (grammar.options.lookup name).isSome

instance (grammar : Grammar) (name : String) :
    Decidable (grammar.Names name) :=
  inferInstanceAs (Decidable (_ ∧ _))

theorem readSignedBelow?_lt
    {bound number : Nat} {text : String}
    (read : readSignedBelow? bound text = some number) : number < bound := by
  rw [readSignedBelow?] at read
  split at read
  next =>
    split at read
    next below => exact Option.some.inj read ▸ below
    next => cases read
  next => cases read

namespace Arguments

variable {grammar : Grammar} {found : Arguments} {rest : List String}
variable {name value : String}

theorem addOption_of_fresh
    (kind : ValueKind) (fresh : name ∉ found.options.map Prod.fst) :
    found.addOption name kind value =
      if kind.admits value then
        .ok { found with options := found.options ++ [(name, value)] }
      else
        .error (.usage (.badValue name value)) := by
  have absent : found.value? name = none := by
    rw [value?, List.lookup_eq_none_iff]
    rintro ⟨other, value⟩ member
    rw [bne_iff_ne]
    rintro rfl
    exact fresh (List.mem_map_of_mem member)
  rw [addOption, absent]
  rfl

/-- An option whose value is taken is added to those found so far. -/
theorem scan_of_takes
    (names : grammar.Names name) (takes : grammar.takes (name, value) = true)
    (fresh : name ∉ found.options.map Prod.fst) :
    scan grammar found (("--" ++ name) :: value :: rest) =
      scan grammar
        { found with options := found.options ++ [(name, value)] } rest := by
  obtain ⟨word, known⟩ := names
  obtain ⟨kind, kindAt⟩ := Option.isSome_iff_exists.mp known
  simp only [Grammar.takes, kindAt, Option.any_some, Bool.and_eq_true]
    at takes
  obtain ⟨plain, admitted⟩ := takes
  rw [scan]
  simp only [word, kindAt, if_pos plain, addOption_of_fresh kind fresh,
    if_pos admitted, ok_bind]

theorem exists_scan_of_not_takes
    (names : grammar.Names name)
    (refused : ¬ grammar.takes (name, value) = true)
    (fresh : name ∉ found.options.map Prod.fst) :
    ∃ error,
      scan grammar found (("--" ++ name) :: value :: rest) =
        .error (.usage error) := by
  obtain ⟨word, known⟩ := names
  obtain ⟨kind, kindAt⟩ := Option.isSome_iff_exists.mp known
  simp only [Grammar.takes, kindAt, Option.any_some, Bool.and_eq_true,
    not_and] at refused
  rw [scan]
  simp only [word, kindAt]
  by_cases plain : isPlain value = true
  · rw [if_pos plain, addOption_of_fresh kind fresh,
      if_neg (refused plain)]
    exact ⟨_, rfl⟩
  · rw [if_neg plain]
    exact ⟨_, rfl⟩

theorem spelled_append (front back : List (String × String)) :
    spelled (front ++ back) = spelled front ++ spelled back :=
  List.flatMap_append

theorem name_notMem_of_nodup
    {front back : List (String × String)}
    (fresh : ((front ++ (name, value) :: back).map Prod.fst).Nodup) :
    name ∉ front.map Prod.fst := by
  rw [List.map_append, List.map_cons, List.nodup_middle, List.nodup_cons,
    List.mem_append, not_or] at fresh
  exact fresh.1.1

/-- Options that are written out are all found, in their order. -/
theorem scan_spelled_of_takes
    {options : List (String × String)}
    (names : ∀ option ∈ options, grammar.Names option.1)
    (fresh : ((found.options ++ options).map Prod.fst).Nodup)
    (takes : ∀ option ∈ options, grammar.takes option = true) :
    scan grammar found (spelled options ++ rest) =
      scan grammar
        { found with options := found.options ++ options } rest := by
  induction options generalizing found with
  | nil => simp [spelled]
  | cons option later inductionHypothesis =>
      have first :=
        @scan_of_takes _ found (spelled later ++ rest) _ _
          (names option List.mem_cons_self) (takes option List.mem_cons_self)
          (name_notMem_of_nodup fresh)
      have moved :
          found.options ++ option :: later =
            (found.options ++ [option]) ++ later := by simp
      rw [moved] at fresh ⊢
      refine first.trans (inductionHypothesis ?_ fresh ?_)
      · exact fun other member => names other (List.mem_cons_of_mem _ member)
      · exact fun other member => takes other (List.mem_cons_of_mem _ member)

/-- Options written out, one of which is refused.  The first such decides. -/
theorem exists_scan_spelled_of_not_takes
    {options : List (String × String)}
    (names : ∀ option ∈ options, grammar.Names option.1)
    (fresh : ((found.options ++ options).map Prod.fst).Nodup)
    (refused : ¬ ∀ option ∈ options, grammar.takes option = true) :
    ∃ error,
      scan grammar found (spelled options ++ rest) =
        .error (.usage error) := by
  have someRefused :
      (options.find? fun option => !grammar.takes option).isSome = true := by
    simpa using refused
  obtain ⟨option, isFirst⟩ := Option.isSome_iff_exists.mp someRefused
  obtain ⟨isRefused, front, back, rfl, frontTakes⟩ :=
    List.find?_eq_some_iff_append.mp isFirst
  have frontFresh : ((found.options ++ front).map Prod.fst).Nodup := by
    rw [← List.append_assoc, List.map_append] at fresh
    exact fresh.of_append_left
  rw [spelled_append, List.append_assoc,
    scan_spelled_of_takes
      (fun other member => names other (List.mem_append_left _ member))
      frontFresh (fun other member => by simpa using frontTakes other member)]
  refine exists_scan_of_not_takes (names option (by simp))
    (by simpa using isRefused) ?_
  rw [← List.append_assoc] at fresh
  exact name_notMem_of_nodup fresh

theorem scan_operand
    (plain : isPlain value = true) :
    scan grammar found (value :: rest) =
      (addOperand grammar found value >>= fun found =>
        scan grammar found rest) := by
  have word : Word.ofString value = .plain := by
    simpa [isPlain] using plain
  rw [scan, word]

end Arguments

/-! ## Commands written out -/

namespace Command

def routeSpelling (texts : RouteTexts) : List (String × String) :=
  [("magic", texts.magic), ("from", texts.sender), ("to", texts.receiver)]

def stampSpelling (texts : RouteTexts) (packetType payload : String)
    (out : Option String) : List (String × String) :=
  routeSpelling texts ++
    [("packet-type", packetType), ("payload", payload)] ++
    out.toList.map fun path => ("out", path)

/-- Whether every text of a stamp command is taken. -/
def StampTakes (texts : RouteTexts) (packetType payload : String)
    (out : Option String) : Prop :=
  ∀ option ∈ stampSpelling texts packetType payload out,
    Name.stamp.grammar.takes option = true

/-- The options of a filter command that knows a route. -/
def filterSpelling (texts : RouteTexts) (format : Option Format) :
    List (String × String) :=
  routeSpelling texts ++
    format.toList.map fun format => ("format", format.word)

/-- Arguments that begin with the name of a command are read by its grammar. -/
theorem parse_named (name : Name) (arguments : List String) :
    Request.parse (name.word :: arguments) =
      ((Arguments.scan name.grammar Arguments.empty arguments).mapError
          (Stop.within name.word) >>= fun found =>
        (ofArguments name found).map fun command =>
          ⟨found.debug, command⟩) := by
  have named :
      Request.parse (name.word :: arguments) =
        (parseNamed name.word arguments).map fun found =>
          ⟨found.1, found.2⟩ := by
    cases name <;> rfl
  have known : Name.ofWord? name.word = some name := by
    cases name <;> rfl
  rw [named, parseNamed, known]
  dsimp only
  cases Arguments.scan name.grammar Arguments.empty arguments with
  | error stop => rfl
  | ok found =>
      rw [Except.mapError, ok_bind, ok_bind]
      cases ofArguments name found with
      | error stop => rfl
      | ok command => rfl

section Stamp

variable {texts : RouteTexts} {packetType payload : String}
variable {out : Option String}

theorem names_of_mem_stampSpelling :
    ∀ option ∈ stampSpelling texts packetType payload out,
      Name.stamp.grammar.Names option.1 := by
  cases out <;> simp [stampSpelling, routeSpelling] <;> decide

theorem nodup_stampSpelling :
    ((Arguments.empty.options ++
        stampSpelling texts packetType payload out).map Prod.fst).Nodup := by
  cases out <;> simp [stampSpelling, routeSpelling, Arguments.empty]

/-- A stamp command that is written out is understood if every one of its
texts is taken. -/
theorem parse_stamp_of_takes
    (takes : StampTakes texts packetType payload out) :
    ∃ number : UInt8,
      readSignedBelow? typeLimit packetType = some number.toNat ∧
        Request.parse
            ("stamp" ::
              spelled (stampSpelling texts packetType payload out)) =
          .ok ⟨false, .stamp texts number payload out⟩ := by
  let options := stampSpelling texts packetType payload out
  have parsed := parse_named .stamp (spelled options)
  rw [← List.append_nil (spelled options),
    Arguments.scan_spelled_of_takes names_of_mem_stampSpelling
      nodup_stampSpelling takes, List.append_nil] at parsed
  have typeTaken := takes ("packet-type", packetType) (by simp [stampSpelling])
  obtain ⟨-, typeRead⟩ := Bool.and_eq_true_iff.mp typeTaken
  obtain ⟨number, read⟩ := Option.isSome_iff_exists.mp typeRead
  have value : (UInt8.ofNat number).toNat = number :=
    UInt8.toNat_ofNat_of_lt' (readSignedBelow?_lt read)
  have made :
      ofArguments .stamp ⟨options, [], false⟩ =
        .ok (.stamp texts
          (UInt8.ofNat ((readSignedBelow? typeLimit packetType).getD 1))
          payload out) := by
    cases out <;> rfl
  rw [read, Option.getD_some] at made
  refine ⟨UInt8.ofNat number, by rw [value]; exact read, ?_⟩
  exact parsed.trans (congrArg (Except.map _) made)

/-- A stamp command that is written out is refused if any of its texts is not
taken. -/
theorem parse_stamp_of_not_takes
    (refused : ¬ StampTakes texts packetType payload out) :
    ∃ error,
      Request.parse
          ("stamp" :: spelled (stampSpelling texts packetType payload out)) =
        .error (.usage error) := by
  let options := stampSpelling texts packetType payload out
  obtain ⟨error, scanned⟩ :=
    @Arguments.exists_scan_spelled_of_not_takes _ _ [] options
      names_of_mem_stampSpelling nodup_stampSpelling refused
  have parsed := parse_named .stamp (spelled options)
  rw [← List.append_nil (spelled options), scanned, List.append_nil] at parsed
  exact ⟨error, parsed⟩

end Stamp

/-- A filter command that is written out is understood if its texts do not
look like options. -/
theorem parse_filter
    {path : String} {texts : RouteTexts} (format : Option Format)
    (plainPath : isPlain path = true) (notEmpty : path ≠ "")
    (plainTexts : ∀ option ∈ routeSpelling texts, isPlain option.2 = true) :
    Request.parse
        ("filter" :: path :: spelled (filterSpelling texts format)) =
      .ok ⟨false, .filter path (some texts) (format.getD .pretty)⟩ := by
  let options := filterSpelling texts format
  let start : Arguments := ⟨[], [path], false⟩
  have names : ∀ option ∈ options, Name.filter.grammar.Names option.1 := by
    rcases format with _ | _ | _ <;>
      simp [options, filterSpelling, routeSpelling] <;> decide
  have fresh : ((start.options ++ options).map Prod.fst).Nodup := by
    rcases format with _ | _ | _ <;>
      simp [options, filterSpelling, routeSpelling, start]
  have takes :
      ∀ option ∈ options, Name.filter.grammar.takes option = true := by
    intro option member
    rcases List.mem_append.mp member with inRoute | inFormat
    · have plain := plainTexts option inRoute
      simp only [routeSpelling, List.mem_cons, List.not_mem_nil, or_false]
        at inRoute
      rcases inRoute with rfl | rfl | rfl <;>
        exact Bool.and_eq_true_iff.mpr ⟨plain, rfl⟩
    · rcases format with _ | _ | _
      · cases inFormat
      · obtain rfl := List.mem_singleton.mp inFormat
        rfl
      · obtain rfl := List.mem_singleton.mp inFormat
        rfl
  have operand :
      Arguments.addOperand Name.filter.grammar Arguments.empty path =
        .ok start :=
    if_pos (bne_iff_ne.mpr notEmpty)
  have made :
      ofArguments .filter ⟨options, [path], false⟩ =
        .ok (.filter path (some texts) (format.getD .pretty)) := by
    rcases format with _ | _ | _ <;> rfl
  have parsed := parse_named .filter (path :: spelled options)
  rw [Arguments.scan_operand plainPath, operand, ok_bind,
    ← List.append_nil (spelled options),
    Arguments.scan_spelled_of_takes names fresh takes,
    List.append_nil] at parsed
  exact parsed.trans (congrArg (Except.map _) made)

end Command

end RelayFrame.Tool
