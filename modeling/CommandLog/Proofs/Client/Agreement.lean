import CommandLog.CommandLine.ClientProgram
import CommandLog.Proofs.LineBuffer.Calls
import CommandLog.Proofs.Request.Grammar
import CommandLog.Proofs.Server.OneBatch

/-!
# The client and the server agree on every request

The client program turns its words into a `Request` and writes it out as bytes.  The server puts
bytes together to commands and reads those as requests, with a reader for numbers of its own.
`Arrives` says that the bytes are the request to the server, however they are cut and whatever is
asked of the buffer before they are complete.

`request_cases` is the step that carries this: a request that the program makes is either to store a
complete command that is read as nothing else, or a seek, which is written anew and need not be the
line that was given.  A server that is reached gets the bytes and carries that one command out
(`Client.request_eq_answer`).  `requests_arrive_as_meant` puts it together with what each line of words
asks for.
-/

namespace CommandLog

/-- A buffer makes exactly one command of the bytes and keeps nothing, and the command is read as
the request. -/
def Arrives (bytes : Bytes) (request : Request) : Prop :=
  ∃ command, Request.ofCommand command = .ok request ∧
    ∀ calls, LineBuffer.fed calls = bytes →
      LineBuffer.empty.makeAll (calls ++ [.drain]) = ([command], .empty)

/-- However the bytes are cut on their way, and whether the connection is kept alive or not, a server
carries one command out because of them, which it reads as the request, and answers that. -/
def Executes {σ ρ : Type} [Storage σ ρ] (shared : Shared σ) (bytes : Bytes) (request : Request)
    (after : Shared σ) (reply : Bytes) : Prop :=
  ∃ command, Request.ofCommand command = .ok request ∧
    (∃ stop, shared.answer command = (after, reply, stop)) ∧
    ∀ keepAlive pieces, pieces.flatten = bytes →
      ∃ session, Session.start.receiveAll keepAlive shared pieces = (after, session, reply)

/-- A line arrives as what it is read as. -/
lemma arrives_of_isLine {line : Bytes} {request : Request} (h : line.IsLine)
    (hread : Request.ofCommand ⟨line⟩ = .ok request) : Arrives line request :=
  ⟨⟨line⟩, hread, fun _ hfed => LineBuffer.makeAll_drain_of_isLine h hfed⟩

/-! ## One line and a server -/

section Line

variable {σ ρ : Type} [Storage σ ρ] {line : Bytes}

/-- A server carries a line out as what it is read as. -/
lemma executes_of_isLine (shared : Shared σ) {request : Request} (h : line.IsLine)
    (hread : Request.ofCommand ⟨line⟩ = .ok request) :
    Executes shared line request (shared.answer ⟨line⟩).1 (shared.answer ⟨line⟩).2.1 := by
  refine ⟨⟨line⟩, hread, ⟨_, rfl⟩, ?_⟩
  rintro keepAlive pieces rfl
  exact Session.receiveAll_of_isLine keepAlive shared h

/-- A client that reaches the server has its line carried out and gets the answer. -/
lemma Client.request_eq_answer {network : Network} {address : Address} {server : Server σ}
    (hconnect : network.connect address server.isServing = .ok ()) (h : line.IsLine) :
    request network address server line =
      ({ server with shared := (server.shared.answer ⟨line⟩).1 },
        .ok (server.shared.answer ⟨line⟩).2.1) := by
  have hpieces := Bytes.flatten_pieces (receiveRoom - 1) line
  have hwhole : Bytes.IsLine (line.pieces (receiveRoom - 1)).flatten := hpieces.symm ▸ h
  obtain ⟨session, hreceive⟩ :=
    Session.receiveAll_of_isLine server.settings.keepAlive server.shared hwhole
  rw [hpieces] at hreceive
  rw [request, hconnect]
  simp only [hreceive]

end Line

namespace ClientProgram

variable {words : List String} {parsed : Parsed} {given : Given} {text : String}
  {options : ClientOptions}

/-! ## What a line of words asks for -/

lemma start_of_parse (h : program.parse words = .ok parsed) :
    start words = (ClientProgram.options parsed).mapError fail := by
  rw [start, h]

lemma options_of_error {failure : Failure} (h : request parsed = .error failure) :
    ClientProgram.options parsed = .error failure := by
  rw [ClientProgram.options, h]
  rfl

lemma options_eq_ok_iff :
    ClientProgram.options parsed = .ok options ↔
      request parsed = .ok options.request ∧
        Address.ofString? (parsed.top.value addressOption) = some options.address := by
  obtain ⟨address, made⟩ := options
  cases hrequest : request parsed with
  | error failure => simp [options_of_error hrequest]
  | ok request =>
    simp only [ClientProgram.options, hrequest]
    cases Address.ofString? (parsed.top.value addressOption) with
    | none => simp [bind, Except.bind]
    | some given => simp [bind, Except.bind, pure, Except.pure, and_comm]

/-- The program goes on exactly with a request that was asked for and an address that is one. -/
lemma start_eq_ok_iff :
    start words = .ok options ↔
      ∃ parsed, program.parse words = .ok parsed ∧ request parsed = .ok options.request ∧
        Address.ofString? (parsed.top.value addressOption) = some options.address := by
  cases hparse : program.parse words with
  | error interruption => simp [start, hparse]
  | ok parsed =>
    have hsame : start words = .ok options ↔ ClientProgram.options parsed = .ok options := by
      rw [start_of_parse hparse]
      cases ClientProgram.options parsed <;> simp [Except.mapError]
    simp [hsame, options_eq_ok_iff]

/-- A program whose request is wrong ends with that and leaves the server as it is, whatever the
address is. -/
lemma runAgainst_of_error {σ ρ : Type} [Storage σ ρ] (network : Network) (server : Server σ)
    {failure : Failure} (h : program.parse words = .ok parsed)
    (hrequest : request parsed = .error failure) :
    runAgainst network server words = (server, fail failure) := by
  rw [runAgainst, start_of_parse h, options_of_error hrequest]
  rfl

lemma sendRequest_of_mem (h : newline ∈ Utf8.encode text) :
    sendRequest text = .error (.misuse .severalLines) := if_pos h

lemma sendRequest_of_not_mem (h : newline ∉ Utf8.encode text) :
    sendRequest text = Request.ofCommand ⟨Utf8.encode text ++ [newline]⟩ := by
  have hline := Command.ofBytes_eq_ok_iff.2 ⟨Bytes.isLine_append_newline h, rfl⟩
  rw [sendRequest]
  simp only [if_neg h, hline]
  rfl

lemma request_send (h : parsed.subcommand = some ("send", given)) :
    request parsed = sendRequest (given.operand 0) := by
  rw [request, h]
  rfl

lemma number_eq_ok_iff (name : String) {word : String} {n : UInt32} :
    number name word = .ok n ↔ Numeral.unsigned? UInt32.size word = some n.toNat := by
  rw [number]
  cases hword : Numeral.unsigned? UInt32.size word with
  | none => simp
  | some value =>
    obtain ⟨run, -, -, hvalue⟩ := Numeral.unsigned?_eq_some_iff.1 hword
    simp only [Except.ok.injEq, Option.some.injEq]
    constructor
    · rintro rfl
      exact (UInt32.toNat_ofNat_of_lt' hvalue).symm
    · rintro rfl
      exact UInt32.ofNat_toNat

lemma request_seek_iff (h : parsed.subcommand = some ("seek", given)) {command offset : UInt32} :
    request parsed = .ok (.seek command offset) ↔
      Numeral.unsigned? UInt32.size (given.operand 0) = some command.toNat ∧
        Numeral.unsigned? UInt32.size (given.operand 1) = some offset.toNat := by
  rw [← number_eq_ok_iff "COMMAND", ← number_eq_ok_iff "OFFSET", request, h]
  cases hcommand : number "COMMAND" (given.operand 0) with
  | error failure => simp [bind, Except.bind, hcommand]
  | ok first =>
    cases hoffset : number "OFFSET" (given.operand 1) <;>
      simp [bind, Except.bind, pure, Except.pure, hcommand, hoffset]

/-- A request that the program makes is to store a complete command that is read as that, or a
seek. -/
lemma request_cases {made : Request} (h : request parsed = .ok made) :
    (∃ command : Command, made = .store command ∧ command.IsComplete ∧
      Request.ofCommand command = .ok (.store command)) ∨
    ∃ command offset, made = .seek command offset := by
  cases made with
  | seek command offset => exact .inr ⟨command, offset, rfl⟩
  | store command =>
    refine .inl ⟨command, rfl, ?_⟩
    rw [request] at h
    split at h
    · next given _ =>
      by_cases hmem : newline ∈ Utf8.encode (given.operand 0)
      · rw [sendRequest_of_mem hmem] at h
        cases h
      · rw [sendRequest_of_not_mem hmem] at h
        have hsame := Request.eq_of_ofCommand_eq_store h
        rw [← hsame]
        exact ⟨Bytes.isLine_append_newline hmem, hsame ▸ h⟩
    · next given _ =>
      -- two numbers never make a command to store
      cases hcommand : number "COMMAND" (given.operand 0) with
      | error failure => simp [bind, Except.bind, hcommand] at h
      | ok first =>
        cases hoffset : number "OFFSET" (given.operand 1) <;>
          simp [bind, Except.bind, pure, Except.pure, hcommand, hoffset] at h
    · cases h

/-- The program sends one line, which the server reads as the request. -/
lemma isLine_bytes (h : start words = .ok options) :
    options.bytes.IsLine ∧ Request.ofCommand ⟨options.bytes⟩ = .ok options.request := by
  obtain ⟨parsed, -, hrequest, -⟩ := start_eq_ok_iff.1 h
  obtain ⟨address, made⟩ := options
  rcases request_cases hrequest with ⟨command, rfl, hcomplete, hread⟩ | ⟨command, offset, rfl⟩
  · exact ⟨hcomplete, hread⟩
  · exact ⟨Request.isLine_seekLine command offset, Request.ofCommand_seekLine command offset⟩

/-! ## Numbers as words -/

/-- A word with a dash in front is no number. -/
lemma head?_ne_dash {limit n : Nat} {word : String} (h : Numeral.unsigned? limit word = some n) :
    word.toList.head? ≠ some '-' := by
  intro hdash
  obtain ⟨rest, hword⟩ := List.head?_eq_some_iff.1 hdash
  have hencode : Utf8.encode word = 45 :: rest.flatMap String.utf8EncodeChar := by
    rw [Utf8.encode, hword, List.flatMap_cons]
    rfl
  obtain ⟨run, hrun | hrun, hvalue, -⟩ := Numeral.unsigned?_eq_some_iff.1 h
  · have hmem : (45 : UInt8) ∈ run := by rw [← hrun, hencode]; exact List.mem_cons_self
    exact absurd (Numeral.isSome_digit?_of_value? hvalue 45 hmem) (by decide)
  · rw [hencode] at hrun
    exact absurd (List.cons.inj hrun).1 (by decide)

/-- A word without a dash in front is an operand as long as one is missing. -/
lemma word_eq_addOperand {level : Level} {version : Interruption} {reading : Reading}
    {word : String} (hawaiting : reading.awaiting = none) (hword : word.toList.head? ≠ some '-')
    (hroom : reading.given.operands.length < level.operands.length) :
    level.word [] version reading word =
      .ok { reading with given := reading.given.addOperand word } := by
  have hoperand : level.operand [] reading word =
      .ok { reading with given := reading.given.addOperand word } := by
    rw [Level.operand, if_neg (by simp [Similarity.resembles]), if_pos hroom]
  rw [← hoperand, Level.word]
  split
  · rfl
  · split
    · next h => simp [h] at hword
    · next h => simp [h] at hword
    · rw [hawaiting]

/-- Two numbers behind the word for a seek are its operands. -/
lemma parse_seek {left right : String} (hleft : left.toList.head? ≠ some '-')
    (hright : right.toList.head? ≠ some '-') :
    program.parse ["seek", left, right] =
      .ok ⟨.nothing, some ("seek", ⟨[], [], [left, right]⟩)⟩ := by
  have hdashes {word : String} (h : word.toList.head? ≠ some '-') : word ≠ "--" := by
    rintro rfl
    exact h rfl
  have hwords : (Level.mk [] [] ["COMMAND", "OFFSET"]).words (.version "aesd-client-seek" "") .start
      [left, right] = .ok ⟨[], [], [left, right]⟩ := by
    rw [Level.words, if_neg (fun h => hdashes hleft h.1),
      word_eq_addOperand rfl hleft (by decide)]
    simp only [bind, Except.bind]
    rw [Level.words, if_neg (fun h => hdashes hright h.1),
      word_eq_addOperand rfl hright (by simp [Given.addOperand, Reading.start, Given.nothing])]
    rfl
  have hgiven : program.subcommandWords ⟨"seek", ⟨[], [], ["COMMAND", "OFFSET"]⟩⟩ [left, right] =
      .ok ⟨[], [], [left, right]⟩ := hwords
  have hfind : program.subcommands.find? (fun subcommand => subcommand.name = "seek") =
      some ⟨"seek", ⟨[], [], ["COMMAND", "OFFSET"]⟩⟩ := rfl
  rw [Program.parse, Program.wordsFrom]
  simp only [hfind, hgiven]
  rfl

/-- The address that is taken if none is given. -/
lemma ofString?_default : Address.ofString? (Given.nothing.value addressOption) =
    some ⟨.v4 [127, 0, 0, 1], 9000⟩ := by decide

/-- Every two numbers can be given for a seek, and are its request. -/
lemma start_seek {left right : String} {command offset : UInt32}
    (hleft : Numeral.unsigned? UInt32.size left = some command.toNat)
    (hright : Numeral.unsigned? UInt32.size right = some offset.toNat) :
    start ["seek", left, right] = .ok ⟨⟨.v4 [127, 0, 0, 1], 9000⟩, .seek command offset⟩ := by
  have hparse := parse_seek (head?_ne_dash hleft) (head?_ne_dash hright)
  have hseek : (Parsed.mk .nothing (some ("seek", ⟨[], [], [left, right]⟩))).subcommand =
      some ("seek", ⟨[], [], [left, right]⟩) := rfl
  have hrequest := (request_seek_iff hseek).2 ⟨hleft, hright⟩
  exact start_eq_ok_iff.2 ⟨_, hparse, hrequest, ofString?_default⟩

/-! ## The agreement -/

/-- Whatever words the client program is given:

If it goes on, the bytes that it sends are a single command to the server, however they are cut, and
the server reads it as the request that the program made of the words.  If the server is reached, it
carries out that one command and no other, whatever its storage and its settings: it comes to what the
command leaves behind, and the program gets just the answer to it.  If not, nothing is carried out.

A text of several lines is refused.  One that spells a place asks for that place, and one that
begins like a seek and does not is refused; in both cases of a refusal nothing is sent.  Any other
text is to be stored with a newline at its end.

A seek is that of the two numbers given, each with or without a plus sign and zeros in front, and
every two numbers of 32 bits can be given. -/
theorem requests_arrive_as_meant {σ ρ : Type} [Storage σ ρ] (network : Network) (server : Server σ)
    (words : List String) :
    (∀ options, start words = .ok options →
      Arrives options.bytes options.request ∧
      (∃ parsed, program.parse words = .ok parsed ∧ request parsed = .ok options.request) ∧
      (runAgainst network server words =
        let (after, reply) := Client.request network options.address server options.bytes
        (after, finish options reply)) ∧
      (network.connect options.address server.isServing = .ok () →
        ∃ after reply, Executes server.shared options.bytes options.request after reply ∧
          runAgainst network server words =
            ({ server with shared := after }, finish options (.ok reply))) ∧
      ∀ fault, network.connect options.address server.isServing = .error fault →
        runAgainst network server words = (server, fail (.io fault))) ∧
    (∀ parsed given, program.parse words = .ok parsed →
      parsed.subcommand = some ("send", given) →
      let text := Utf8.encode (given.operand 0)
      (newline ∈ text →
        runAgainst network server words = (server, fail (.misuse .severalLines))) ∧
      (∀ command offset, Request.Spells text command offset →
        request parsed = .ok (.seek command offset)) ∧
      (newline ∉ text → ¬ Request.seekHead <+: text →
        request parsed = .ok (.store ⟨text ++ [newline]⟩)) ∧
      ∀ arguments, text = Request.seekHead ++ arguments → newline ∉ text →
        (∀ command offset, ¬ Request.Spells text command offset) →
        runAgainst network server words =
          (server, fail (.malformedSeek (Utf8.lossy (arguments ++ [newline]))))) ∧
    (∀ parsed given, program.parse words = .ok parsed →
      parsed.subcommand = some ("seek", given) → ∀ command offset,
      request parsed = .ok (.seek command offset) ↔
        Numeral.unsigned? UInt32.size (given.operand 0) = some command.toNat ∧
          Numeral.unsigned? UInt32.size (given.operand 1) = some offset.toNat) ∧
    ∀ command offset : UInt32,
      start ["seek", toString command.toNat, toString offset.toNat] =
        .ok ⟨⟨.v4 [127, 0, 0, 1], 9000⟩, .seek command offset⟩ := by
  refine ⟨?_, ?_, fun parsed given _ hseek command offset => request_seek_iff hseek,
    fun command offset => start_seek (Numeral.unsigned?_toString command)
      (Numeral.unsigned?_toString offset)⟩
  · intro options h
    obtain ⟨parsed, hparse, hrequest, -⟩ := start_eq_ok_iff.1 h
    obtain ⟨hline, hread⟩ := isLine_bytes h
    have hrun : runAgainst network server words =
        let (after, reply) := Client.request network options.address server options.bytes
        (after, finish options reply) := by
      rw [runAgainst, h]
    refine ⟨arrives_of_isLine hline hread, ⟨parsed, hparse, hrequest⟩, hrun, ?_, ?_⟩
    · intro hconnect
      refine ⟨_, _, executes_of_isLine server.shared hline hread, ?_⟩
      rw [hrun, Client.request_eq_answer hconnect hline]
    · intro fault hconnect
      rw [hrun, Client.request, hconnect]
      rfl
  · intro parsed given hparse hsend text
    have hrequest := request_send hsend
    refine ⟨?_, ?_, ?_, ?_⟩
    · intro hmem
      rw [sendRequest_of_mem hmem] at hrequest
      exact runAgainst_of_error network server hparse hrequest
    · intro command offset hspells
      rw [hrequest, sendRequest_of_not_mem hspells.newline_not_mem]
      exact Request.ofCommand_of_spells hspells
    · intro hmem hhead
      rw [hrequest, sendRequest_of_not_mem hmem]
      exact Request.ofCommand_of_not_head hhead
    · intro arguments htext hmem hspells
      refine runAgainst_of_error network server hparse ?_
      rw [hrequest, sendRequest_of_not_mem hmem]
      rw [htext] at hspells
      have hread := Request.ofCommand_of_not_spells hspells
      rwa [← htext] at hread

/-- A text that is stored, one that spells a place with zeros in front, and one that begins like it but
has a sign. -/
theorem requests_arrive_as_meant_zeros :
    let network : Network := ⟨[], 1024, 1, true⟩
    let device : Device := (Device.empty 1).write [97, 98, 10]
    let server : Server Device := .start ⟨false, 0⟩ device
    runAgainst network server ["send", "c"] =
        ({ server with shared := .ofStorage (device.write [99, 10]) }, .success [99, 10]) ∧
      start ["send", "AESDCHAR_IOCSEEKTO:000,01"] =
        .ok ⟨⟨.v4 [127, 0, 0, 1], 9000⟩, .seek 0 1⟩ ∧
      Arrives (Request.seekLine 0 1) (.seek 0 1) ∧
      runAgainst network server ["send", "AESDCHAR_IOCSEEKTO:000,01"] =
        (server, .success [98, 10]) ∧
      runAgainst network server ["send", "AESDCHAR_IOCSEEKTO:+7,2"] =
        (server, fail (.malformedSeek "+7,2\n")) := by
  intro network device server
  have hsend : start ["send", "c"] = .ok ⟨⟨.v4 [127, 0, 0, 1], 9000⟩, .store ⟨[99, 10]⟩⟩ := by rfl
  have hseek : start ["send", "AESDCHAR_IOCSEEKTO:000,01"] =
      .ok ⟨⟨.v4 [127, 0, 0, 1], 9000⟩, .seek 0 1⟩ := by rfl
  refine ⟨?_, hseek, ((requests_arrive_as_meant network server _).1 _ hseek).1, ?_, ?_⟩
  · obtain ⟨after, reply, ⟨command, hread, ⟨stop, hanswer⟩, -⟩, hrun⟩ :=
      ((requests_arrive_as_meant network server _).1 _ hsend).2.2.2.1 rfl
    rw [Shared.answer, Shared.execute, hread] at hanswer
    cases hanswer
    exact hrun
  · obtain ⟨after, reply, ⟨command, hread, ⟨stop, hanswer⟩, -⟩, hrun⟩ :=
      ((requests_arrive_as_meant network server _).1 _ hseek).2.2.2.1 rfl
    rw [Shared.answer, Shared.execute, hread] at hanswer
    cases hanswer
    exact hrun
  have hparse : program.parse ["send", "AESDCHAR_IOCSEEKTO:+7,2"] =
      .ok ⟨.nothing, some ("send", ⟨[], [], ["AESDCHAR_IOCSEEKTO:+7,2"]⟩)⟩ := by rfl
  have htext : Utf8.encode "AESDCHAR_IOCSEEKTO:+7,2" =
      Request.seekHead ++ Utf8.encode "+7,2" := by decide
  have hline : newline ∉ Utf8.encode "AESDCHAR_IOCSEEKTO:+7,2" := by decide
  have hnone : Request.seekArguments? (Utf8.encode "+7,2" ++ [newline]) = none := by decide
  have hspells (command offset : UInt32) :
      ¬ Request.Spells (Utf8.encode "AESDCHAR_IOCSEEKTO:+7,2") command offset := by
    rw [htext, ← Request.seekArguments?_eq_some_iff_spells, hnone]
    exact Option.some_ne_none _ ∘ Eq.symm
  have hlossy : Utf8.lossy (Utf8.encode "+7,2" ++ [newline]) = "+7,2\n" := by decide +kernel
  rw [← hlossy]
  exact ((requests_arrive_as_meant network server _).2.1 _ _ hparse rfl).2.2.2 _ htext hline hspells

end ClientProgram

end CommandLog
