import CommandLog.Proofs.Client.Agreement
import CommandLog.Proofs.Device.Written
import CommandLog.Proofs.Ring.Address

/-!
# A client of a server over a device

What a client gets from a server that keeps its log in a device and does nothing else meanwhile.

A request is one line.  However its bytes are cut on their way, the server answers that one line and
closes the connection (`singleBatch_eq_answerLine`), so that a request is one step of the plain
`Shared.answerLine`, whether connections are kept alive or not (`request_eq_answerLine`).  What is left to say is what a line comes to on a
device: a text's line is appended (`answerLine_of_store`), and a seek's line shows the log from a
byte on (`answerLine_seekLine`).  Every command has at least its newline, so that from a byte of the
log on there is always something to show: an empty reply can only mean that there is no such byte.
-/

namespace CommandLog

/-! ## The line of a text -/

namespace Utf8

lemma newline_eq_ofNat_iff {n : Nat} (h : n < 256) : newline = UInt8.ofNat n ↔ n = 10 := by
  rw [← UInt8.toNat_inj, UInt8.toNat_ofNat_of_lt' h]
  exact eq_comm

/-- Only a newline has the byte of one: every byte of a longer character has its highest bit set. -/
lemma newline_mem_utf8EncodeChar {c : Char} (h : newline ∈ String.utf8EncodeChar c) :
    c = '\n' := by
  rw [String.utf8EncodeChar] at h
  split at h
  · rw [List.mem_singleton, newline_eq_ofNat_iff (by omega)] at h
    exact Char.ext (UInt32.toNat_inj.1 h)
  · exfalso
    split at h
    · simp (disch := omega) only [List.mem_cons, List.not_mem_nil, or_false,
        newline_eq_ofNat_iff] at h
      omega
    · split at h <;>
      · simp (disch := omega) only [List.mem_cons, List.not_mem_nil, or_false,
          newline_eq_ofNat_iff] at h
        omega

lemma newline_mem_encode_iff {cs : List Char} :
    newline ∈ cs.flatMap String.utf8EncodeChar ↔ '\n' ∈ cs := by
  rw [List.mem_flatMap]
  constructor
  · rintro ⟨c, hc, hmem⟩
    rwa [newline_mem_utf8EncodeChar hmem] at hc
  · intro h
    exact ⟨'\n', h, by decide⟩

end Utf8

namespace Client

variable {text : String}

/-- A text with no newline before its end is sent as one line: the newline that it lacks is added.
-/
lemma exists_textLine_eq (h : '\n' ∉ text.toList.dropLast) :
    ∃ start, newline ∉ start ∧ start <+: Utf8.encode text ∧ textLine text = start ++ [newline] ∧
      textLine text =
        Utf8.encode text ++ if text.toList.getLast? = some '\n' then [] else [newline] := by
  by_cases hlast : text.toList.getLast? = some '\n'
  · obtain ⟨cs, hcs⟩ := List.getLast?_eq_some_iff.1 hlast
    rw [hcs, List.dropLast_concat] at h
    have hencode : Utf8.encode text = cs.flatMap String.utf8EncodeChar ++ [newline] := by
      rw [Utf8.encode, hcs, List.flatMap_append]
      rfl
    have hline : textLine text = Utf8.encode text := by
      rw [textLine, if_pos]
      simp [hencode]
    refine ⟨_, mt Utf8.newline_mem_encode_iff.1 h, ⟨_, hencode.symm⟩, ?_, ?_⟩
    · rw [hline, hencode]
    · rw [hline, if_pos hlast, List.append_nil]
  · have hall : '\n' ∉ text.toList := by
      intro hmem
      rcases List.eq_nil_or_concat text.toList with hnil | ⟨cs, c, hcs⟩
      · exact List.not_mem_nil (hnil ▸ hmem)
      · rw [List.concat_eq_append] at hcs
        rw [hcs, List.dropLast_concat] at h
        rw [hcs, List.getLast?_concat] at hlast
        rw [hcs, List.mem_append, List.mem_singleton] at hmem
        exact hmem.elim h fun heq => hlast (congrArg some heq.symm)
    have hnewline : newline ∉ Utf8.encode text := mt Utf8.newline_mem_encode_iff.1 hall
    have hline : textLine text = Utf8.encode text ++ [newline] := by
      rw [textLine, if_neg]
      exact fun hend => hnewline (List.mem_of_getLast? hend)
    exact ⟨_, hnewline, List.prefix_refl _, hline, by rw [hline, if_neg hlast]⟩

end Client

/-! ## One line on its way -/

section Line

variable {σ ρ : Type} [Storage σ ρ] [LogView σ] {line : Bytes}

/-- However a line is cut, a connection that is not kept alive answers it and is closed. -/
lemma Session.singleBatch_eq_answerLine (shared : Shared σ) {pieces : List Bytes}
    (h : line.IsLine) (hpieces : pieces.flatten = line) :
    singleBatch shared pieces =
      ((shared.answerLine line).1, (shared.answerLine line).2.getD [], false) := by
  rw [singleBatch_of_isLine shared (hpieces ▸ h), outcome_eq_answerLines, hpieces, h.lines_eq,
    Shared.answerLines]
  rcases shared.answerLine line with ⟨after, _ | reply⟩
  · rfl
  · exact congrArg (fun bytes => (after, bytes, false)) (List.append_nil reply)

omit [LogView σ] in
/-- A connection that is not kept alive serves one batch of the pieces of a request. -/
lemma Client.request_eq_singleBatch {network : Network} {address : Address} {server : Server σ}
    (hconnect : network.connect address true = .ok ()) (hserving : server.isServing = true)
    (hmode : server.settings.keepAlive = false) (data : Bytes) :
    request network address server data =
      ({ server with
          shared := (Session.singleBatch server.shared (data.pieces (receiveRoom - 1))).1 },
        .ok (Session.singleBatch server.shared (data.pieces (receiveRoom - 1))).2.1) := by
  rw [request, hserving, hconnect, hmode]
  rfl

/-- A request of one line is answered as that line. -/
lemma Client.request_eq_answerLine {network : Network} {address : Address} {server : Server σ}
    (hconnect : network.connect address true = .ok ()) (hserving : server.isServing = true)
    (h : line.IsLine) :
    request network address server line =
      ({ server with shared := (server.shared.answerLine line).1 },
        .ok ((server.shared.answerLine line).2.getD [])) := by
  obtain ⟨hshared, hreply, -⟩ := server.shared.answer_eq_answerLine ⟨line⟩
  rw [request_eq_answer (hserving.symm ▸ hconnect) h, hshared, hreply]

end Line

/-! ## The log from a byte on -/

namespace Device

variable {device : Device} {i k : UInt32}

/-- The log from byte `offset` of command number `command` on, if it has that byte. -/
def onwards? (device : Device) (command offset : UInt32) : Option Bytes :=
  (device.log.positionOf command offset).toOption.map (device.contents.drop ·)

/-- The log from a byte on is the rest of the byte's command and all later ones. -/
lemma onwards?_of_getElem? (hring : device.log.WellFormed) {command : Command}
    (hget : device.entries[i.toNat]? = some command) (hlt : k.toNat < command.length) :
    device.onwards? i k =
      some (command.bytes.drop k.toNat ++ Command.concat (device.entries.drop (i.toNat + 1))) := by
  have hbyte := hring.hasByte_iff_getElem?.2 ⟨command, hget, hlt⟩
  rw [onwards?, Ring.positionOf_eq_ok_iff.2 ⟨hbyte, rfl⟩]
  exact congrArg some (hring.drop_contents hget hlt)

lemma onwards?_of_not_hasByte (h : ¬ device.log.HasByte i.toNat k.toNat) :
    device.onwards? i k = none := by
  rw [onwards?, Ring.positionOf_of_not_hasByte h]
  rfl

/-- There is always something to show from a byte on: the byte itself. -/
lemma onwards?_getD_eq_nil_iff (hring : device.log.WellFormed) :
    (device.onwards? i k).getD [] = [] ↔ ¬ device.log.HasByte i.toNat k.toNat := by
  constructor
  · intro hnil hbyte
    obtain ⟨command, hget, hlt⟩ := hring.hasByte_iff_getElem?.1 hbyte
    rw [onwards?_of_getElem? hring hget hlt, Option.getD_some, List.append_eq_nil_iff,
      List.drop_eq_nil_iff] at hnil
    exact absurd hlt (Nat.not_lt_of_le hnil.1)
  · intro hnone
    rw [onwards?_of_not_hasByte hnone, Option.getD_none]

end Device

/-! ## A line on a device -/

namespace Shared

variable {device : Device} {text : Bytes} {command offset : UInt32}

/-- The line of a text that is no seek is written, and shows the log as it is then. -/
lemma answerLine_of_not_head (device : Device) (h : ¬ Request.seekHead <+: text) :
    (ofStorage device).answerLine (text ++ [newline]) =
      (ofStorage (device.write (text ++ [newline])),
        some (device.write (text ++ [newline])).contents) := by
  rw [answerLine, Request.ofCommand_of_not_head h]
  rfl

/-- A seek changes nothing, and shows the log from its place on if there is one. -/
lemma answerLine_seekLine (device : Device) (command offset : UInt32) :
    (ofStorage device).answerLine (Request.seekLine command offset) =
      (ofStorage device, device.onwards? command offset) := by
  rw [answerLine, Request.ofCommand_seekLine, Device.onwards?]
  show (ofStorage device, (device.log.positionOf command offset).toOption.bind fun place =>
    some (device.contents.drop place)) = _
  cases device.log.positionOf command offset <;> rfl

/-- The server rejects the places that the log does not have, and no others. -/
lemma seek_eq_error_iff :
    (ofStorage device).seek command offset = .error (.failed (.outOfRange command offset)) ↔
      ¬ device.log.HasByte command.toNat offset.toNat := by
  have hseek : (ofStorage device).seek command offset =
      ((device.log.positionOf command offset).map Cursor.mk).mapError .failed := rfl
  rw [hseek]
  constructor
  · intro h hbyte
    rw [Ring.positionOf_eq_ok_iff.2 ⟨hbyte, rfl⟩] at h
    cases h
  · intro h
    rw [Ring.positionOf_of_not_hasByte h]
    rfl

end Shared

namespace Client

variable {network : Network} {address : Address} {server : Server Device} {device : Device}
  {i k : UInt32}

section Request

variable (hconnect : network.connect address true = .ok ()) (hserving : server.isServing = true)
  (hshared : server.shared = .ofStorage device)

include hconnect hserving hshared

lemma send_of_not_head {text : String} (htext : '\n' ∉ text.toList.dropLast)
    (hhead : ¬ Request.seekHead <+: Utf8.encode text) :
    send network address server text =
      ({ server with shared := .ofStorage (device.write (textLine text)) },
        .ok (device.write (textLine text)).contents) := by
  obtain ⟨start, hstart, hencode, hline, -⟩ := exists_textLine_eq htext
  have hanswer := Shared.answerLine_of_not_head device
    fun h => hhead (h.trans hencode)
  rw [send, hline, request_eq_answerLine hconnect hserving
    (Bytes.isLine_append_newline hstart), hshared, hanswer]
  rfl

lemma seekTo_eq (i k : UInt32) :
    seekTo network address server i k = (server, .ok ((device.onwards? i k).getD [])) := by
  rw [seekTo, request_eq_answerLine hconnect hserving (Request.isLine_seekLine i k), hshared,
    Shared.answerLine_seekLine, ← hshared]

end Request

/-- The line of a text is written as one command. -/
lemma write_textLine {text : String} (hring : device.log.WellFormed)
    (hpending : device.incoming.pending = []) (htext : '\n' ∉ text.toList.dropLast) :
    (device.write (textLine text)).entries =
        (device.entries ++ [Command.mk (textLine text)]).drop
          ((device.entries ++ [Command.mk (textLine text)]).length - device.log.capacity) ∧
      (device.write (textLine text)).incoming.pending = [] := by
  obtain ⟨start, hstart, -, hline, -⟩ := exists_textLine_eq htext
  have hcomplete : ∀ command ∈ [Command.mk (textLine text)], command.IsComplete := by
    intro command hcommand
    rw [List.mem_singleton.1 hcommand]
    exact hline ▸ Bytes.isLine_append_newline hstart
  have hwrite : device.write (textLine text) =
      device.write (Command.concat [Command.mk (textLine text)]) := by
    rw [Command.concat, List.flatMap_singleton]
  rw [hwrite]
  exact ⟨Device.entries_write_concat hring hpending hcomplete,
    (Device.write_concat hpending hcomplete).2⟩

lemma finish_seek_iff {reply : Bytes} :
    ClientProgram.finish ⟨address, .seek i k⟩ (.ok reply) =
        ClientProgram.fail (.seekRejected i k) ↔ reply = [] := by
  rw [ClientProgram.finish]
  by_cases h : reply = []
  · simp [h]
  · simp only [h, if_false, iff_false]
    exact fun heq => absurd (congrArg Outcome.code heq) Nat.zero_ne_one

/-- A client of a server over a device that has any log and no beginning of a command, while nothing
else happens to the server:

A text with no newline before its end that does not begin like a seek is stored as one command, with
the newline that it lacks, and the reply is the log as it is then.

A seek leaves the server as it is.  If the log has the byte, the reply is the log from that byte on,
that is, the rest of its command and all later ones.  If it does not, the reply is empty.  So the
reply is empty exactly if the server rejected the place, and then the client program says so.

However a request is cut on its way, the server comes to the same and sends the same. -/
theorem replies_of_device {capacity : Nat} {fresh : Device}
    (hfresh : Device.ofCapacity capacity = .ok fresh) (writes : List Bytes)
    (hpending : (writes.foldl Device.write fresh).incoming.pending = [])
    (hconnect : network.connect address true = .ok ())
    (hserving : server.isServing = true) (hmode : server.settings.keepAlive = false)
    (hshared : server.shared = .ofStorage (writes.foldl Device.write fresh)) :
    let device := writes.foldl Device.write fresh
    (∀ text : String, '\n' ∉ text.toList.dropLast → ¬ Request.seekHead <+: Utf8.encode text →
      ∃ (command : Command) (after : Device),
        command.bytes =
          Utf8.encode text ++ (if text.toList.getLast? = some '\n' then [] else [newline]) ∧
        send network address server text =
          ({ server with shared := .ofStorage after }, .ok after.contents) ∧
        after.entries =
          (device.entries ++ [command]).drop ((device.entries ++ [command]).length - capacity) ∧
        after.incoming.pending = []) ∧
    (∀ i k : UInt32,
      (∀ command, device.entries[i.toNat]? = some command → k.toNat < command.length →
        seekTo network address server i k =
          (server,
            .ok (command.bytes.drop k.toNat ++
              Command.concat (device.entries.drop (i.toNat + 1))))) ∧
      ((∀ command, device.entries[i.toNat]? = some command → command.length ≤ k.toNat) →
        seekTo network address server i k = (server, .ok [])) ∧
      ((seekTo network address server i k).2 = .ok [] ↔
        server.shared.seek i k = .error (.failed (.outOfRange i k))) ∧
      (ClientProgram.finish ⟨address, .seek i k⟩ (seekTo network address server i k).2 =
          ClientProgram.fail (.seekRejected i k) ↔
        server.shared.seek i k = .error (.failed (.outOfRange i k)))) ∧
    ∀ (line : Bytes) (pieces : List Bytes), line.IsLine → pieces.flatten = line →
      request network address server line =
        ({ server with shared := (Session.singleBatch server.shared pieces).1 },
          .ok (Session.singleBatch server.shared pieces).2.1) := by
  obtain ⟨chronicle, hfollows⟩ := Device.exists_follows hfresh writes
  have hring := hfollows.wellFormed
  have hroom : (writes.foldl Device.write fresh).log.capacity = capacity := by
    rw [Device.capacity_foldl_write, (Device.ofCapacity_eq_ok hfresh).2]
    exact Ring.capacity_empty capacity
  intro device
  refine ⟨?_, ?_, ?_⟩
  · intro text htext hhead
    obtain ⟨-, -, -, -, hbytes⟩ := exists_textLine_eq htext
    obtain ⟨hentries, hrest⟩ := write_textLine hring hpending htext
    rw [hroom] at hentries
    exact ⟨⟨textLine text⟩, device.write (textLine text), hbytes,
      send_of_not_head hconnect hserving hshared htext hhead, hentries, hrest⟩
  · intro i k
    have hreply := seekTo_eq hconnect hserving hshared i k
    have hempty : (seekTo network address server i k).2 = .ok [] ↔
        server.shared.seek i k = .error (.failed (.outOfRange i k)) := by
      rw [hreply, hshared, Shared.seek_eq_error_iff, Except.ok.injEq,
        Device.onwards?_getD_eq_nil_iff hring]
    refine ⟨?_, ?_, hempty, ?_⟩
    · intro command hget hlt
      rw [hreply, Device.onwards?_of_getElem? hring hget hlt, Option.getD_some]
    · intro hout
      have hnone : ¬ device.log.HasByte i.toNat k.toNat := by
        rw [hring.hasByte_iff_getElem?]
        rintro ⟨command, hget, hlt⟩
        exact absurd hlt (Nat.not_lt_of_le (hout command hget))
      rw [hreply, Device.onwards?_of_not_hasByte hnone, Option.getD_none]
    · rw [← hempty, hreply, finish_seek_iff, Except.ok.injEq]
  · intro line pieces hline hpieces
    have hsent := Session.singleBatch_eq_answerLine server.shared hline
      (Bytes.flatten_pieces (receiveRoom - 1) line)
    rw [request_eq_singleBatch hconnect hserving hmode, hsent,
      Session.singleBatch_eq_answerLine server.shared hline hpieces]

/-- Room for two commands, of which a third one has overwritten the oldest: a place in the middle of
a command, one that is not there any more, and a text with no newline. -/
theorem replies_of_device_two :
    let network : Network := ⟨[], 1024, 1, true⟩
    let address : Address := ⟨.v4 [127, 0, 0, 1], 9000⟩
    let device := [[97, 10, 98, 98, 10], [99, 10]].foldl Device.write (.empty 2)
    let server : Server Device := .start ⟨false, 0⟩ device
    Device.ofCapacity 2 = .ok (.empty 2) ∧ device.incoming.pending = [] ∧
      network.connect address true = .ok () ∧
      seekTo network address server 0 1 = (server, .ok [98, 10, 99, 10]) ∧
      seekTo network address server 2 0 = (server, .ok []) ∧
      ∃ after : Device,
        send network address server "d" =
          ({ server with shared := .ofStorage after }, .ok after.contents) ∧
        after.entries.map Command.bytes = [[99, 10], [100, 10]] := by
  intro network address device server
  have hfresh : Device.ofCapacity 2 = .ok (.empty 2) := rfl
  have hpending : device.incoming.pending = [] := rfl
  have hconnect : network.connect address true = .ok () := rfl
  have hentries : device.entries = [⟨[98, 98, 10]⟩, ⟨[99, 10]⟩] := by decide +kernel
  obtain ⟨hsend, hseek, -⟩ := replies_of_device hfresh [[97, 10, 98, 98, 10], [99, 10]] hpending
    hconnect (show server.isServing = true from rfl) rfl rfl
  obtain ⟨command, after, hcommand, hreply, hafter, -⟩ := hsend "d" (by decide) (by decide)
  refine ⟨hfresh, hpending, hconnect, ?_, ?_, after, hreply, ?_⟩
  · have hinside := (hseek 0 1).1 ⟨[98, 98, 10]⟩
    rw [hentries] at hinside
    exact hinside rfl (by decide)
  · refine (hseek 2 0).2.1 fun command hget => ?_
    rw [hentries] at hget
    exact absurd hget (by simp)
  · have hbytes : command.bytes = [100, 10] := hcommand.trans (by decide)
    rw [hafter, hentries]
    simpa using hbytes

end Client

end CommandLog
