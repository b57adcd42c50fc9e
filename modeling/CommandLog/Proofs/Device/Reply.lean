import CommandLog.Proofs.Device.Pieces
import Mathlib.Data.List.Infix
import Mathlib.Data.List.Sublists

/-!
# Replies that are read while others write

The lock on a device is not held while a reply is read from it.  A `Turn` is what can happen then: the
next piece is read, or someone writes.  `Device.reply` lets the turns happen until a read finds nothing;
it gives the pieces, with the places where they begin, and keeps the chronicle.

It is not true that a reply is made of stored commands only (`not_forall_reply_eq_concat`): a command
that is overwritten shifts the log under the cursor, by as many bytes as it had, and these need not be
as many as the cursor has read.  What is true is `reply_isWhole_iff`: the reply is made of stored
commands, in their order, exactly if no read is shifted into the middle of a command or away from one.
-/

namespace CommandLog

/-- What happens while a reply is read: someone writes to the device, or the next piece is read. -/
inductive Turn where
  | write (data : Bytes)
  | read (room : Nat)

namespace Device

/-- What a cursor reads next. -/
def piece (device : Device) (chronicle : Chronicle) (cursor : Cursor) (room : Nat) : Piece :=
  ⟨chronicle.gone + cursor.position, (cursor.read device room).1⟩

/-- The pieces of a reply, up to the first one that is empty, and the chronicle by then. -/
def reply (device : Device) (chronicle : Chronicle) (cursor : Cursor) :
    List Turn → List Piece × Chronicle
  | [] => ([], chronicle)
  | .write data :: turns => (device.write data).reply (device.record chronicle data) cursor turns
  | .read room :: turns =>
    let piece := device.piece chronicle cursor room
    if piece.bytes = [] then ([piece], chronicle)
    else
      let (pieces, last) := device.reply chronicle (cursor.read device room).2 turns
      (piece :: pieces, last)

/-- The chronicle that begins now, with what the device keeps. -/
def chronicleFromNow (device : Device) : Chronicle := ⟨device.entries, []⟩

variable {device : Device} {chronicle : Chronicle} {cursor : Cursor} {room : Nat} {turns : List Turn}

lemma reply_read_of_eq_nil (h : (cursor.read device room).1 = []) (turns : List Turn) :
    device.reply chronicle cursor (.read room :: turns) =
      ([⟨chronicle.gone + cursor.position, []⟩], chronicle) := by
  rw [reply, piece, h]
  rfl

lemma reply_read_of_ne_nil (h : (cursor.read device room).1 ≠ []) (turns : List Turn) :
    device.reply chronicle cursor (.read room :: turns) =
      (device.piece chronicle cursor room ::
          (device.reply chronicle (cursor.read device room).2 turns).1,
        (device.reply chronicle (cursor.read device room).2 turns).2) := by
  rw [reply]
  exact if_neg h

lemma Follows.fromNow (h : device.Follows chronicle) : device.Follows device.chronicleFromNow where
  wellFormed := h.wellFormed
  all := rfl
  isComplete := by
    intro command hcommand
    apply h.isComplete
    rw [← h.all]
    exact List.mem_append_right _ hcommand

/-! ## What the pieces of a reply are -/

/-- A read gives part of a command that was added. -/
lemma Follows.isPartOf_piece (h : device.Follows chronicle) (hne : (cursor.read device room).1 ≠ []) :
    (device.piece chronicle cursor room).IsPartOf chronicle.added := by
  unfold piece
  rw [Cursor.read, Ring.locate?_eq] at hne ⊢
  cases hfound : Ring.locateIn? device.log.toList cursor.position with
  | none =>
    rw [hfound] at hne
    exact absurd rfl hne
  | some found =>
    obtain ⟨command, offset⟩ := found
    obtain ⟨before, after, hentries, hposition, hoffset⟩ := Ring.exists_split_of_locateIn? hfound
    refine ⟨chronicle.overwritten ++ before, command, after, command.bytes.take offset,
      (command.bytes.drop offset).drop room, ?_, ?_, ?_⟩
    · rw [← h.all, entries, hentries, List.append_assoc]
    · have hskipped : (command.bytes.take offset).length = offset := by
        rw [List.length_take]
        exact Nat.min_eq_left hoffset.le
      rw [Command.totalLength_append, hskipped, hposition, Chronicle.gone, Nat.add_assoc]
    · rw [List.take_append_drop, List.take_append_drop]

/-- A read with room for a byte finds nothing only behind all commands. -/
lemma Follows.totalLength_le (h : device.Follows chronicle) (hroom : 0 < room)
    (hnil : (cursor.read device room).1 = []) :
    Command.totalLength chronicle.added ≤ chronicle.gone + cursor.position := by
  have hlength := (h.read cursor room).2
  rw [hnil, List.length_nil] at hlength
  exact Command.restAt_eq_zero_iff.1 (by omega)

lemma added_reply (device : Device) (chronicle : Chronicle) (cursor : Cursor) (turns : List Turn) :
    chronicle.added <+: (device.reply chronicle cursor turns).2.added := by
  induction turns generalizing device chronicle cursor with
  | nil => exact List.prefix_rfl
  | cons turn turns ih =>
    cases turn with
    | write data => exact (device.record_grows chronicle data).1.trans (ih _ _ _)
    | read room =>
      by_cases hnil : (cursor.read device room).1 = []
      · rw [reply_read_of_eq_nil hnil]
      · rw [reply_read_of_ne_nil hnil]
        exact ih _ _ _

/-- What the turns write is complete when it is added. -/
lemma Follows.isComplete_reply (h : device.Follows chronicle) (cursor : Cursor) (turns : List Turn) :
    ∀ command ∈ (device.reply chronicle cursor turns).2.added, command.IsComplete := by
  induction turns generalizing device chronicle cursor with
  | nil => exact h.isComplete
  | cons turn turns ih =>
    cases turn with
    | write data => exact ih (h.write data) cursor
    | read room =>
      by_cases hnil : (cursor.read device room).1 = []
      · rw [reply_read_of_eq_nil hnil]
        exact h.isComplete
      · rw [reply_read_of_ne_nil hnil]
        exact ih h _

/-- A reply that is read from the start begins with a command. -/
lemma Follows.isCut_first (h : device.Follows chronicle) (turns : List Turn) :
    ∀ piece, (device.reply chronicle .start turns).1.head? = some piece →
      Command.IsCut (device.reply chronicle .start turns).2.added piece.place := by
  induction turns generalizing device chronicle with
  | nil =>
    intro piece hpiece
    exact absurd hpiece (Option.some_ne_none piece).symm
  | cons turn turns ih =>
    cases turn with
    | write data => exact ih (h.write data)
    | read room =>
      intro piece hpiece
      obtain ⟨more, hmore⟩ := device.added_reply chronicle .start (.read room :: turns)
      have hplace : piece.place = chronicle.gone := by
        by_cases hnil : (Cursor.start.read device room).1 = []
        · rw [reply_read_of_eq_nil hnil] at hpiece
          cases hpiece
          rfl
        · rw [reply_read_of_ne_nil hnil] at hpiece
          cases hpiece
          rfl
      refine ⟨chronicle.overwritten, device.entries ++ more, ?_, hplace⟩
      rw [← hmore, ← h.all, List.append_assoc]

/-- The pieces of a reply that is read to its end. -/
lemma Follows.reads_reply (h : device.Follows chronicle) (cursor : Cursor)
    (hrooms : ∀ room, Turn.read room ∈ turns → 0 < room)
    (hended : ∃ piece ∈ (device.reply chronicle cursor turns).1, piece.bytes = []) :
    Reply.Reads (device.reply chronicle cursor turns).2.added (chronicle.gone + cursor.position)
      (device.reply chronicle cursor turns).1 := by
  induction turns generalizing device chronicle cursor with
  | nil =>
    obtain ⟨piece, hmem, -⟩ := hended
    exact absurd hmem List.not_mem_nil
  | cons turn turns ih =>
    have hlater : ∀ room, Turn.read room ∈ turns → 0 < room :=
      fun room hmem => hrooms room (List.mem_cons_of_mem _ hmem)
    cases turn with
    | write data =>
      have hgone := (device.record_grows chronicle data).2
      exact (ih (h.write data) cursor hlater hended).of_le (Nat.add_le_add_right hgone _)
    | read room =>
      by_cases hnil : (cursor.read device room).1 = []
      · rw [reply_read_of_eq_nil hnil]
        exact .finish (Nat.le_refl _) (h.totalLength_le (hrooms room List.mem_cons_self) hnil)
      · have hgrows := device.added_reply chronicle (cursor.read device room).2 turns
        have hstop : (device.piece chronicle cursor room).stop =
            chronicle.gone + (cursor.read device room).2.position := by
          rw [Cursor.position_read, ← Nat.add_assoc]
          rfl
        rw [reply_read_of_ne_nil hnil] at hended ⊢
        obtain ⟨piece, hmem, hpiece⟩ := hended
        have hmem : piece ∈ (device.reply chronicle (cursor.read device room).2 turns).1 := by
          rcases List.mem_cons.1 hmem with rfl | hmem
          · exact absurd hpiece hnil
          · exact hmem
        have hrest := ih h (cursor.read device room).2 hlater ⟨piece, hmem, hpiece⟩
        rw [← hstop] at hrest
        exact .next (Nat.le_refl _) ((h.isPartOf_piece hnil).mono hgrows) hnil hrest

/-! ## What a reply shows -/

/-- The reply to a reader of `"a\n"`, `"bbbb\n"` need not be made of stored commands.  If `"a\n"` has
been read when `"c\n"` overwrites it, the cursor is shifted into the second command, and the reply goes
on with `"bb\n"`. -/
theorem not_forall_reply_eq_concat :
    ¬ ∀ (capacity : Nat) (fresh : Device) (before : List Bytes) (turns : List Turn)
      (pieces : List Piece) (chronicle : Chronicle),
      ofCapacity capacity = .ok fresh →
      (before.foldl write fresh).incoming.pending = [] →
      (∀ data, Turn.write data ∈ turns → Bytes.unfinished data = []) →
      (∀ room, Turn.read room ∈ turns → 0 < room) →
      (before.foldl write fresh).reply (before.foldl write fresh).chronicleFromNow .start turns =
        (pieces, chronicle) →
      (∃ piece ∈ pieces, piece.bytes = []) →
      ∃ shown, shown.Sublist chronicle.added ∧ Reply.bytes pieces = Command.concat shown := by
  intro hall
  obtain ⟨shown, hshown, hbytes⟩ := hall 2 (empty 2) [[97, 10], [98, 98, 98, 98, 10]]
    [.read 512, .write [99, 10], .read 512, .read 512, .read 512]
    [⟨0, [97, 10]⟩, ⟨4, [98, 98, 10]⟩, ⟨7, [99, 10]⟩, ⟨9, []⟩]
    ⟨[⟨[97, 10]⟩, ⟨[98, 98, 98, 98, 10]⟩, ⟨[99, 10]⟩], [⟨[97, 10]⟩]⟩
    rfl rfl (by simp; decide) (by simp) rfl ⟨⟨9, []⟩, by simp, rfl⟩
  have hnone : ∀ shown ∈ List.sublists
      [(⟨[97, 10]⟩ : Command), ⟨[98, 98, 98, 98, 10]⟩, ⟨[99, 10]⟩],
      Command.concat shown ≠ [97, 10, 98, 98, 10, 99, 10] := by decide
  exact hnone shown (List.mem_sublists.2 hshown) hbytes.symm

/-- What a reply shows, that is read from the start while others write.  Its pieces are parts of stored
commands and come in their order.  No command is torn exactly if the reads leave places out only from one
boundary between commands to another, and then the bytes are those of complete commands that were stored,
in their order. -/
theorem reply_isWhole_iff {capacity : Nat} {fresh : Device} (hfresh : ofCapacity capacity = .ok fresh)
    (before : List Bytes) (hrooms : ∀ room, Turn.read room ∈ turns → 0 < room)
    {pieces : List Piece}
    (hreply : (before.foldl write fresh).reply (before.foldl write fresh).chronicleFromNow .start turns =
      (pieces, chronicle))
    (hended : ∃ piece ∈ pieces, piece.bytes = []) :
    (∀ piece ∈ pieces, piece.bytes ≠ [] → piece.IsPartOf chronicle.added) ∧
      (pieces.Pairwise fun piece next => piece.stop ≤ next.place) ∧
      (Reply.IsWhole chronicle.added pieces ↔ Reply.IsSeamless chronicle.added pieces) ∧
      (Reply.IsSeamless chronicle.added pieces →
        ∃ shown, shown.Sublist chronicle.added ∧ (∀ command ∈ shown, command.IsComplete) ∧
          Reply.bytes pieces = Command.concat shown) := by
  obtain ⟨_, hfollows⟩ := exists_follows hfresh before
  have hnow := hfollows.fromNow
  have hreads := hnow.reads_reply .start hrooms (by rw [hreply]; exact hended)
  have hfirst := hnow.isCut_first turns
  have hcomplete := hnow.isComplete_reply .start turns
  rw [hreply] at hreads hfirst hcomplete
  refine ⟨hreads.isPartOf, hreads.pairwise.imp fun h => h.2, hreads.isWhole_iff hfirst, ?_⟩
  intro hseamless
  obtain ⟨shown, hshown, hbytes⟩ := hreads.exists_shown hfirst hseamless
  have hall : ∀ command ∈ shown, command.IsComplete := by
    intro command hmem
    exact hcomplete command (hshown.subset hmem)
  exact ⟨shown, hshown, hall, hbytes⟩

/-- Commands of one length, the first of which is overwritten after it has been read: the second one is
left out as a whole. -/
theorem reply_isWhole_iff_two :
    ∃ fresh pieces chronicle, ofCapacity 2 = .ok fresh ∧
      ([[97, 10], [98, 10]].foldl write fresh).reply
        ([[97, 10], [98, 10]].foldl write fresh).chronicleFromNow .start
        [.read 512, .write [99, 10], .read 512, .read 512] = (pieces, chronicle) ∧
      Reply.bytes pieces = [97, 10, 99, 10] ∧ Reply.IsWhole chronicle.added pieces ∧
      ∃ shown, shown.Sublist chronicle.added ∧ (∀ command ∈ shown, command.IsComplete) ∧
        Reply.bytes pieces = Command.concat shown := by
  have hreply : ([[97, 10], [98, 10]].foldl write (empty 2)).reply
      ([[97, 10], [98, 10]].foldl write (empty 2)).chronicleFromNow .start
      [.read 512, .write [99, 10], .read 512, .read 512] =
        ([⟨0, [97, 10]⟩, ⟨4, [99, 10]⟩, ⟨6, []⟩],
          ⟨[⟨[97, 10]⟩, ⟨[98, 10]⟩, ⟨[99, 10]⟩], [⟨[97, 10]⟩]⟩) := rfl
  have hseamless : Reply.IsSeamless [⟨[97, 10]⟩, ⟨[98, 10]⟩, ⟨[99, 10]⟩]
      [⟨0, [97, 10]⟩, ⟨4, [99, 10]⟩, ⟨6, []⟩] := by
    refine .cons_cons (.inr ⟨?_, .inr ?_⟩) (.cons_cons (.inl rfl) (.singleton _))
    · exact ⟨[⟨[97, 10]⟩], [⟨[98, 10]⟩, ⟨[99, 10]⟩], rfl, rfl⟩
    · exact ⟨[⟨[97, 10]⟩, ⟨[98, 10]⟩], [⟨[99, 10]⟩], rfl, rfl⟩
  obtain ⟨-, -, hwhole, hshown⟩ := reply_isWhole_iff (show ofCapacity 2 = .ok (empty 2) from rfl)
    [[97, 10], [98, 10]] (by simp) hreply ⟨⟨6, []⟩, by simp, rfl⟩
  exact ⟨empty 2, _, _, rfl, hreply, rfl, hwhole.2 hseamless, hshown hseamless⟩

end Device

end CommandLog
