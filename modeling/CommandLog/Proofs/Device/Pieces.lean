import CommandLog.Proofs.Device.Chronicle
import Mathlib.Data.List.Chain

/-!
# Whole commands in a reply

A reply is read in pieces, and while it is read others write.  What is overwritten between two reads
shifts the log under the cursor, which may then stand in the middle of a command that it has not begun,
or have lost the rest of one that it has.  This module says, for the pieces alone, when that happens.

`Reply.Reads` is what is known of the pieces: each is part of one stored command, each begins where the
one before ended or later, and the last one finds nothing behind the end.  A reply is *whole* if it
shows all or nothing of every stored command (`Reply.IsWhole`), and it is *seamless* if its reads leave
places out only from one boundary between commands to another (`Reply.IsSeamless`).  These are the same
(`Reads.isWhole_iff`), and then the bytes of the reply are those of some of the stored commands in their
order (`Reads.exists_shown`).
-/

namespace CommandLog

/-! ## Boundaries between commands -/

/-- The place is a boundary: a command begins there, or the last one ends. -/
def Command.IsCut (commands : List Command) (place : Nat) : Prop :=
  ∃ before after, commands = before ++ after ∧ place = totalLength before

namespace Command

variable {before after front back rest : List Command} {command : Command} {k : Nat}

lemma eq_nil_of_totalLength_lt (h : command :: after = front ++ rest)
    (hlt : totalLength front < command.length) : front = [] := by
  cases front with
  | nil => rfl
  | cons first front =>
    obtain ⟨rfl, -⟩ := List.cons.inj h
    rw [totalLength] at hlt
    omega

/-- There is no boundary inside of a command. -/
lemma eq_zero_of_isCut (h : IsCut (before ++ command :: after) (totalLength before + k))
    (hlt : k < command.length) : k = 0 := by
  obtain ⟨front, back, hsplit, hplace⟩ := h
  rcases List.append_eq_append_iff.1 hsplit with ⟨more, rfl, hmore⟩ | ⟨more, rfl, -⟩
  · rw [totalLength_append] at hplace
    have hnil := eq_nil_of_totalLength_lt hmore (by omega)
    rw [hnil, totalLength] at hplace
    omega
  · rw [totalLength_append] at hplace
    omega

/-- A place falls into one command only. -/
lemma eq_of_place {other : Command} {k' : Nat}
    (h : before ++ command :: after = front ++ other :: back)
    (hplace : totalLength before + k = totalLength front + k')
    (hlt : k < command.length) (hlt' : k' < other.length) :
    before = front ∧ command = other ∧ after = back := by
  rcases List.append_eq_append_iff.1 h with ⟨more, rfl, hmore⟩ | ⟨more, rfl, hmore⟩
  · rw [totalLength_append] at hplace
    have hnil := eq_nil_of_totalLength_lt hmore (by omega)
    subst hnil
    obtain ⟨rfl, rfl⟩ := List.cons.inj hmore
    exact ⟨(List.append_nil before).symm, rfl, rfl⟩
  · rw [totalLength_append] at hplace
    have hnil := eq_nil_of_totalLength_lt hmore (by omega)
    subst hnil
    obtain ⟨rfl, rfl⟩ := List.cons.inj hmore
    exact ⟨List.append_nil front, rfl, rfl⟩

/-- A command that does not begin before a boundary is one of those behind it. -/
lemma suffix_of_le (h : before ++ command :: after = front ++ back)
    (hle : totalLength front ≤ totalLength before) (hpos : 0 < command.length) :
    command :: after <:+ back := by
  rcases List.append_eq_append_iff.1 h with ⟨more, rfl, hmore⟩ | ⟨more, rfl, hmore⟩
  · rw [totalLength_append] at hle
    have hnil := eq_nil_of_totalLength_lt hmore (by omega)
    rw [hnil, List.nil_append] at hmore
    exact ⟨[], hmore⟩
  · exact ⟨more, hmore.symm⟩

end Command

/-! ## Pieces of a reply -/

/-- What one read of a reply gives, and where in the stream it begins. -/
structure Piece where
  place : Nat
  bytes : Bytes

namespace Piece

/-- The place behind the piece. -/
def stop (piece : Piece) : Nat := piece.place + piece.bytes.length

/-- The piece is part of a command, which comes after the commands `before`: it leaves out the bytes
`skipped` in front of it and the bytes `rest` behind it. -/
structure Within (piece : Piece) (before : List Command) (command : Command)
    (skipped rest : Bytes) : Prop where
  place_eq : piece.place = Command.totalLength before + skipped.length
  bytes_eq : command.bytes = skipped ++ (piece.bytes ++ rest)

/-- The piece is part of one of the commands. -/
def IsPartOf (piece : Piece) (commands : List Command) : Prop :=
  ∃ before command after skipped rest,
    commands = before ++ command :: after ∧ piece.Within before command skipped rest

/-- Nothing is left out between the two pieces, or only from one boundary between commands to another;
what a read that finds nothing leaves out ends with the commands. -/
def Joins (commands : List Command) (piece next : Piece) : Prop :=
  next.place = piece.stop ∨
    Command.IsCut commands piece.stop ∧ (next.bytes = [] ∨ Command.IsCut commands next.place)

variable {piece : Piece} {before : List Command} {command : Command} {skipped rest : Bytes}

lemma Within.length_eq (h : piece.Within before command skipped rest) :
    command.length = skipped.length + (piece.bytes.length + rest.length) := by
  rw [Command.length, h.bytes_eq, List.length_append, List.length_append]

lemma Within.stop_eq (h : piece.Within before command skipped rest) :
    piece.stop = Command.totalLength before + (skipped.length + piece.bytes.length) := by
  rw [stop, h.place_eq, Nat.add_assoc]

/-- A piece that reaches to the end of its command stops at a boundary. -/
lemma Within.isCut_stop (h : piece.Within before command skipped []) (after : List Command) :
    Command.IsCut (before ++ command :: after) piece.stop := by
  refine ⟨before ++ [command], after, List.append_cons _ _ _, ?_⟩
  have hlength := h.length_eq
  rw [List.length_nil, Nat.add_zero] at hlength
  rw [h.stop_eq, Command.totalLength_append, Command.totalLength, Command.totalLength, hlength,
    Nat.add_zero]

/-- A piece that leaves out nothing in front of it begins at a boundary. -/
lemma Within.isCut_place (h : piece.Within before command [] rest) (after : List Command) :
    Command.IsCut (before ++ command :: after) piece.place :=
  ⟨before, command :: after, rfl, h.place_eq⟩

lemma Within.rest_eq_nil {after : List Command} (h : piece.Within before command skipped rest)
    (hne : piece.bytes ≠ []) (hcut : Command.IsCut (before ++ command :: after) piece.stop) :
    rest = [] := by
  by_contra hrest
  have hlength := h.length_eq
  have hpos := List.length_pos_iff.2 hne
  have hmore := List.length_pos_iff.2 hrest
  rw [h.stop_eq] at hcut
  have hzero := Command.eq_zero_of_isCut hcut (by omega)
  omega

lemma Within.skipped_eq_nil {after : List Command} (h : piece.Within before command skipped rest)
    (hne : piece.bytes ≠ []) (hcut : Command.IsCut (before ++ command :: after) piece.place) :
    skipped = [] := by
  have hlength := h.length_eq
  have hpos := List.length_pos_iff.2 hne
  rw [h.place_eq] at hcut
  exact List.length_eq_zero_iff.1 (Command.eq_zero_of_isCut hcut (by omega))

variable {next : Piece} {before' after after' : List Command} {command' : Command}
  {skipped' rest' : Bytes}

/-- What is left of a command behind a piece begins with the next piece, if that goes on there. -/
lemma Within.rest_eq (h : piece.Within before command skipped rest)
    (h' : next.Within before' command' skipped' rest')
    (hstored : before ++ command :: after = before' ++ command' :: after')
    (hplace : next.place = piece.stop) (hrest : rest ≠ []) (hne : next.bytes ≠ []) :
    after = after' ∧ rest = next.bytes ++ rest' := by
  have hlength := h.length_eq
  have hlength' := h'.length_eq
  have hmore := List.length_pos_iff.2 hrest
  have hpos := List.length_pos_iff.2 hne
  have hplaces := h'.place_eq
  rw [hplace, h.stop_eq] at hplaces
  obtain ⟨rfl, rfl, rfl⟩ := Command.eq_of_place hstored hplaces (by omega) (by omega)
  have hskipped : (skipped ++ piece.bytes).length = skipped'.length := by
    rw [List.length_append]
    omega
  have hsame : (skipped ++ piece.bytes) ++ rest = skipped' ++ (next.bytes ++ rest') := by
    rw [← h'.bytes_eq, h.bytes_eq, List.append_assoc]
  exact ⟨rfl, (List.append_inj hsame hskipped).2⟩

/-- A piece that begins a command, behind one that ends one, begins a command that comes later. -/
lemma Within.suffix_of_le (h : piece.Within before command skipped [])
    (h' : next.Within before' command' [] rest')
    (hstored : before ++ command :: after = before' ++ command' :: after')
    (hle : piece.stop ≤ next.place) (hne : next.bytes ≠ []) : command' :: after' <:+ after := by
  have hlength := h.length_eq
  have hlength' := h'.length_eq
  have hpos := List.length_pos_iff.2 hne
  have hplace := h'.place_eq
  have hstop := h.stop_eq
  rw [List.length_nil] at hlength hplace
  have hsplit : before' ++ command' :: after' = (before ++ [command]) ++ after := by
    rw [← hstored, ← List.append_cons]
  have hbefore : Command.totalLength (before ++ [command]) ≤ Command.totalLength before' := by
    rw [Command.totalLength_append, Command.totalLength, Command.totalLength]
    omega
  exact Command.suffix_of_le hsplit hbefore (by omega)

lemma IsPartOf.mono {commands others : List Command} (h : piece.IsPartOf commands)
    (hgrows : commands <+: others) : piece.IsPartOf others := by
  obtain ⟨before, command, after, skipped, rest, rfl, hwithin⟩ := h
  obtain ⟨more, rfl⟩ := hgrows
  exact ⟨before, command, after ++ more, skipped, rest, by rw [List.append_assoc]; rfl, hwithin⟩

end Piece

namespace Reply

/-- The pieces of a reply that is read to its end, from the given place on. -/
inductive Reads (stored : List Command) : (place : Nat) → List Piece → Prop
  | finish {place there : Nat} (hle : place ≤ there) (hbehind : Command.totalLength stored ≤ there) :
    Reads stored place [⟨there, []⟩]
  | next {place : Nat} {piece : Piece} {pieces : List Piece} (hle : place ≤ piece.place)
    (hpart : piece.IsPartOf stored) (hne : piece.bytes ≠ []) (hrest : Reads stored piece.stop pieces) :
    Reads stored place (piece :: pieces)

/-- The bytes of a reply. -/
def bytes (pieces : List Piece) : Bytes := pieces.flatMap Piece.bytes

/-- One of the pieces gives the byte at this place. -/
def Shows (pieces : List Piece) (place : Nat) : Prop :=
  ∃ piece ∈ pieces, piece.place ≤ place ∧ place < piece.stop

/-- No command is torn: the reply shows all of its bytes or none. -/
def IsWhole (stored : List Command) (pieces : List Piece) : Prop :=
  ∀ before command after, stored = before ++ command :: after →
    (∀ k < command.length, Shows pieces (Command.totalLength before + k)) ∨
    (∀ k < command.length, ¬ Shows pieces (Command.totalLength before + k))

/-- Between its reads the reply leaves out whole commands only. -/
def IsSeamless (stored : List Command) (pieces : List Piece) : Prop :=
  pieces.IsChain (Piece.Joins stored)

variable {stored : List Command} {place : Nat} {piece next : Piece} {pieces front back : List Piece}

lemma Reads.of_le {place' : Nat} (h : Reads stored place pieces) (hle : place' ≤ place) :
    Reads stored place' pieces := by
  cases h with
  | finish hle' hbehind => exact .finish (hle.trans hle') hbehind
  | next hle' hpart hne hrest => exact .next (hle.trans hle') hpart hne hrest

lemma Reads.le_place (h : Reads stored place pieces) : ∀ piece ∈ pieces, place ≤ piece.place := by
  induction h with
  | finish hle _ =>
    intro piece hmem
    rw [List.mem_singleton.1 hmem]
    exact hle
  | next hle _ _ _ ih =>
    intro piece hmem
    rcases List.mem_cons.1 hmem with rfl | hmem
    · exact hle
    · have hstop := ih piece hmem
      unfold Piece.stop at hstop
      omega

/-- The pieces follow each other in the stream, and none but the last is empty. -/
lemma Reads.pairwise (h : Reads stored place pieces) :
    pieces.Pairwise fun piece next => piece.bytes ≠ [] ∧ piece.stop ≤ next.place := by
  induction h with
  | finish => exact List.pairwise_singleton _ _
  | next _ _ hne hrest ih =>
    exact List.pairwise_cons.2 ⟨fun next hmem => ⟨hne, hrest.le_place next hmem⟩, ih⟩

lemma Reads.isPartOf (h : Reads stored place pieces) :
    ∀ piece ∈ pieces, piece.bytes ≠ [] → piece.IsPartOf stored := by
  induction h with
  | finish =>
    intro piece hmem hne
    rw [List.mem_singleton.1 hmem] at hne
    exact absurd rfl hne
  | next _ hpart _ _ ih =>
    intro piece hmem hne
    rcases List.mem_cons.1 hmem with rfl | hmem
    · exact hpart
    · exact ih piece hmem hne

lemma Reads.totalLength_le (h : Reads stored place pieces) :
    ∀ piece ∈ pieces, piece.bytes = [] → Command.totalLength stored ≤ piece.place := by
  induction h with
  | finish _ hbehind =>
    intro piece hmem _
    rw [List.mem_singleton.1 hmem]
    exact hbehind
  | next _ _ hne _ ih =>
    intro piece hmem hnil
    rcases List.mem_cons.1 hmem with rfl | hmem
    · exact absurd hnil hne
    · exact ih piece hmem hnil

lemma Reads.ne_nil (h : Reads stored place pieces) : pieces ≠ [] := by
  cases h with
  | finish => exact List.cons_ne_nil _ _
  | next => exact List.cons_ne_nil _ _

/-- Behind a piece that gives something there is another one. -/
lemma Reads.exists_next (h : Reads stored place pieces) (hpieces : pieces = front ++ piece :: back)
    (hne : piece.bytes ≠ []) : ∃ next others, back = next :: others := by
  induction h generalizing front with
  | finish =>
    cases front with
    | nil =>
      cases hpieces
      exact absurd rfl hne
    | cons first front => simp at hpieces
  | next _ _ _ hrest ih =>
    cases front with
    | nil =>
      cases hpieces
      exact List.exists_cons_of_ne_nil hrest.ne_nil
    | cons first front => exact ih (List.cons.inj hpieces).2

lemma Reads.of_consecutive (h : Reads stored place pieces)
    (hpieces : pieces = front ++ piece :: next :: back) :
    (∀ other ∈ front, other.stop ≤ piece.place) ∧ piece.bytes ≠ [] ∧ piece.stop ≤ next.place ∧
      ∀ other ∈ back, next.stop ≤ other.place := by
  have hpairs := h.pairwise
  rw [hpieces, List.pairwise_append] at hpairs
  obtain ⟨-, hlater, hfront⟩ := hpairs
  obtain ⟨hpiece, hnext⟩ := List.pairwise_cons.1 hlater
  obtain ⟨hne, hle⟩ := hpiece next List.mem_cons_self
  exact ⟨fun other hmem => (hfront other hmem piece List.mem_cons_self).2, hne, hle,
    fun other hmem => ((List.pairwise_cons.1 hnext).1 other hmem).2⟩

/-! ## Whole means seamless -/

/-- What lies between two reads is not shown. -/
lemma Reads.not_shows (h : Reads stored place pieces)
    (hpieces : pieces = front ++ piece :: next :: back) {there : Nat} (hstop : piece.stop ≤ there)
    (hlt : there < next.place) : ¬ Shows pieces there := by
  rintro ⟨other, hmem, hle, hother⟩
  obtain ⟨hfront, -, -, hback⟩ := h.of_consecutive hpieces
  rw [hpieces, List.mem_append, List.mem_cons, List.mem_cons] at hmem
  have hplace : piece.place ≤ piece.stop := Nat.le_add_right _ _
  have hplace' : next.place ≤ next.stop := Nat.le_add_right _ _
  rcases hmem with hmem | rfl | rfl | hmem
  · have hbefore := hfront other hmem
    omega
  · omega
  · omega
  · have hbehind := hback other hmem
    omega

/-- A whole reply leaves a command only at its end. -/
lemma Reads.isCut_stop (h : Reads stored place pieces) (hwhole : IsWhole stored pieces)
    (hpieces : pieces = front ++ piece :: next :: back) (hlt : piece.stop < next.place) :
    Command.IsCut stored piece.stop := by
  have hmem : piece ∈ pieces := by simp [hpieces]
  obtain ⟨-, hne, -, -⟩ := h.of_consecutive hpieces
  have hpos := List.length_pos_iff.2 hne
  obtain ⟨before, command, after, skipped, rest, rfl, hwithin⟩ := h.isPartOf piece hmem hne
  have hlength := hwithin.length_eq
  have hstop := hwithin.stop_eq
  by_cases hrest : rest = []
  · subst hrest
    exact hwithin.isCut_stop after
  · -- the last byte of the piece is shown, and then so is the one behind it
    exfalso
    have hmore := List.length_pos_iff.2 hrest
    have hshown : Shows pieces
        (Command.totalLength before + (skipped.length + piece.bytes.length - 1)) :=
      ⟨piece, hmem, by have := hwithin.place_eq; omega, by omega⟩
    rcases hwhole before command after rfl with hall | hnone
    · have hbehind := hall (skipped.length + piece.bytes.length) (by omega)
      rw [← hstop] at hbehind
      exact h.not_shows hpieces (Nat.le_refl _) hlt hbehind
    · exact hnone _ (by omega) hshown

/-- A whole reply enters a command only at its beginning. -/
lemma Reads.isCut_place (h : Reads stored place pieces) (hwhole : IsWhole stored pieces)
    (hpieces : pieces = front ++ piece :: next :: back) (hlt : piece.stop < next.place)
    (hne : next.bytes ≠ []) : Command.IsCut stored next.place := by
  have hmem : next ∈ pieces := by simp [hpieces]
  have hpos := List.length_pos_iff.2 hne
  obtain ⟨before, command, after, skipped, rest, rfl, hwithin⟩ := h.isPartOf next hmem hne
  have hlength := hwithin.length_eq
  have hplace := hwithin.place_eq
  have hstop := hwithin.stop_eq
  by_cases hskipped : skipped = []
  · subst hskipped
    exact hwithin.isCut_place after
  · -- the first byte of the piece is shown, and then so is the one in front of it
    exfalso
    have hmore := List.length_pos_iff.2 hskipped
    have hshown : Shows pieces (Command.totalLength before + skipped.length) :=
      ⟨next, hmem, by omega, by omega⟩
    rcases hwhole before command after rfl with hall | hnone
    · exact h.not_shows hpieces (by omega) (by omega) (hall (skipped.length - 1) (by omega))
    · exact hnone _ (by omega) hshown

lemma Reads.isSeamless_of_isWhole (h : Reads stored place pieces) (hwhole : IsWhole stored pieces) :
    IsSeamless stored pieces := by
  rw [IsSeamless, List.isChain_iff_forall_rel_of_append_cons_cons]
  intro piece next front back hpieces
  by_cases heq : next.place = piece.stop
  · exact .inl heq
  · obtain ⟨-, -, hle, -⟩ := h.of_consecutive hpieces
    have hlt : piece.stop < next.place := by omega
    refine .inr ⟨h.isCut_stop hwhole hpieces hlt, ?_⟩
    by_cases hnil : next.bytes = []
    · exact .inl hnil
    · exact .inr (h.isCut_place hwhole hpieces hlt hnil)

/-! ## Seamless means whole -/

lemma IsSeamless.joins (h : IsSeamless stored pieces)
    (hpieces : pieces = front ++ piece :: next :: back) : piece.Joins stored next :=
  List.isChain_iff_forall_rel_of_append_cons_cons.1 h hpieces

/-- A seamless reply that shows a byte of a command shows the next one. -/
lemma Reads.shows_add_one (h : Reads stored place pieces) (hseamless : IsSeamless stored pieces)
    {there : Nat} (hcut : ¬ Command.IsCut stored (there + 1))
    (hlt : there + 1 < Command.totalLength stored) (hshows : Shows pieces there) :
    Shows pieces (there + 1) := by
  obtain ⟨piece, hmem, hle, hstop⟩ := hshows
  by_cases hmore : there + 1 < piece.stop
  · exact ⟨piece, hmem, by omega, hmore⟩
  · -- the piece ends here, so that the next one has to begin here
    have hends : piece.stop = there + 1 := by omega
    have hne : piece.bytes ≠ [] := by
      rw [Piece.stop] at hstop
      exact List.length_pos_iff.1 (by omega)
    obtain ⟨front, back, hpieces⟩ := List.append_of_mem hmem
    obtain ⟨next, others, rfl⟩ := h.exists_next hpieces hne
    have hnext : next ∈ pieces := by simp [hpieces]
    rcases hseamless.joins hpieces with hplace | ⟨hboundary, -⟩
    · have hsome : next.bytes ≠ [] := by
        intro hnil
        have hbehind := h.totalLength_le next hnext hnil
        omega
      have hpos := List.length_pos_iff.2 hsome
      refine ⟨next, hnext, by omega, ?_⟩
      rw [Piece.stop]
      omega
    · rw [hends] at hboundary
      exact absurd hboundary hcut

/-- A seamless reply that shows a byte of a command shows the one in front of it. -/
lemma Reads.shows_of_add_one (h : Reads stored place pieces)
    (hfirst : ∀ piece, pieces.head? = some piece → Command.IsCut stored piece.place)
    (hseamless : IsSeamless stored pieces) {there : Nat}
    (hcut : ¬ Command.IsCut stored (there + 1)) (hshows : Shows pieces (there + 1)) :
    Shows pieces there := by
  obtain ⟨next, hmem, hle, hstop⟩ := hshows
  by_cases hmore : next.place ≤ there
  · exact ⟨next, hmem, hmore, by omega⟩
  · -- the piece begins here, so that the one before has to end here
    have hbegins : next.place = there + 1 := by omega
    have hsome : next.bytes ≠ [] := by
      rw [Piece.stop] at hstop
      exact List.length_pos_iff.1 (by omega)
    obtain ⟨front, back, hpieces⟩ := List.append_of_mem hmem
    rcases List.eq_nil_or_concat front with rfl | ⟨others, piece, rfl⟩
    · have hboundary := hfirst next (by simp [hpieces])
      rw [hbegins] at hboundary
      exact absurd hboundary hcut
    · have hpieces' : pieces = others ++ piece :: next :: back := by simp [hpieces]
      have hpiece : piece ∈ pieces := by simp [hpieces]
      obtain ⟨-, hne, -, -⟩ := h.of_consecutive hpieces'
      have hpos := List.length_pos_iff.2 hne
      have hstop' : piece.stop = piece.place + piece.bytes.length := rfl
      rcases hseamless.joins hpieces' with hplace | ⟨-, hnil | hboundary⟩
      · exact ⟨piece, hpiece, by omega, by omega⟩
      · exact absurd hnil hsome
      · rw [hbegins] at hboundary
        exact absurd hboundary hcut

lemma Reads.isWhole_of_isSeamless (h : Reads stored place pieces)
    (hfirst : ∀ piece, pieces.head? = some piece → Command.IsCut stored piece.place)
    (hseamless : IsSeamless stored pieces) : IsWhole stored pieces := by
  rintro before command after rfl
  have hstep : ∀ k, k + 1 < command.length →
      (Shows pieces (Command.totalLength before + k) ↔
        Shows pieces (Command.totalLength before + (k + 1))) := by
    intro k hk
    have hcut : ¬ Command.IsCut (before ++ command :: after)
        (Command.totalLength before + (k + 1)) := by
      intro hcut
      exact absurd (Command.eq_zero_of_isCut hcut hk) (Nat.succ_ne_zero k)
    have hlt : Command.totalLength before + (k + 1) <
        Command.totalLength (before ++ command :: after) := by
      rw [Command.totalLength_append, Command.totalLength]
      omega
    constructor
    · exact h.shows_add_one hseamless hcut hlt
    · exact h.shows_of_add_one hfirst hseamless hcut
  have hall : ∀ k, k < command.length →
      (Shows pieces (Command.totalLength before + 0) ↔
        Shows pieces (Command.totalLength before + k)) := by
    intro k
    induction k with
    | zero =>
      intro _
      exact Iff.rfl
    | succ k ih =>
      intro hk
      exact (ih (by omega)).trans (hstep k hk)
  by_cases hshows : Shows pieces (Command.totalLength before + 0)
  · left
    intro k hk
    exact (hall k hk).1 hshows
  · right
    intro k hk hshown
    exact hshows ((hall k hk).2 hshown)

/-- A reply is whole exactly if it is seamless. -/
lemma Reads.isWhole_iff (h : Reads stored place pieces)
    (hfirst : ∀ piece, pieces.head? = some piece → Command.IsCut stored piece.place) :
    IsWhole stored pieces ↔ IsSeamless stored pieces := by
  constructor
  · exact h.isSeamless_of_isWhole
  · exact h.isWhole_of_isSeamless hfirst

/-! ## Seamless replies show stored commands -/

lemma bytes_cons (piece : Piece) (pieces : List Piece) :
    bytes (piece :: pieces) = piece.bytes ++ bytes pieces :=
  List.flatMap_cons

/-- After a piece, a seamless reply gives what is left of its command, and then only commands that come
after that one. -/
lemma Reads.exists_shown_after {before after : List Command} {command : Command} {skipped rest : Bytes}
    (h : Reads stored piece.stop pieces) (hseamless : IsSeamless stored (piece :: pieces))
    (hstored : stored = before ++ command :: after)
    (hwithin : piece.Within before command skipped rest) (hne : piece.bytes ≠ []) :
    ∃ shown, shown.Sublist after ∧ bytes pieces = rest ++ Command.concat shown := by
  induction pieces generalizing piece before command after skipped rest with
  | nil => exact absurd rfl h.ne_nil
  | cons next others ih =>
    obtain ⟨hjoins, hchain⟩ := List.isChain_cons_cons.1 hseamless
    have hrest_of_cut : Command.IsCut stored piece.stop → rest = [] := by
      intro hcut
      rw [hstored] at hcut
      exact hwithin.rest_eq_nil hne hcut
    cases h with
    | @finish _ there hle hbehind =>
      have hrest : rest = [] := by
        rcases hjoins with hplace | ⟨hcut, -⟩
        · -- the piece reaches to the end of the stream
          have hlength := hwithin.length_eq
          have hstop := hwithin.stop_eq
          have hthere : there = piece.stop := hplace
          rw [hstored, Command.totalLength_append, Command.totalLength] at hbehind
          exact List.length_eq_zero_iff.1 (by omega)
        · exact hrest_of_cut hcut
      exact ⟨[], List.nil_sublist after, by rw [hrest]; rfl⟩
    | next hle hpart hsome hothers =>
      obtain ⟨before', command', after', skipped', rest', hstored', hwithin'⟩ := hpart
      obtain ⟨shown, hshown, hbytes⟩ := ih hothers hchain hstored' hwithin' hsome
      rw [bytes_cons, hbytes]
      by_cases hrest : rest = []
      · -- the next piece begins another command
        subst hrest
        have hcut : Command.IsCut stored next.place := by
          rcases hjoins with hplace | ⟨-, hnil | hcut⟩
          · rw [hplace, hstored]
            exact hwithin.isCut_stop after
          · exact absurd hnil hsome
          · exact hcut
        rw [hstored'] at hcut
        have hskipped := hwithin'.skipped_eq_nil hsome hcut
        subst hskipped
        have hsuffix := hwithin.suffix_of_le hwithin' (hstored.symm.trans hstored') hle hsome
        refine ⟨command' :: shown, (hshown.cons_cons command').trans hsuffix.sublist, ?_⟩
        rw [Command.concat_cons, hwithin'.bytes_eq, List.nil_append, List.nil_append,
          List.append_assoc]
      · -- the next piece goes on with the same command
        have hplace : next.place = piece.stop :=
          hjoins.resolve_right fun hgap => hrest (hrest_of_cut hgap.1)
        obtain ⟨rfl, hrest_eq⟩ :=
          hwithin.rest_eq hwithin' (hstored.symm.trans hstored') hplace hrest hsome
        rw [hrest_eq]
        exact ⟨shown, hshown, (List.append_assoc _ _ _).symm⟩

/-- What a seamless reply shows are commands that were stored, in their order. -/
lemma Reads.exists_shown (h : Reads stored place pieces)
    (hfirst : ∀ piece, pieces.head? = some piece → Command.IsCut stored piece.place)
    (hseamless : IsSeamless stored pieces) :
    ∃ shown, shown.Sublist stored ∧ bytes pieces = Command.concat shown := by
  cases h with
  | finish => exact ⟨[], List.nil_sublist stored, rfl⟩
  | @next _ piece others _ hpart hne hothers =>
    obtain ⟨before, command, after, skipped, rest, hstored, hwithin⟩ := hpart
    obtain ⟨shown, hshown, hbytes⟩ := hothers.exists_shown_after hseamless hstored hwithin hne
    have hcut := hfirst piece rfl
    rw [hstored] at hcut
    have hskipped := hwithin.skipped_eq_nil hne hcut
    subst hskipped
    refine ⟨command :: shown, ?_, ?_⟩
    · rw [hstored]
      exact (hshown.cons_cons command).trans (List.sublist_append_right before _)
    · rw [bytes_cons, hbytes, Command.concat_cons, hwithin.bytes_eq, List.nil_append, List.append_assoc]

end Reply

end CommandLog
