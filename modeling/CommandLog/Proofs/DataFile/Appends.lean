import CommandLog.DataFile.Workspace
import CommandLog.Proofs.DataFile.Names

/-!
# Several data files on one path

Any number of data files may be open on one path at once, each with a `length` of its own and a
buffer of its own.  `Workspace.Shares` is what holds all the while, as long as nobody takes the file
away or replaces it: the path leads to one file, every data file appends to it and holds nothing
back, and every cursor reads from it.  `Workspace.Shares.step_cases` says all that an action can do
then.

The main result is `Workspace.contents_eq_appended`: the file is what it was before followed by all
that was appended, in order, through whichever data file; each data file's length is that of the
file when it was opened and of its own appends since; and a cursor reads what the file holds behind
its position at the time of the read.
-/

namespace CommandLog

namespace Workspace

/-- What an action appends, through whichever data file. -/
def Action.appended : Action → Bytes
  | .append _ data => data
  | _ => []

/-- What an action appends through the data file with this number. -/
def Action.appendedBy (file : Nat) : Action → Bytes
  | .append number data => if number = file then data else []
  | _ => []

/-- What a history appends, through whichever data file. -/
def appended (actions : List Action) : Bytes := actions.flatMap Action.appended

/-- What a history appends through the data file with this number. -/
def appendedBy (file : Nat) (actions : List Action) : Bytes :=
  actions.flatMap (Action.appendedBy file)

/-- Does an action open no other path than this one, and remove or replace nothing?  A data file that
is persistent may be closed. -/
def spares (workspace : Workspace) (path : Path) : Action → Bool
  | .openFile other => other = path
  | .close number => (workspace.file? number).all (·.persistent)
  | .put _ _ | .remove _ => false
  | _ => true

/-- Is that so for every action of a history? -/
def sparesAll (workspace : Workspace) (path : Path) : List Action → Bool
  | [] => true
  | action :: others =>
    workspace.spares path action &&
      match workspace.step action with
      | some (next, _) => next.sparesAll path others
      | none => true

/-- The path leads to one file with these bytes; all data files are open on it and hold nothing back,
and all cursors read from it. -/
structure Shares (path : Path) (number : Nat) (bytes : Bytes) (workspace : Workspace) : Prop where
  reading : workspace.fs.openForReading path = .ok (.file number)
  kept : number < workspace.fs.files.length
  bytes_eq : workspace.fs.bytes number = bytes
  file_eq : ∀ file, some file ∈ workspace.files →
    file.path = path ∧ file.number = number ∧ file.IsClear
  source_eq : ∀ cursor ∈ workspace.cursors, cursor.source = .file number

variable {workspace next last : Workspace} {path : Path} {number index : Nat} {bytes : Bytes}
  {action : Action} {answer : Answer}

/-! ## What one action does -/

lemma mem_files_of_file? {file : DataFile} (h : workspace.file? index = some file) :
    some file ∈ workspace.files := by
  rw [file?, Option.join_eq_some_iff] at h
  exact List.mem_of_getElem? h

lemma Shares.file (h : workspace.Shares path number bytes) {file : DataFile}
    (hfile : workspace.file? index = some file) :
    file.path = path ∧ file.number = number ∧ file.IsClear :=
  h.file_eq file (mem_files_of_file? hfile)

/-- One more data file on the path finds the file as it is. -/
lemma Shares.openFile (h : workspace.Shares path number bytes) :
    workspace.step (.openFile path) =
      some ({ workspace with
        files := workspace.files ++ [some ⟨path, number, bytes.length, false, [], []⟩] },
        .opened workspace.files.length bytes.length) := by
  simp only [step, DataFile.openAt, FileSystem.openForWriting_of_openForReading h.reading,
    ← FileSystem.length_bytes, h.bytes_eq]

/-- A cursor that is opened now begins at the start of the file. -/
lemma Shares.openCursor (h : workspace.Shares path number bytes) {file : DataFile}
    (hfile : workspace.file? index = some file) :
    workspace.step (.openCursor index) =
      some ({ workspace with cursors := workspace.cursors ++ [⟨.file number, 0⟩] },
        .made workspace.cursors.length) := by
  have hopen : FileCursor.openAt workspace.fs file.path = .ok ⟨.file number, 0⟩ := by
    rw [FileCursor.openAt, (h.file hfile).1, h.reading]
  simp only [step, Option.bind_eq_bind, hfile, Option.bind_some, hopen, Option.pure_def]

/-- A read gives the bytes behind the position of the cursor, as far as there is room. -/
lemma Shares.read (h : workspace.Shares path number bytes) {cursor : FileCursor}
    (hcursor : workspace.cursors[index]? = some cursor) (room : Nat) :
    workspace.step (.read index room) =
      some (workspace.place index
          { cursor with
            position := cursor.position + ((bytes.drop cursor.position).take room).length },
        .bytes ((bytes.drop cursor.position).take room)) := by
  have hsource := h.source_eq cursor (List.mem_of_getElem? hcursor)
  obtain ⟨source, position⟩ := cursor
  cases hsource
  simp only [step, Option.bind_eq_bind, hcursor, Option.bind_some, FileCursor.read_file, h.bytes_eq,
    Option.pure_def]

lemma Shares.readToEnd (h : workspace.Shares path number bytes) {cursor : FileCursor}
    (hcursor : workspace.cursors[index]? = some cursor) :
    workspace.step (.readToEnd index) =
      some (workspace.place index
          { cursor with position := cursor.position + (bytes.drop cursor.position).length },
        .bytes (bytes.drop cursor.position)) := by
  have hsource := h.source_eq cursor (List.mem_of_getElem? hcursor)
  obtain ⟨source, position⟩ := cursor
  cases hsource
  simp only [step, Option.bind_eq_bind, hcursor, Option.bind_some, FileCursor.readToEnd_file,
    h.bytes_eq, Option.pure_def]

/-- All that an action can do to a workspace whose data files share a file. -/
inductive Move (path : Path) (number : Nat) (bytes : Bytes) (workspace : Workspace) :
    Action → Workspace → Answer → Prop where
  | opens :
    Move path number bytes workspace (.openFile path)
      { workspace with
        files := workspace.files ++ [some ⟨path, number, bytes.length, false, [], []⟩] }
      (.opened workspace.files.length bytes.length)
  | appends {place : Nat} {data : Bytes} {file : DataFile}
    (hfile : workspace.file? place = some file) :
    Move path number bytes workspace (.append place data)
      (({ workspace with fs := workspace.fs.append number data }).setFile place
        (some { file with length := file.length + data.length, held := [] }))
      (.length (file.length + data.length))
  /-- A data file is forgotten, or is to outlive its closing or not. -/
  | alters {action : Action} {place : Nat} {file : DataFile} {altered : Option DataFile}
    {answer : Answer} (hquiet : action.appended = [])
    (hfile : workspace.file? place = some file)
    (haltered : ∀ other, altered = some other → ∃ persistent, other = file.persist persistent) :
    Move path number bytes workspace action (workspace.setFile place altered) answer
  /-- The data files stay as they are, and the file that they share stays where it is. -/
  | keeps {action : Action} {next : Workspace} {answer : Answer} (hquiet : action.appended = [])
    (hfiles : next.files = workspace.files)
    (hfs : next.fs = workspace.fs ∨
      ∃ directory, workspace.fs.makeDirectory directory = .ok next.fs)
    (hcursors : ∀ cursor ∈ next.cursors, cursor.source = .file number) :
    Move path number bytes workspace action next answer

/-- A cursor that only moves still reads from the file. -/
lemma Shares.place (h : workspace.Shares path number bytes) {cursor : FileCursor}
    (hcursor : workspace.cursors[index]? = some cursor) (position : Nat) :
    ∀ other ∈ (workspace.place index { cursor with position }).cursors,
      other.source = .file number := by
  intro other hother
  rcases List.mem_or_eq_of_mem_set hother with hmem | rfl
  · exact h.source_eq other hmem
  · exact h.source_eq cursor (List.mem_of_getElem? hcursor)

lemma Shares.move (h : workspace.Shares path number bytes)
    (hspares : workspace.spares path action = true)
    (hstep : workspace.step action = some (next, answer)) :
    Move path number bytes workspace action next answer := by
  cases action with
  | openFile other =>
    cases of_decide_eq_true hspares
    rw [h.openFile] at hstep
    cases hstep
    exact .opens
  | persist place persistent =>
    simp only [step, Option.bind_eq_bind, Option.bind_eq_some_iff] at hstep
    obtain ⟨file, hfile, hstep⟩ := hstep
    cases hstep
    exact .alters rfl hfile fun other hother => ⟨persistent, (Option.some.inj hother).symm⟩
  | forget place =>
    simp only [step, Option.bind_eq_bind, Option.bind_eq_some_iff] at hstep
    obtain ⟨file, hfile, hstep⟩ := hstep
    cases hstep
    exact .alters rfl hfile fun other hother => nomatch hother
  | append place data =>
    simp only [step, Option.bind_eq_bind, Option.bind_eq_some_iff] at hstep
    obtain ⟨file, hfile, hstep⟩ := hstep
    obtain ⟨-, hnumber, hclear⟩ := h.file hfile
    rw [DataFile.append_eq hclear.setbacks_eq, hnumber, hclear.held_eq, List.nil_append] at hstep
    cases hstep
    rw [← hnumber]
    exact .appends hfile
  | close place =>
    simp only [step, Option.bind_eq_bind, Option.bind_eq_some_iff] at hstep
    obtain ⟨file, hfile, hstep⟩ := hstep
    have hpersistent : file.persistent = true := by
      rw [spares, hfile] at hspares
      exact hspares
    rw [(h.file hfile).2.2.close_eq, if_pos hpersistent] at hstep
    cases hstep
    exact .alters rfl hfile fun other hother =>
      ⟨file.persistent, (Option.some.inj hother).symm⟩
  | openCursor place =>
    have hmade := hstep
    simp only [step, Option.bind_eq_bind, Option.bind_eq_some_iff] at hmade
    obtain ⟨file, hfile, -⟩ := hmade
    rw [h.openCursor hfile] at hstep
    cases hstep
    refine .keeps rfl rfl (.inl rfl) fun cursor hcursor => ?_
    rcases List.mem_append.1 hcursor with hmem | hnew
    · exact h.source_eq cursor hmem
    · rw [List.mem_singleton.1 hnew]
  | seekTo place cursor command offset =>
    simp only [step, Option.bind_eq_bind, Option.bind_eq_some_iff] at hstep
    obtain ⟨file, -, at_, -, hstep⟩ := hstep
    cases hstep
    exact .keeps rfl rfl (.inl rfl) h.source_eq
  | read cursor room =>
    have hread := hstep
    simp only [step, Option.bind_eq_bind, Option.bind_eq_some_iff] at hread
    obtain ⟨at_, hat, -⟩ := hread
    rw [h.read hat] at hstep
    cases hstep
    exact .keeps rfl rfl (.inl rfl) (h.place hat _)
  | readToEnd cursor =>
    have hread := hstep
    simp only [step, Option.bind_eq_bind, Option.bind_eq_some_iff] at hread
    obtain ⟨at_, hat, -⟩ := hread
    rw [h.readToEnd hat] at hstep
    cases hstep
    exact .keeps rfl rfl (.inl rfl) (h.place hat _)
  | seek cursor whence =>
    simp only [step, Option.bind_eq_bind, Option.bind_eq_some_iff] at hstep
    obtain ⟨at_, hat, hstep⟩ := hstep
    unfold FileCursor.seek at hstep
    dsimp only at hstep
    split at hstep
    · next moved hseek =>
      cases hstep
      split at hseek
      · cases hseek
        exact .keeps rfl rfl (.inl rfl) (h.place hat _)
      · cases hseek
    · cases hstep
      exact .keeps rfl rfl (.inl rfl) h.source_eq
  | put other data => cases hspares
  | makeDirectory directory =>
    replace hstep : some (workspace.adopt (workspace.fs.makeDirectory directory)) =
      some (next, answer) := hstep
    unfold adopt at hstep
    split at hstep
    · next after hmade =>
      cases hstep
      exact .keeps rfl rfl (.inr ⟨directory, hmade⟩) h.source_eq
    · cases hstep
      exact .keeps rfl rfl (.inl rfl) h.source_eq
  | remove other => cases hspares

/-! ## What stays -/

lemma appendedBy_eq_nil (h : action.appended = []) (file : Nat) :
    action.appendedBy file = [] := by
  cases action with
  | append place data =>
    show (if place = file then data else []) = []
    rw [show data = [] from h, ite_self]
  | _ => rfl

/-- Every data file of a workspace after one of them was replaced was there before, or replaces it. -/
lemma mem_files_setFile {place : Nat} {altered file : Option DataFile}
    (h : file ∈ (workspace.setFile place altered).files) :
    file ∈ workspace.files ∨ file = altered :=
  List.mem_or_eq_of_mem_set h

/-- An action adds to the shared file what it appends, and otherwise keeps it. -/
lemma Move.shares (hmove : Move path number bytes workspace action next answer)
    (h : workspace.Shares path number bytes) :
    next.Shares path number (bytes ++ action.appended) := by
  cases hmove with
  | opens =>
    rw [show (Action.openFile path).appended = [] from rfl, List.append_nil]
    refine { h with file_eq := fun file hfile => ?_ }
    rcases List.mem_append.1 hfile with hmem | hnew
    · exact h.file_eq file hmem
    · cases List.mem_singleton.1 hnew
      exact ⟨rfl, rfl, ⟨rfl, rfl⟩⟩
  | appends hfile =>
    next place data file =>
    obtain ⟨hpath, hnumber, hclear⟩ := h.file hfile
    exact {
      reading := (FileSystem.openForReading_append _ number data path).trans h.reading
      kept := by
        show number < (workspace.fs.files.modify number _).length
        rw [List.length_modify]
        exact h.kept
      bytes_eq := by
        show (workspace.fs.append number data).bytes number = _
        rw [FileSystem.bytes_append _ _ _ _ h.kept, if_pos rfl, h.bytes_eq]
        rfl
      file_eq := fun other hother => by
        rcases mem_files_setFile hother with hmem | hnew
        · exact h.file_eq other hmem
        · cases hnew
          exact ⟨hpath, hnumber, ⟨rfl, hclear.setbacks_eq⟩⟩
      source_eq := h.source_eq }
  | alters hquiet hfile haltered =>
    rw [hquiet, List.append_nil]
    refine { h with file_eq := fun other hother => ?_ }
    rcases mem_files_setFile hother with hmem | hnew
    · exact h.file_eq other hmem
    · obtain ⟨persistent, rfl⟩ := haltered other hnew.symm
      obtain ⟨hpath, hnumber, hclear⟩ := h.file hfile
      exact ⟨hpath, hnumber, hclear.persist persistent⟩
  | keeps hquiet hfiles hfs hcursors =>
    rw [hquiet, List.append_nil]
    rcases hfs with hfs | ⟨directory, hmade⟩
    · exact ⟨hfs ▸ h.reading, hfs ▸ h.kept, hfs ▸ h.bytes_eq, hfiles ▸ h.file_eq, hcursors⟩
    · obtain ⟨location, hnames⟩ := FileSystem.makeDirectory_eq_ok hmade
      refine ⟨FileSystem.openForReading_makeDirectory hmade h.reading, ?_, ?_,
        hfiles ▸ h.file_eq, hcursors⟩
      · rw [hnames]
        exact h.kept
      · rw [hnames]
        exact h.bytes_eq

lemma lt_of_file? {file : DataFile} (h : workspace.file? index = some file) :
    index < workspace.files.length := by
  rw [file?, Option.join_eq_some_iff] at h
  exact (List.getElem?_eq_some_iff.1 h).1

lemma file?_setFile {place : Nat} {altered : Option DataFile} {file : DataFile}
    (h : workspace.file? place = some file) :
    (workspace.setFile place altered).file? index =
      if place = index then altered else workspace.file? index := by
  rw [file?, setFile, List.getElem?_set, if_pos (lt_of_file? h)]
  split
  · rfl
  · rfl

/-- A data file that was there before an action has become longer by what was appended through it. -/
lemma Move.length_eq (hmove : Move path number bytes workspace action next answer)
    (hindex : index < workspace.files.length) {file : DataFile}
    (hfile : next.file? index = some file) :
    ∃ before, workspace.file? index = some before ∧
      file.length = before.length + (action.appendedBy index).length := by
  cases hmove with
  | opens =>
    rw [file?, List.getElem?_append_left hindex] at hfile
    exact ⟨file, hfile, rfl⟩
  | appends hold =>
    next place data old =>
    replace hold : ({ workspace with fs := workspace.fs.append number data } : Workspace).file? place =
        some old := hold
    rw [file?_setFile hold] at hfile
    split at hfile
    · next heq =>
      subst heq
      cases hfile
      exact ⟨old, hold, by rw [Action.appendedBy, if_pos rfl]⟩
    · next hne => exact ⟨file, hfile, by rw [Action.appendedBy, if_neg hne]; rfl⟩
  | alters hquiet hold haltered =>
    next place old altered =>
    rw [appendedBy_eq_nil hquiet]
    rw [file?_setFile hold] at hfile
    split at hfile
    · next heq =>
      subst heq
      obtain ⟨persistent, rfl⟩ := haltered file hfile
      exact ⟨old, hold, rfl⟩
    · exact ⟨file, hfile, rfl⟩
  | keeps hquiet hfiles hfs hcursors =>
    rw [appendedBy_eq_nil hquiet]
    rw [file?, hfiles] at hfile
    exact ⟨file, hfile, rfl⟩

/-- No number of a data file is given away. -/
lemma Move.length_files_le (hmove : Move path number bytes workspace action next answer) :
    workspace.files.length ≤ next.files.length := by
  cases hmove with
  | opens =>
    rw [List.length_append]
    exact Nat.le_add_right _ _
  | appends => exact Nat.le_of_eq List.length_set.symm
  | alters => exact Nat.le_of_eq List.length_set.symm
  | keeps _ hfiles => exact Nat.le_of_eq (congrArg List.length hfiles).symm

/-! ## Histories -/

variable {actions others earlier later : List Action} {answers : List Answer}

lemma appended_nil : appended [] = [] := rfl

lemma appended_cons : appended (action :: others) = action.appended ++ appended others :=
  List.flatMap_cons

lemma appended_openFile : appended (.openFile path :: others) = appended others := rfl

lemma appended_append : appended (earlier ++ later) = appended earlier ++ appended later :=
  List.flatMap_append

lemma appendedBy_cons :
    appendedBy index (action :: others) = action.appendedBy index ++ appendedBy index others :=
  List.flatMap_cons

/-- An action appends as much through one data file as through all, unless it appends through
another one. -/
lemma Action.length_appendedBy (index : Nat) (action : Action) :
    (action.appendedBy index).length ≤ action.appended.length ∧
      ((action.appendedBy index).length = action.appended.length ↔
        ∀ place data, action = .append place data → place ≠ index → data = []) := by
  cases action with
  | append place data =>
    simp only [appendedBy, appended, Action.append.injEq]
    by_cases hplace : place = index
    · rw [if_pos hplace]
      refine ⟨Nat.le_refl _, fun _ other bytes hsame hne => ?_, fun _ => rfl⟩
      exact absurd (hsame.1.symm.trans hplace) hne
    · rw [if_neg hplace]
      refine ⟨Nat.zero_le _, ?_, fun hsilent => ?_⟩
      · rintro hlength _ _ ⟨rfl, rfl⟩ _
        exact List.length_eq_zero_iff.1 hlength.symm
      · rw [hsilent place data ⟨rfl, rfl⟩ hplace]
  | _ => exact ⟨Nat.le_refl _, fun _ _ _ hsame => (nomatch hsame), fun _ => rfl⟩

/-- Through one data file no more is appended than through all together, and as much exactly if the
others append no byte. -/
lemma length_appendedBy (index : Nat) (actions : List Action) :
    (appendedBy index actions).length ≤ (appended actions).length ∧
      ((appendedBy index actions).length = (appended actions).length ↔
        ∀ place data, .append place data ∈ actions → place ≠ index → data = []) := by
  induction actions with
  | nil => exact ⟨Nat.le_refl _, fun _ _ _ hmem => (nomatch hmem), fun _ => rfl⟩
  | cons action others ih =>
    obtain ⟨hle, hiff⟩ := action.length_appendedBy index
    obtain ⟨hles, hiffs⟩ := ih
    rw [appendedBy_cons, appended_cons, List.length_append, List.length_append]
    refine ⟨Nat.add_le_add hle hles, fun heq place data hmem hne => ?_, fun hsilent => ?_⟩
    · rcases List.mem_cons.1 hmem with hfirst | hother
      · exact hiff.1 (by omega) place data hfirst.symm hne
      · exact hiffs.1 (by omega) place data hother hne
    · have hfirst := hiff.2 fun place data hsame =>
        hsilent place data (List.mem_cons.2 (.inl hsame.symm))
      have hothers := hiffs.2 fun place data hmem =>
        hsilent place data (List.mem_cons_of_mem _ hmem)
      rw [hfirst, hothers]

lemma stepAll_cons_eq_some (h : workspace.stepAll (action :: others) = some (last, answers)) :
    ∃ next answer rest, workspace.step action = some (next, answer) ∧
      next.stepAll others = some (last, rest) ∧ answers = answer :: rest := by
  simp only [stepAll, Option.bind_eq_bind, Option.bind_eq_some_iff] at h
  obtain ⟨⟨next, answer⟩, hstep, ⟨last', rest⟩, hrest, h⟩ := h
  cases h
  exact ⟨next, answer, rest, hstep, hrest, rfl⟩

lemma stepAll_append_eq_some (h : workspace.stepAll (earlier ++ later) = some (last, answers)) :
    ∃ mid first rest, workspace.stepAll earlier = some (mid, first) ∧
      mid.stepAll later = some (last, rest) ∧ first.length = earlier.length ∧
      answers = first ++ rest := by
  induction earlier generalizing workspace answers with
  | nil => exact ⟨workspace, [], answers, rfl, h, rfl, rfl⟩
  | cons action others ih =>
    obtain ⟨next, answer, tail, hstep, htail, rfl⟩ := stepAll_cons_eq_some h
    obtain ⟨mid, first, rest, hfirst, hrest, hlength, rfl⟩ := ih htail
    refine ⟨mid, answer :: first, rest, ?_, hrest, ?_, rfl⟩
    · simp only [stepAll, hstep, hfirst, Option.bind_eq_bind, Option.bind_some, Option.pure_def]
    · rw [List.length_cons, List.length_cons, hlength]

lemma sparesAll_cons (h : workspace.sparesAll path (action :: others) = true)
    (hstep : workspace.step action = some (next, answer)) :
    workspace.spares path action = true ∧ next.sparesAll path others = true := by
  simpa only [sparesAll, hstep, Bool.and_eq_true] using h

lemma sparesAll_append (h : workspace.sparesAll path (earlier ++ later) = true)
    (hsteps : workspace.stepAll earlier = some (next, answers)) :
    workspace.sparesAll path earlier = true ∧ next.sparesAll path later = true := by
  induction earlier generalizing workspace answers with
  | nil =>
    cases hsteps
    exact ⟨rfl, h⟩
  | cons action others ih =>
    obtain ⟨mid, answer, rest, hstep, hrest, rfl⟩ := stepAll_cons_eq_some hsteps
    obtain ⟨hfirst, htail⟩ := sparesAll_cons h hstep
    obtain ⟨hothers, hlater⟩ := ih htail hrest
    refine ⟨?_, hlater⟩
    simp only [sparesAll, hstep, hfirst, hothers, Bool.and_self]

/-- A history that spares the shared file adds to it what it appends; every data file becomes longer
by what is appended through it. -/
lemma Shares.stepAll (h : workspace.Shares path number bytes)
    (hspares : workspace.sparesAll path actions = true)
    (hsteps : workspace.stepAll actions = some (last, answers)) :
    last.Shares path number (bytes ++ appended actions) ∧
      ∀ index < workspace.files.length, ∀ file, last.file? index = some file →
        ∃ before, workspace.file? index = some before ∧
          file.length = before.length + (appendedBy index actions).length := by
  induction actions generalizing workspace bytes answers with
  | nil =>
    cases hsteps
    rw [appended_nil, List.append_nil]
    exact ⟨h, fun index _ file hfile => ⟨file, hfile, rfl⟩⟩
  | cons action others ih =>
    obtain ⟨next, answer, rest, hstep, hrest, rfl⟩ := stepAll_cons_eq_some hsteps
    obtain ⟨hfirst, hothers⟩ := sparesAll_cons hspares hstep
    have hmove := h.move hfirst hstep
    obtain ⟨hlast, hlengths⟩ := ih (hmove.shares h) hothers hrest
    rw [appended_cons, ← List.append_assoc]
    refine ⟨hlast, fun index hindex file hfile => ?_⟩
    -- what the file was before the others, and before the first action
    have hthere : index < next.files.length := Nat.lt_of_lt_of_le hindex hmove.length_files_le
    obtain ⟨mid, hmid, hlength⟩ := hlengths index hthere file hfile
    obtain ⟨before, hbefore, hgrown⟩ := hmove.length_eq hindex hmid
    refine ⟨before, hbefore, ?_⟩
    rw [hlength, hgrown, appendedBy_cons, List.length_append, Nat.add_assoc]

/-- A data file that is as long as the file at first has as many bytes as were there then and were
appended through it.  These are all bytes of the file exactly if nobody else appended any. -/
lemma Shares.length_eq (h : workspace.Shares path number bytes)
    (hspares : workspace.sparesAll path actions = true)
    (hsteps : workspace.stepAll actions = some (last, answers)) {opened file : DataFile}
    (hopened : workspace.file? index = some opened) (hlength : opened.length = bytes.length)
    (hfile : last.file? index = some file) :
    file.length = bytes.length + (appendedBy index actions).length ∧
      file.length ≤ (bytes ++ appended actions).length ∧
      (file.length = (bytes ++ appended actions).length ↔
        ∀ place data, .append place data ∈ actions → place ≠ index → data = []) := by
  obtain ⟨before, hbefore, hgrown⟩ :=
    (h.stepAll hspares hsteps).2 index (lt_of_file? hopened) file hfile
  cases hopened.symm.trans hbefore
  rw [hlength] at hgrown
  obtain ⟨hle, hiff⟩ := length_appendedBy index actions
  rw [List.length_append, ← hiff]
  omega

/-- The first data file that is opened on a path. -/
lemma shares_of_openAt {fs host : FileSystem} {file : DataFile} (hfs : fs.WellFormed)
    (hopen : DataFile.openAt fs path = .ok (host, file)) :
    ∃ number, (⟨host, [some file], []⟩ : Workspace).Shares path number
        ((fs.contents? path).getD []) ∧
      file.length = ((fs.contents? path).getD []).length := by
  obtain ⟨hholds, hpath, hlength⟩ := HostedFile.holds_openAt hfs hopen false
  refine ⟨file.number, ⟨?_, hholds.kept, hholds.bytes_eq, ?_, fun _ hnone => nomatch hnone⟩,
    hlength⟩
  · rw [← hpath]
    exact hholds.reading
  · intro other hother
    cases List.mem_singleton.1 hother
    exact ⟨hpath, rfl, ⟨hholds.clear.held_eq, hholds.clear.setbacks_eq⟩⟩

/-- Any number of data files are opened on one path at any times, and used in any order, while nobody
takes the file away or replaces it.  The file then is what it was before the first of them was
opened, followed by all that was appended, in the order of the appends and whole.  The length of each
data file is that of the file when it was opened, with what was appended through it since; it is never
more than that of the file, and as much exactly if nobody else has appended a byte since.  A cursor
that is opened begins at the start, and a cursor at any position reads what the file holds behind that
position now. -/
theorem contents_eq_appended {fs host : FileSystem} {first : DataFile} (hfs : fs.WellFormed)
    (hopen : DataFile.openAt fs path = .ok (host, first))
    (hspares : (ofFileSystem fs).sparesAll path (.openFile path :: others) = true)
    (hsteps : (ofFileSystem fs).stepAll (.openFile path :: others) = some (last, answers)) :
    let before := (fs.contents? path).getD []
    let bytes := before ++ appended others
    last.fs.contents? path = some bytes ∧
    (∀ earlier later, .openFile path :: others = earlier ++ .openFile path :: later →
      ∃ index, answers[earlier.length]? =
          some (.opened index (before ++ appended earlier).length) ∧
        ∀ file, last.file? index = some file →
          file.length = (before ++ appended earlier).length + (appendedBy index later).length ∧
          file.length ≤ bytes.length ∧
          (file.length = bytes.length ↔
            ∀ place data, .append place data ∈ later → place ≠ index → data = [])) ∧
    (∀ index file, last.file? index = some file →
      ∃ cursor : FileCursor, cursor.position = 0 ∧
        last.step (.openCursor index) =
          some ({ last with cursors := last.cursors ++ [cursor] }, .made last.cursors.length)) ∧
    ∀ index cursor, last.cursors[index]? = some cursor →
      (∀ room, (last.step (.read index room)).map (·.2) =
        some (.bytes ((bytes.drop cursor.position).take room))) ∧
      (last.step (.readToEnd index)).map (·.2) = some (.bytes (bytes.drop cursor.position)) := by
  intro before bytes
  obtain ⟨number, hfirst, hlength⟩ := shares_of_openAt hfs hopen
  obtain ⟨next, answer, rest, hstep, hrest, rfl⟩ := stepAll_cons_eq_some hsteps
  have hothers := (sparesAll_cons hspares hstep).2
  replace hstep : (⟨host, [some first], []⟩, .opened 0 first.length) = (next, answer) := by
    rw [step, ofFileSystem] at hstep
    simp only [hopen] at hstep
    exact Option.some.inj hstep
  cases hstep
  have hlast := (hfirst.stepAll hothers hrest).1
  refine ⟨?_, ?_, ?_, ?_⟩
  · rw [FileSystem.contents?, hlast.reading]
    exact congrArg some hlast.bytes_eq
  · intro earlier later hparts
    cases earlier with
    | nil =>
      -- the data file that was opened first
      cases hparts
      refine ⟨0, ?_, fun file hfile => ?_⟩
      · rw [appended_nil, List.append_nil, ← hlength]
        rfl
      · rw [appended_nil, List.append_nil]
        exact hfirst.length_eq hothers hrest rfl hlength hfile
    | cons action earlier =>
      rw [List.cons_append, List.cons.injEq] at hparts
      obtain ⟨rfl, rfl⟩ := hparts
      obtain ⟨mid, early, late, hearly, hlate, hcount, rfl⟩ := stepAll_append_eq_some hrest
      obtain ⟨hspared, hlater⟩ := sparesAll_append hothers hearly
      have hmid := (hfirst.stepAll hspared hearly).1
      obtain ⟨after, answer, rest, hstep, hsteps', rfl⟩ := stepAll_cons_eq_some hlate
      obtain ⟨hopens, hspared⟩ := sparesAll_cons hlater hstep
      have hafter := (hmid.move hopens hstep).shares hmid
      rw [hmid.openFile] at hstep
      cases hstep
      rw [show (Action.openFile path).appended = [] from rfl, List.append_nil] at hafter
      refine ⟨mid.files.length, ?_, fun file hfile => ?_⟩
      · rw [List.length_cons, List.getElem?_cons_succ, ← hcount, List.getElem?_append_right
          (Nat.le_refl _), Nat.sub_self]
        rfl
      · have hnew := @List.getElem?_concat_length _ mid.files
          (some ⟨path, number, (before ++ appended earlier).length, false, [], []⟩)
        have hparts : bytes = before ++ appended earlier ++ appended later := by
          show before ++ appended (earlier ++ .openFile path :: later) = _
          rw [appended_append, appended_openFile, List.append_assoc]
        rw [hparts, appended_openFile]
        exact hafter.length_eq hspared hsteps' (congrArg Option.join hnew) rfl hfile
  · intro index file hfile
    exact ⟨⟨.file number, 0⟩, rfl, hlast.openCursor hfile⟩
  · intro index cursor hcursor
    refine ⟨fun room => ?_, ?_⟩
    · rw [hlast.read hcursor, Option.map_some]
    · rw [hlast.readToEnd hcursor, Option.map_some]

/-- On a file that holds a line already, two data files append a line each, in turn with a cursor that
was opened before; it reads both. -/
theorem contents_eq_appended_two :
    ∃ last answers,
      (ofFileSystem ⟨[(["log"], .file 0)], [.ofBytes [120, 10]], []⟩).stepAll
        [.openFile (.ofString "/log"), .openCursor 0, .openFile (.ofString "/log"),
          .append 1 [97, 10], .append 0 [98, 10], .persist 0 true, .close 0] =
        some (last, answers) ∧
      last.fs.contents? (.ofString "/log") = some [120, 10, 97, 10, 98, 10] ∧
      (last.step (.readToEnd 0)).map (·.2) = some (.bytes [120, 10, 97, 10, 98, 10]) := by
  have hfs : (⟨[(["log"], .file 0)], [.ofBytes [120, 10]], []⟩ : FileSystem).WellFormed := by
    apply FileSystem.wellFormed_of_nodes
    intro entry hentry number hfile
    cases List.mem_singleton.1 hentry
    cases hfile
    exact Nat.one_pos
  obtain ⟨last, answers, hsteps, hcursor⟩ : ∃ last answers,
      (ofFileSystem ⟨[(["log"], .file 0)], [.ofBytes [120, 10]], []⟩).stepAll
        [.openFile (.ofString "/log"), .openCursor 0, .openFile (.ofString "/log"),
          .append 1 [97, 10], .append 0 [98, 10], .persist 0 true, .close 0] =
        some (last, answers) ∧ last.cursors[0]? = some ⟨.file 0, 0⟩ :=
    ⟨_, _, rfl, rfl⟩
  obtain ⟨hcontents, -, -, hcursors⟩ := contents_eq_appended hfs rfl rfl hsteps
  exact ⟨last, answers, hsteps, hcontents, (hcursors 0 _ hcursor).2⟩

end Workspace

end CommandLog
