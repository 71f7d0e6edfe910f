import Mathlib.Data.List.InsertIdx

/-!
# The line editor of the CLI

`read_input` reads one command line in raw terminal mode: it keeps an input buffer, a cursor
and a position in the command history, and after each key it redraws the part of the buffer
that fits in the terminal next to the prompt. `poll_for_user_input` calls it with the prompt
`"> "` and keeps the history across calls.

A `String` is its list of characters, and positions in it are counted in characters. The code
counts byte offsets, which are the same on an ASCII line; the buffer and the history stay
ASCII in the CLI, since `poll_for_user_input` starts the history empty and `read_input`
drops every key that is not ASCII (`inputLoop_ascii`, `pollForUserInput_ascii`). The
terminal's width is read once per call. Terminal I/O and its errors are left out; a Rust
panic (an index out of range, a slice whose start is past its end) is an outcome of the model.

The cursor stays within the buffer and the history position within the history for every
terminal width (`inputLoop_wellFormed`), and the window is a valid slice whenever the
terminal is wider than the prompt (`inputLoop_ne_panicked`). With a width of at most two
columns the first redrawn key panics, and every empty line adds an entry to the history that
nothing removes (`read_input_boundaries`).
-/

namespace YuvLdkSample

/-- The key codes `read_input` reacts to; any other key only triggers a redraw. -/
inductive KeyCode
  | char (c : Char)
  | left
  | right
  | backspace
  | up
  | down
  | enter
  | other
  deriving DecidableEq, Repr

/-- A key event; `control` is `modifiers == KeyModifiers::CONTROL`. -/
structure KeyEvent where
  code : KeyCode
  control : Bool
  deriving DecidableEq, Repr

/-- What `crossterm::event::read` returns: a key event, or anything else, which is ignored. -/
inductive TermEvent
  | key (keyEvent : KeyEvent)
  | other
  deriving DecidableEq, Repr

/-- The local state of `read_input` and the history it edits. -/
structure Editor where
  inputBuffer : List Char
  cursorPosition : Nat
  historyPosition : Nat
  commandsHistory : List (List Char)
  deriving DecidableEq, Repr

/-- The state at the top of the loop: `commands_history.insert(0, String::new())`. -/
def Editor.start (commandsHistory : List (List Char)) : Editor :=
  ⟨[], 0, 0, [] :: commandsHistory⟩

/-- `commands_history[0] = entry`, `none` when the index panics. -/
def setFirst (commandsHistory : List (List Char)) (entry : List Char) :
    Option (List (List Char)) :=
  match commandsHistory with
  | [] => none
  | _ :: older => some (entry :: older)

/-- How the loop body goes on after a key. -/
inductive KeyOutcome
  /-- The body falls through to the redraw. -/
  | redraw (editor : Editor)
  /-- `continue`: no redraw. -/
  | skip (editor : Editor)
  /-- `break`, with the line (`None` for Ctrl-D and Ctrl-C) and the history. -/
  | finish (line : Option (List Char)) (commandsHistory : List (List Char))
  deriving DecidableEq, Repr

/-- The `match key_event.code` of `read_input`; `none` when an index or a string offset is out
of range and the code panics. Positions count characters, which on the ASCII lines of the CLI
are the byte offsets `String::insert`, `String::remove` and `len()` take. -/
def handleKey (editor : Editor) (keyEvent : KeyEvent) : Option KeyOutcome :=
  match keyEvent.code with
  | .char c =>
    if (c = 'd' ∨ c = 'c') ∧ keyEvent.control = true then some (.finish none editor.commandsHistory)
    else if c.toNat < 128 then
      if editor.cursorPosition ≤ editor.inputBuffer.length then
        let inputBuffer := editor.inputBuffer.insertIdx editor.cursorPosition c
        (setFirst editor.commandsHistory inputBuffer).map fun commandsHistory =>
          .redraw ⟨inputBuffer, editor.cursorPosition + 1, 0, commandsHistory⟩
      else none
    else some (.skip { editor with historyPosition := 0 })
  | .left =>
    if editor.cursorPosition > 0 then
      some (.redraw { editor with cursorPosition := editor.cursorPosition - 1 })
    else some (.redraw editor)
  | .right =>
    if editor.cursorPosition < editor.inputBuffer.length then
      some (.redraw { editor with cursorPosition := editor.cursorPosition + 1 })
    else some (.redraw editor)
  | .backspace =>
    let (inputBuffer, cursorPosition) :=
      if editor.cursorPosition > 0 then
        (editor.inputBuffer.eraseIdx (editor.cursorPosition - 1), editor.cursorPosition - 1)
      else (editor.inputBuffer, editor.cursorPosition)
    if editor.cursorPosition > 0 ∧ editor.inputBuffer.length < editor.cursorPosition then none
    else
      (setFirst editor.commandsHistory inputBuffer).map fun commandsHistory =>
        .redraw ⟨inputBuffer, cursorPosition, 0, commandsHistory⟩
  | .up =>
    if editor.historyPosition > 50 ∨ editor.historyPosition ≥ editor.commandsHistory.length - 1 then
      some (.skip editor)
    else
      (editor.commandsHistory.get? (editor.historyPosition + 1)).map fun inputBuffer =>
        .redraw ⟨inputBuffer, inputBuffer.length, editor.historyPosition + 1, editor.commandsHistory⟩
  | .down =>
    if editor.historyPosition = 0 then some (.skip editor)
    else
      (editor.commandsHistory.get? (editor.historyPosition - 1)).map fun inputBuffer =>
        .redraw ⟨inputBuffer, inputBuffer.length, editor.historyPosition - 1, editor.commandsHistory⟩
  | .enter =>
    if editor.inputBuffer.isEmpty then some (.finish (some editor.inputBuffer) editor.commandsHistory)
    else
      (setFirst editor.commandsHistory editor.inputBuffer).map fun commandsHistory =>
        .finish (some editor.inputBuffer)
          (if commandsHistory.length > 50 then commandsHistory.dropLast else commandsHistory)
  | .other => some (.redraw editor)

/-- The part of the buffer the redraw prints: `input_buffer[start_pos..end_pos]`. -/
def visibleWindow (termWidth prefixSize cursorPosition bufferLength : Nat) : Nat × Nat :=
  let visibleWidth := termWidth - prefixSize
  let startPos := if cursorPosition ≥ visibleWidth then cursorPosition + 1 - visibleWidth else 0
  (startPos, min bufferLength (startPos + visibleWidth))

/-- Whether the slice of the redraw is in range; Rust panics when it is not. -/
def windowFits (termWidth prefixSize : Nat) (editor : Editor) : Bool :=
  let (startPos, endPos) :=
    visibleWindow termWidth prefixSize editor.cursorPosition editor.inputBuffer.length
  startPos ≤ endPos && endPos ≤ editor.inputBuffer.length

/-- How a call of `read_input` ends on a finite list of terminal events. -/
inductive InputOutcome
  /-- `Ok(result)`, with the history the call leaves. -/
  | returned (line : Option (List Char)) (commandsHistory : List (List Char))
  | panicked
  /-- The events ran out while the editor waits for the next one. -/
  | reading (editor : Editor)
  deriving DecidableEq, Repr

/-- The `loop` of `read_input`, one terminal event at a time. -/
def inputLoop (termWidth prefixSize : Nat) : Editor → List TermEvent → InputOutcome
  | editor, [] => .reading editor
  | editor, .other :: more => inputLoop termWidth prefixSize editor more
  | editor, .key keyEvent :: more =>
    match handleKey editor keyEvent with
    | none => .panicked
    | some (.finish line commandsHistory) => .returned line commandsHistory
    | some (.skip editor') => inputLoop termWidth prefixSize editor' more
    | some (.redraw editor') =>
      if windowFits termWidth prefixSize editor' then inputLoop termWidth prefixSize editor' more
      else .panicked

/-- `read_input(prefix, commands_history)` on a terminal `termWidth` columns wide. -/
def readInput (pfx : List Char) (termWidth : Nat) (commandsHistory : List (List Char))
    (events : List TermEvent) : InputOutcome :=
  inputLoop termWidth pfx.length (Editor.start commandsHistory) events

/-- The prompt `poll_for_user_input` passes. -/
def prompt : List Char := ['>', ' ']

/-- The history after the calls of `read_input` that `poll_for_user_input` makes, one list of
events per call; `none` if a call panics or does not end. A `None` line ends the CLI. -/
def pollForUserInput (termWidth : Nat) (commandsHistory : List (List Char)) :
    List (List TermEvent) → Option (List (List Char))
  | [] => some commandsHistory
  | call :: more =>
    match readInput prompt termWidth commandsHistory call with
    | .returned (some _) commandsHistory' => pollForUserInput termWidth commandsHistory' more
    | .returned none commandsHistory' => some commandsHistory'
    | _ => none

/-- The cursor is within the buffer and the history position within the history. -/
def Editor.WellFormed (editor : Editor) : Prop :=
  editor.cursorPosition ≤ editor.inputBuffer.length ∧
    editor.historyPosition < editor.commandsHistory.length

/-- The editor at the top of the loop is well formed, whatever the history. -/
theorem Editor.wellFormed_start (commandsHistory : List (List Char)) :
    (Editor.start commandsHistory).WellFormed :=
  ⟨Nat.le_refl _, Nat.succ_pos _⟩

/-- A key's outcome keeps the editor well formed. -/
def KeyOutcome.WellFormed : KeyOutcome → Prop
  | .redraw editor | .skip editor => editor.WellFormed
  | .finish _ _ => True

/-- The key does not panic, and its outcome keeps the editor well formed. -/
def KeyOutcome.Safe : Option KeyOutcome → Prop
  | none => False
  | some outcome => outcome.WellFormed

/-- Moving to an entry inside the history, as Up and Down do, panics on no index and leaves
the editor well formed. -/
theorem safe_of_historyEntry {commandsHistory : List (List Char)} {position : Nat}
    (within : position < commandsHistory.length) :
    KeyOutcome.Safe ((commandsHistory.get? position).map fun inputBuffer =>
      .redraw ⟨inputBuffer, inputBuffer.length, position, commandsHistory⟩) := by
  simp only [List.get?_eq_getElem?, List.getElem?_eq_getElem within, Option.map_some']
  exact ⟨le_refl _, within⟩

/-- From a well-formed editor no key panics, and every key leaves it well formed.

Proof: one case per key code. The history has an entry, so `commands_history[0]` is in
range; an insert or a removal happens only at a position the cursor bound allows; Up and
Down move to an index the guard keeps inside the history. -/
theorem handleKey_safe {editor : Editor} (wellFormed : editor.WellFormed) (keyEvent : KeyEvent) :
    KeyOutcome.Safe (handleKey editor keyEvent) := by
  obtain ⟨inputBuffer, cursorPosition, historyPosition, commandsHistory⟩ := editor
  obtain ⟨cursorWithin, positionWithin⟩ := wellFormed
  obtain ⟨code, control⟩ := keyEvent
  cases commandsHistory with
  | nil => cases positionWithin
  | cons first older =>
  dsimp only at cursorWithin positionWithin
  cases code with
  | char c =>
    simp only [handleKey]
    split
    · trivial
    · split
      · simp only [if_pos cursorWithin, setFirst, Option.map_some', KeyOutcome.Safe,
          KeyOutcome.WellFormed, Editor.WellFormed, List.length_insertIdx _ _ cursorWithin,
          List.length_cons]
        omega
      · exact ⟨cursorWithin, Nat.succ_pos _⟩
  | left =>
    simp only [handleKey]
    split <;> exact ⟨by dsimp only; omega, positionWithin⟩
  | right =>
    simp only [handleKey]
    split <;> exact ⟨by dsimp only; omega, positionWithin⟩
  | backspace =>
    simp only [handleKey]
    rw [if_neg (by omega)]
    simp only [setFirst, Option.map_some', KeyOutcome.Safe, KeyOutcome.WellFormed,
      Editor.WellFormed, List.length_cons]
    split
    · rw [List.length_eraseIdx_of_lt (by omega)]
      omega
    · omega
  | up =>
    simp only [handleKey]
    split
    · exact ⟨cursorWithin, positionWithin⟩
    · exact safe_of_historyEntry (by omega)
  | down =>
    simp only [handleKey]
    split
    · exact ⟨cursorWithin, positionWithin⟩
    · exact safe_of_historyEntry (by omega)
  | enter =>
    simp only [handleKey]
    split <;> trivial
  | other => exact ⟨cursorWithin, positionWithin⟩

/-- The window of the redraw is a valid slice when the terminal is wider than the prompt and
the cursor is within the buffer. -/
theorem windowFits_of_wide {termWidth prefixSize : Nat} (wide : prefixSize < termWidth)
    {editor : Editor} (cursorWithin : editor.cursorPosition ≤ editor.inputBuffer.length) :
    windowFits termWidth prefixSize editor = true := by
  simp only [windowFits, visibleWindow, Bool.and_eq_true, decide_eq_true_eq]
  split <;> omega

/-- On a terminal no wider than the prompt the window of an editor whose cursor is at the end of
the buffer starts past its end. -/
theorem windowFits_of_narrow {termWidth prefixSize : Nat} (narrow : termWidth ≤ prefixSize)
    {editor : Editor} (atEnd : editor.cursorPosition = editor.inputBuffer.length) :
    windowFits termWidth prefixSize editor = false := by
  simp only [windowFits, visibleWindow, Bool.and_eq_false_iff, decide_eq_false_iff_not]
  split <;> omega

/-- Every state the loop of `read_input` waits in is well formed, whatever the terminal's width:
the cursor is within the buffer and the history position within the history.

Proof: by induction on the events; a key step keeps the editor well formed
(`handleKey_safe`) and other events leave it as it is. -/
theorem inputLoop_wellFormed (termWidth prefixSize : Nat) :
    ∀ (events : List TermEvent) {editor editor' : Editor}, editor.WellFormed →
      inputLoop termWidth prefixSize editor events = .reading editor' → editor'.WellFormed
  | [], _, _, wellFormed, waiting => by
    cases waiting
    exact wellFormed
  | .other :: more, _, _, wellFormed, waiting =>
    inputLoop_wellFormed termWidth prefixSize more wellFormed waiting
  | .key keyEvent :: more, editor, _, wellFormed, waiting => by
    have safe := handleKey_safe wellFormed keyEvent
    simp only [inputLoop] at waiting
    split at waiting
    · cases waiting
    · cases waiting
    · rename_i handled
      rw [handled] at safe
      exact inputLoop_wellFormed termWidth prefixSize more safe waiting
    · rename_i handled
      rw [handled] at safe
      split at waiting
      · exact inputLoop_wellFormed termWidth prefixSize more safe waiting
      · cases waiting

/-- On a terminal wider than the prompt the loop never panics.

Proof: by induction on the events; from a well-formed editor no key panics
(`handleKey_safe`) and the window of a well-formed editor fits (`windowFits_of_wide`). -/
theorem inputLoop_ne_panicked {termWidth prefixSize : Nat} (wide : prefixSize < termWidth) :
    ∀ (events : List TermEvent) {editor : Editor}, editor.WellFormed →
      inputLoop termWidth prefixSize editor events ≠ .panicked
  | [], _, _ => InputOutcome.noConfusion
  | .other :: more, _, wellFormed => inputLoop_ne_panicked wide more wellFormed
  | .key keyEvent :: more, editor, wellFormed => by
    have safe := handleKey_safe wellFormed keyEvent
    simp only [inputLoop]
    split
    · rename_i handled
      rw [handled] at safe
      exact safe.elim
    · exact InputOutcome.noConfusion
    · rename_i handled
      rw [handled] at safe
      exact inputLoop_ne_panicked wide more safe
    · rename_i handled
      rw [handled] at safe
      rw [windowFits_of_wide wide safe.1, if_pos rfl]
      exact inputLoop_ne_panicked wide more safe

/-! ## ASCII lines -/

/-- Every character of a line is ASCII. Such a character takes one byte, so on an ASCII line
the byte offsets that `String::insert`, `String::remove` and `len()` count are the character
positions `handleKey` counts. -/
def IsAscii (line : List Char) : Prop := ∀ c ∈ line, c.toNat < 128

instance (line : List Char) : Decidable (IsAscii line) :=
  inferInstanceAs (Decidable (∀ c ∈ line, c.toNat < 128))

/-- The buffer and every entry of the history are ASCII. -/
def Editor.Ascii (editor : Editor) : Prop :=
  IsAscii editor.inputBuffer ∧ ∀ entry ∈ editor.commandsHistory, IsAscii entry

/-- What a key leaves is ASCII: the editor it goes on with, or the line and the history it
returns. -/
def KeyOutcome.Ascii : KeyOutcome → Prop
  | .redraw editor | .skip editor => editor.Ascii
  | .finish line commandsHistory =>
    (∀ text ∈ line, IsAscii text) ∧ ∀ entry ∈ commandsHistory, IsAscii entry

/-- What a call leaves is ASCII, as for `KeyOutcome.Ascii`. -/
def InputOutcome.Ascii : InputOutcome → Prop
  | .returned line commandsHistory =>
    (∀ text ∈ line, IsAscii text) ∧ ∀ entry ∈ commandsHistory, IsAscii entry
  | .panicked => True
  | .reading editor => editor.Ascii

/-- The editor at the top of the loop is ASCII when the history is. -/
theorem Editor.ascii_start {commandsHistory : List (List Char)}
    (ascii : ∀ entry ∈ commandsHistory, IsAscii entry) : (Editor.start commandsHistory).Ascii := by
  refine ⟨fun c mem => absurd mem (List.not_mem_nil c), fun entry mem => ?_⟩
  rcases List.mem_cons.mp mem with rfl | older
  · exact fun c mem => absurd mem (List.not_mem_nil c)
  · exact ascii entry older

/-- Setting the first entry of an ASCII history to an ASCII line keeps it ASCII. -/
theorem setFirst_ascii {commandsHistory commandsHistory' : List (List Char)} {entry : List Char}
    (ascii : ∀ other ∈ commandsHistory, IsAscii other) (entryAscii : IsAscii entry)
    (set : setFirst commandsHistory entry = some commandsHistory') :
    ∀ other ∈ commandsHistory', IsAscii other := by
  cases commandsHistory with
  | nil => cases set
  | cons first older =>
    cases set
    intro other mem
    rcases List.mem_cons.mp mem with rfl | older
    · exact entryAscii
    · exact ascii other (List.mem_cons_of_mem _ older)

/-- Every key keeps the buffer and the history ASCII: a printable key inserts only an ASCII
character, Backspace removes one, and Up and Down copy an entry of the history.

Proof: one case per key code. -/
theorem handleKey_ascii {editor : Editor} (ascii : editor.Ascii) (keyEvent : KeyEvent)
    {outcome : KeyOutcome} (handled : handleKey editor keyEvent = some outcome) :
    outcome.Ascii := by
  obtain ⟨inputBuffer, cursorPosition, historyPosition, commandsHistory⟩ := editor
  obtain ⟨bufferAscii, historyAscii⟩ := ascii
  obtain ⟨code, control⟩ := keyEvent
  cases code with
  | char c =>
    simp only [handleKey] at handled
    split_ifs at handled with quit typed within
    · cases handled
      exact ⟨fun text mem => absurd mem (Option.not_mem_none text), historyAscii⟩
    · obtain ⟨commandsHistory', set, rfl⟩ := Option.map_eq_some'.mp handled
      have inserted : IsAscii (inputBuffer.insertIdx cursorPosition c) := fun d mem => by
        rcases (List.mem_insertIdx within).mp mem with rfl | old
        · exact typed
        · exact bufferAscii d old
      exact ⟨inserted, setFirst_ascii historyAscii inserted set⟩
    · cases handled
      exact ⟨bufferAscii, historyAscii⟩
  | backspace =>
    simp only [handleKey] at handled
    split_ifs at handled <;> obtain ⟨commandsHistory', set, rfl⟩ := Option.map_eq_some'.mp handled
    · have erased : IsAscii (inputBuffer.eraseIdx (cursorPosition - 1)) := fun d mem =>
        bufferAscii d (List.mem_of_mem_eraseIdx mem)
      exact ⟨erased, setFirst_ascii historyAscii erased set⟩
    · exact ⟨bufferAscii, setFirst_ascii historyAscii bufferAscii set⟩
  | up | down =>
    simp only [handleKey] at handled
    split_ifs at handled
    · cases handled
      exact ⟨bufferAscii, historyAscii⟩
    · obtain ⟨entry, found, rfl⟩ := Option.map_eq_some'.mp handled
      exact ⟨historyAscii entry (List.get?_mem found), historyAscii⟩
  | enter =>
    simp only [handleKey] at handled
    split_ifs at handled
    · cases handled
      exact ⟨fun _ mem => Option.mem_some_iff.mp mem ▸ bufferAscii, historyAscii⟩
    · obtain ⟨commandsHistory', set, rfl⟩ := Option.map_eq_some'.mp handled
      refine ⟨fun _ mem => Option.mem_some_iff.mp mem ▸ bufferAscii, fun entry mem => ?_⟩
      refine setFirst_ascii historyAscii bufferAscii set entry ?_
      split_ifs at mem
      · exact List.dropLast_subset _ mem
      · exact mem
  | left | right =>
    simp only [handleKey] at handled
    split_ifs at handled <;> cases handled <;> exact ⟨bufferAscii, historyAscii⟩
  | other =>
    cases handled
    exact ⟨bufferAscii, historyAscii⟩

/-- The loop of `read_input` keeps the buffer and the history ASCII.

Proof: by induction on the events, one key at a time (`handleKey_ascii`). -/
theorem inputLoop_ascii (termWidth prefixSize : Nat) :
    ∀ (events : List TermEvent) {editor : Editor}, editor.Ascii →
      (inputLoop termWidth prefixSize editor events).Ascii
  | [], _, ascii => ascii
  | .other :: more, _, ascii => inputLoop_ascii termWidth prefixSize more ascii
  | .key keyEvent :: more, editor, ascii => by
    simp only [inputLoop]
    split
    · trivial
    · rename_i handled
      exact handleKey_ascii ascii keyEvent handled
    · rename_i handled
      exact inputLoop_ascii termWidth prefixSize more (handleKey_ascii ascii keyEvent handled)
    · rename_i handled
      split
      · exact inputLoop_ascii termWidth prefixSize more (handleKey_ascii ascii keyEvent handled)
      · trivial

/-- The history of the CLI stays ASCII: `poll_for_user_input` starts it empty, and every call of
`read_input` keeps it ASCII. -/
theorem pollForUserInput_ascii (termWidth : Nat) :
    ∀ (calls : List (List TermEvent)) {commandsHistory commandsHistory' : List (List Char)},
      (∀ entry ∈ commandsHistory, IsAscii entry) →
      pollForUserInput termWidth commandsHistory calls = some commandsHistory' →
      ∀ entry ∈ commandsHistory', IsAscii entry
  | [], _, _, ascii, polled => by
    cases polled
    exact ascii
  | call :: more, commandsHistory, _, ascii, polled => by
    have returned := inputLoop_ascii termWidth prompt.length call (Editor.ascii_start ascii)
    simp only [pollForUserInput] at polled
    split at polled
    · rename_i line commandsHistory'' outcome
      rw [← readInput, outcome] at returned
      exact pollForUserInput_ascii termWidth more returned.2 polled
    · rename_i commandsHistory'' outcome
      cases polled
      rw [← readInput, outcome] at returned
      exact returned.2
    · cases polled

/-- The invariant of `read_input` with the prompt `"> "`: for every terminal width, ASCII history
and sequence of events, every state the editor waits in has its cursor within the buffer, its
history position within the history and an ASCII buffer and history, a returned history is
ASCII, and on a terminal wider than the prompt the call never panics. The history is ASCII in
the CLI: `poll_for_user_input` starts it empty and `read_input` drops every other key, so the
character positions of the model are the byte offsets of the code. -/
theorem read_input_invariant (termWidth : Nat) (commandsHistory : List (List Char))
    (ascii : ∀ entry ∈ commandsHistory, IsAscii entry) (events : List TermEvent) :
    (∀ editor, readInput prompt termWidth commandsHistory events = .reading editor →
      editor.WellFormed ∧ editor.Ascii) ∧
    (∀ line commandsHistory', readInput prompt termWidth commandsHistory events =
      .returned line commandsHistory' → ∀ entry ∈ commandsHistory', IsAscii entry) ∧
    (prompt.length < termWidth → readInput prompt termWidth commandsHistory events ≠ .panicked) ∧
    (∀ calls commandsHistory', pollForUserInput termWidth [] calls = some commandsHistory' →
      ∀ entry ∈ commandsHistory', IsAscii entry) := by
  have returned := inputLoop_ascii termWidth prompt.length events (Editor.ascii_start ascii)
  refine ⟨fun editor waiting => ⟨inputLoop_wellFormed termWidth _ events
      (Editor.wellFormed_start commandsHistory) waiting, ?_⟩, fun line commandsHistory' ended => ?_,
    fun wide => inputLoop_ne_panicked wide events (Editor.wellFormed_start commandsHistory),
    fun calls _ polled => pollForUserInput_ascii termWidth calls (fun _ mem => by cases mem) polled⟩
  · rw [← readInput, waiting] at returned
    exact returned
  · rw [← readInput, ended] at returned
    exact returned.2

/-- On an 80-column terminal, recalling `help` from the history and erasing its last letter is a
valid state. -/
theorem read_input_invariant_on_help :
    (∀ entry ∈ ["help".toList], IsAscii entry) ∧
      (∀ editor, readInput prompt 80 ["help".toList] [.key ⟨.up, false⟩, .key ⟨.backspace, false⟩] =
        .reading editor → editor.WellFormed ∧ editor.Ascii) ∧
      readInput prompt 80 ["help".toList] [.key ⟨.up, false⟩, .key ⟨.backspace, false⟩] ≠
        .panicked :=
  ⟨by decide, (read_input_invariant 80 ["help".toList] (by decide) _).1,
    (read_input_invariant 80 ["help".toList] (by decide) _).2.2.1 (by decide)⟩

/-- An empty line leaves one more entry in the history: the entry `read_input` inserts at the
top is neither filled nor followed by a `pop`. -/
theorem readInput_empty_line (termWidth : Nat) (commandsHistory : List (List Char)) :
    readInput prompt termWidth commandsHistory [.key ⟨.enter, false⟩] =
      .returned (some []) ([] :: commandsHistory) := rfl

/-- `k` empty lines in a row add `k` entries to the history. -/
theorem pollForUserInput_empty_lines (termWidth : Nat) :
    ∀ (k : Nat) (commandsHistory : List (List Char)),
      pollForUserInput termWidth commandsHistory (List.replicate k [.key ⟨.enter, false⟩]) =
        some (List.replicate k [] ++ commandsHistory)
  | 0, _ => rfl
  | k + 1, commandsHistory => by
    rw [List.replicate_succ, pollForUserInput, readInput_empty_line]
    dsimp only
    rw [pollForUserInput_empty_lines termWidth k, List.replicate_succ', List.append_assoc]
    rfl

/-- The two boundaries where `read_input` departs from its bounds. On a terminal at most as
wide as the prompt (two columns), the first printable key makes the redraw slice
`input_buffer[cursor + 1..len]` with a start past its end, which panics. And the history
grows by one entry for every empty line, without bound: the cap of 50 entries is enforced
only when a non-empty line is entered. -/
theorem read_input_boundaries :
    (∀ termWidth, termWidth ≤ prompt.length → ∀ commandsHistory c more, c.toNat < 128 →
      readInput prompt termWidth commandsHistory (.key ⟨.char c, false⟩ :: more) = .panicked) ∧
    (∀ termWidth commandsHistory k,
      (pollForUserInput termWidth commandsHistory
        (List.replicate k [.key ⟨.enter, false⟩])).map List.length =
        some (k + commandsHistory.length)) := by
  refine ⟨fun termWidth narrow commandsHistory c more ascii => ?_, fun termWidth commandsHistory k => ?_⟩
  · have quiet : ¬((c = 'd' ∨ c = 'c') ∧ false = true) := fun quit => Bool.false_ne_true quit.2
    simp only [readInput, inputLoop, handleKey, Editor.start, if_neg quiet, if_pos ascii,
      List.length_nil, Nat.zero_le, if_true, setFirst, Option.map_some']
    rw [windowFits_of_narrow narrow rfl]
    rfl
  · rw [pollForUserInput_empty_lines, Option.map_some', List.length_append, List.length_replicate]

/-- A two-column terminal panics at the first key, and 52 empty lines leave 52 history
entries. -/
theorem read_input_boundaries_at_two_columns :
    readInput prompt 2 [] [.key ⟨.char 'a', false⟩] = .panicked ∧
      (pollForUserInput 80 [] (List.replicate 52 [.key ⟨.enter, false⟩])).map List.length =
        some 52 :=
  ⟨read_input_boundaries.1 2 (by decide) [] 'a' [] (by decide), read_input_boundaries.2 80 [] 52⟩

end YuvLdkSample
