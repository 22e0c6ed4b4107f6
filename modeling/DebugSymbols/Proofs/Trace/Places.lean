import DebugSymbols.Proofs.Trace.Placeless
/-!
# The place of a command

The position that a command records follows from the lines before it in its own trace file.  The
file and the line number that were named last count, each for itself.  Without a file it is the path
of the trace file, and without a line number it is the number of the line with the command, or, once
a file was named, of the line that named the first one.
-/

namespace DebugSymbols.Trace

namespace Command

def file? : Command → Option String
  | .file path => some path
  | _ => none

def line? : Command → Option Nat
  | .line number => some number
  | _ => none

def placed? (place : Position) : Command → Option Event
  | .label address name => some (.addLabel place address name)
  | .data address size kind => some (.addData place address size kind)
  | .startFunction address => some (.startFunction place address)
  | _ => none

end Command

/-! ## Places by what was named -/

def lastFile? (commands : List (Nat × Command)) : Option String :=
  (commands.filterMap fun numbered => numbered.2.file?).getLast?

def lastLine? (commands : List (Nat × Command)) : Option Nat :=
  (commands.filterMap fun numbered => numbered.2.line?).getLast?

/-- The index of the first line that names a file. -/
def firstFileLine? (commands : List (Nat × Command)) : Option Nat :=
  (commands.find? fun numbered => numbered.2.file?.isSome).map Prod.fst

/-- Where the line at an index stands, behind some commands of a trace file. -/
def placeBehind (path : String) (commands : List (Nat × Command)) (index : Nat) : Position where
  file := (lastFile? commands).getD path
  line := (lastLine? commands).getD ((firstFileLine? commands).getD index + 1)

section Append

variable (commands : List (Nat × Command)) (numbered : Nat × Command)

theorem lastFile?_append :
    lastFile? (commands ++ [numbered]) = numbered.2.file?.or (lastFile? commands) := by
  rw [lastFile?, List.filterMap_append, List.getLast?_append, lastFile?]
  cases named : numbered.2.file? <;> simp [named]

theorem lastLine?_append :
    lastLine? (commands ++ [numbered]) = numbered.2.line?.or (lastLine? commands) := by
  rw [lastLine?, List.filterMap_append, List.getLast?_append, lastLine?]
  cases named : numbered.2.line? <;> simp [named]

theorem firstFileLine?_append :
    firstFileLine? (commands ++ [numbered]) =
      (firstFileLine? commands).or (numbered.2.file?.map fun _ => numbered.1) := by
  rw [firstFileLine?, List.find?_append, Option.map_or, firstFileLine?]
  cases named : numbered.2.file? <;> simp [named]

end Append

theorem placeBehind_append_of_not_isPlace {command : Command} (elsewhere : command.isPlace = false)
    (path : String) (commands : List (Nat × Command)) (index next : Nat) :
    placeBehind path (commands ++ [(index, command)]) next = placeBehind path commands next := by
  have free : command.file? = none ∧ command.line? = none := by
    cases command with
    | file | line => cases elsewhere
    | _ => exact ⟨rfl, rfl⟩
  rw [placeBehind, lastFile?_append, lastLine?_append, firstFileLine?_append, free.1, free.2,
    Option.none_or, Option.none_or, Option.map_none, Option.or_none, placeBehind]

/-! ## Replays stand where the commands say -/

namespace Replay

/-- Wherever the next line is, the replay turns to the place that the commands behind it give. -/
def Stands (replay : Replay) (path : String) (commands : List (Nat × Command)) : Prop :=
  ∀ index, (replay.follow index).position = placeBehind path commands index

variable {replay : Replay} {path : String} {commands : List (Nat × Command)}

theorem position_follow (replay : Replay) (index : Nat) :
    (replay.follow index).position =
      if replay.explicit then replay.position else { replay.position with line := index + 1 } := by
  unfold follow
  split
  · rfl
  · rfl

/-- Only the last line that a replay turns to counts. -/
theorem position_follow_follow (replay : Replay) (first second : Nat) :
    ((replay.follow first).follow second).position = (replay.follow second).position := by
  cases free : replay.explicit <;> simp [follow, free]

theorem position_follow_apply {command : Command} (elsewhere : command.isPlace = false)
    (replay : Replay) (index : Nat) :
    ((replay.apply command).follow index).position = (replay.follow index).position := by
  rw [position_follow, position_follow]
  cases command with
  | file | line => cases elsewhere
  | _ => rfl

theorem stands_begin (replay : Replay) (path : String) : (replay.begin path).Stands path [] :=
  fun _ => rfl

/-- A file or a line number replaces its part of the place, and keeps the other part as it is for
this command.  Other commands change nothing. -/
theorem Stands.advance (stands : replay.Stands path commands) (index : Nat) (command : Command) :
    (replay.advance index command).Stands path (commands ++ [(index, command)]) := by
  intro next
  have here := stands index
  cases kind : command.isPlace with
  | false =>
      rw [Replay.advance, position_follow_apply kind, position_follow_follow, stands next,
        placeBehind_append_of_not_isPlace kind]
  | true =>
      rw [placeBehind, lastFile?_append, lastLine?_append, firstFileLine?_append]
      cases command with
      | file name =>
          have frozen : ((replay.advance index (.file name)).follow next).position =
              { (replay.follow index).position with file := name } := rfl
          rw [frozen, here, placeBehind]
          cases firstFileLine? commands with
          | none => rfl
          | some first => rfl
      | line number =>
          have frozen : ((replay.advance index (.line number)).follow next).position =
              { (replay.follow index).position with line := number } := rfl
          rw [frozen, here]
          rfl
      | _ => cases kind

theorem Stands.afterCommands (stands : replay.Stands path commands) (more : List (Nat × Command)) :
    (replay.afterCommands more).Stands path (commands ++ more) := by
  induction more generalizing replay commands with
  | nil => rwa [List.append_nil]
  | cons numbered rest ih =>
      rw [List.append_cons]
      exact ih (stands.advance numbered.1 numbered.2)

/-- Behind some commands of a trace file, a replay stands where these say. -/
theorem stands_afterCommands (replay : Replay) (path : String) (commands : List (Nat × Command)) :
    ((replay.begin path).afterCommands commands).Stands path commands :=
  (replay.stands_begin path).afterCommands commands

theorem Stands.position_advance (stands : replay.Stands path commands) {command : Command}
    (elsewhere : command.isPlace = false) (index : Nat) :
    (replay.advance index command).position = placeBehind path commands index := by
  rw [← stands index, Replay.advance]
  cases command with
  | file | line => cases elsewhere
  | _ => rfl

theorem Stands.event?_advance (stands : replay.Stands path commands) {command : Command}
    {index : Nat} {event : Event}
    (placed : command.placed? (placeBehind path commands index) = some event) :
    (replay.advance index command).event? command = some event := by
  rw [← stands index] at placed
  cases command with
  | label | data | startFunction => exact placed
  | _ => cases placed

end Replay

/-! ## Commands of a run -/

theorem numberedCommands_map_some (lines : List String) :
    numberedCommands 0 (lines.map some) = commandsOn lines := by
  have whole : (lines.map some).takeWhile Option.isSome = lines.map some := by
    rw [List.takeWhile_eq_self_iff]
    rintro _ member
    obtain ⟨line, _, rfl⟩ := List.mem_map.1 member
    rfl
  have readable : (lines.map some).reduceOption = lines := by
    rw [List.reduceOption, List.filterMap_map]
    exact List.filterMap_some
  rw [numberedCommands_eq, whole, readable, commandsOn]

/-- Lines that can be read are replayed before the lines behind them. -/
theorem replayLines_append (path : String) (index : Nat) (playback : Playback) (lines : List String)
    (rest : List (Option String)) :
    (Session.replayLines path index playback (lines.map some ++ rest)).2 =
      (Session.replayLines path (index + lines.length)
        (Session.replayLines path index playback (lines.map some)).2 rest).2 := by
  induction lines generalizing index playback with
  | nil => rfl
  | cons line more ih =>
      have later := ih (index + 1) (playback.feed index line)
      rw [Nat.add_right_comm] at later
      exact later

theorem replayTraces_append (playback : Playback)
    (earlier later : List (String × Option Text.Stream)) :
    (Session.replayTraces playback (earlier ++ later)).2 =
      (Session.replayTraces (Session.replayTraces playback earlier).2 later).2 := by
  induction earlier generalizing playback with
  | nil => rfl
  | cons trace rest ih => exact ih _

namespace Playback

/-- What a run has come to when it is through with some traces and with the lines of the next one
that stand before a certain line. -/
def upTo (start : Playback) (earlier : List (String × Option Text.Stream)) (path : String)
    (lines : List String) : Playback :=
  (Session.replayLines path 0 ((Session.replayTraces start earlier).2.begin path)
    (lines.map some)).2

variable {start : Playback} {earlier later : List (String × Option Text.Stream)} {path : String}
  {lines : List String}

theorem upTo_eq :
    start.upTo earlier path lines =
      let opened := (Session.replayTraces start earlier).2.begin path
      ⟨opened.replay.afterCommands (commandsOn lines),
        opened.recorder.run (opened.replay.commandEvents (commandsOn lines))⟩ := by
  rw [upTo, replayLines_snd, numberedCommands_map_some]

theorem stands_upTo : (start.upTo earlier path lines).replay.Stands path (commandsOn lines) := by
  rw [upTo_eq]
  exact Replay.stands_afterCommands _ path _

/-- A run comes to a line, carries out what is on it and goes on with the rest. -/
theorem replayTraces_eq_upTo {stream : Text.Stream} {line : String} {rest : List (Option String)}
    (cut : stream.lines = lines.map some ++ some line :: rest) :
    (Session.replayTraces start (earlier ++ (path, some stream) :: later)).2 =
      (Session.replayTraces (Session.replayLines path (lines.length + 1)
        ((start.upTo earlier path lines).feed lines.length line) rest).2 later).2 := by
  have opened : ∀ playback, (Session.replayTraces playback ((path, some stream) :: later)).2 =
      (Session.replayTraces
        (Session.replayLines path 0 (playback.begin path) stream.lines).2 later).2 :=
    fun _ => rfl
  rw [replayTraces_append, opened, cut, replayLines_append, Nat.zero_add]
  rfl

end Playback

/-- The place of a command is that of what stands before it in its own trace file, whatever was
replayed before.  A run that comes to the command stands there, gives this place to the recorder if
the command records one, and goes on behind the line.  Lines without a command have no effect but
to be counted. -/
theorem place_follows_lines (start : Playback) (earlier later : List (String × Option Text.Stream))
    (path : String) (stream : Text.Stream) (lines : List String) (line : String)
    (rest : List (Option String)) (command : Command)
    (cut : stream.lines = lines.map some ++ some line :: rest)
    (accepted : Command.read line = .ok (some command)) :
    let place := placeBehind path (commandsOn lines) lines.length
    let before := start.upTo earlier path lines
    let after := before.step lines.length command
    (command.isPlace = false →
        (before.replay.advance lines.length command).position = place) ∧
      (∀ event, command.placed? place = some event →
        after.recorder = (before.recorder.step event).2) ∧
      (∀ others, commandsOn others = commandsOn lines →
        start.upTo earlier path others = before) ∧
      (Session.replayTraces start (earlier ++ (path, some stream) :: later)).2 =
        (Session.replayTraces
          (Session.replayLines path (lines.length + 1) after rest).2 later).2 := by
  intro place before after
  have stands : before.replay.Stands path (commandsOn lines) := Playback.stands_upTo
  have fed : before.feed lines.length line = after := by
    rw [Playback.feed, accepted]
  refine ⟨fun elsewhere => stands.position_advance elsewhere _, fun event placed => ?_,
    fun others same => ?_, ?_⟩
  · have asked := stands.event?_advance placed
    simp only [after, Playback.step, asked]
  · simp only [before, Playback.upTo_eq, same]
  · rw [← fed]
    exact Playback.replayTraces_eq_upTo cut

/-- The second of two files names a source file and goes on with a line that is no command.  Its
label stands on the line that named the source file, and nothing is left of the first file. -/
theorem place_of_second_file :
    let first := "file a.s\nline 7\nlabel 16 start"
    let second := "# notes\nfile b.s\nbogus\nlabel 32 loop\nline 9"
    let earlier := [("a.trace", some ⟨Text.encode first, false⟩)]
    let stream : Text.Stream := ⟨Text.encode second, false⟩
    let lines := ["# notes", "file b.s", "bogus"]
    let place : Position := ⟨"b.s", 2⟩
    let before := Playback.upTo {} earlier "b.trace" lines
    let after := before.step 3 (.label 32 "loop")
    stream.lines = lines.map some ++ [some "label 32 loop", some "line 9"] ∧
      Command.read "label 32 loop" = .ok (some (.label 32 "loop")) ∧
      placeBehind "b.trace" (commandsOn lines) 3 = place ∧
      after.recorder = (before.recorder.step (.addLabel place 32 "loop")).2 := by
  intro first second earlier stream lines place before after
  have cut : stream.lines = lines.map some ++ [some "label 32 loop", some "line 9"] := by
    decide +kernel
  have accepted : Command.read "label 32 loop" = .ok (some (.label 32 "loop")) := by
    decide +kernel
  have stands : placeBehind "b.trace" (commandsOn lines) 3 = place := by
    decide +kernel
  have told := place_follows_lines {} earlier [] "b.trace" stream lines _ _ _ cut accepted
  refine ⟨cut, accepted, stands, told.2.1 _ ?_⟩
  exact congrArg (fun place => some (Event.addLabel place 32 "loop")) stands

end DebugSymbols.Trace
