import DebugSymbols.Proofs.Recorder.Repetition
import DebugSymbols.Proofs.Table.Tokens
import DebugSymbols.Proofs.Trace.Events
/-!
# A second pass

A name keeps its token, and every trace file begins at its own start.  Traces
that are replayed again with the same replay therefore ask for the same events,
and a recorder that is back where it was gets nothing from them but functions
that are not shown.
-/

namespace DebugSymbols.Trace

namespace Replay

variable (replay : Replay)

def withTokens (tokens : FileTokens) : Replay :=
  { replay with tokens := tokens }

variable {final : FileTokens}

/-! ## One command -/

theorem names_isPrefix_advance (index : Nat) (command : Command) :
    replay.tokens.names <+: (replay.advance index command).tokens.names := by
  cases command
  case startModule name | endModule name =>
    rw [advance, apply, tokens_follow]
    exact FileTokens.names_isPrefix_insert _ name
  all_goals simp [advance, apply]

theorem follow_withTokens (index : Nat) :
    (replay.withTokens final).follow index = (replay.follow index).withTokens final := by
  obtain ⟨position, explicit, tokens⟩ := replay
  cases explicit with
  | false => rfl
  | true => rfl

/-- A replay that already has the tokens of a command takes the same step without issuing any. -/
theorem advance_withTokens {index : Nat} {command : Command}
    (known : (replay.advance index command).tokens.names <+: final.names) :
    (replay.withTokens final).advance index command =
      (replay.advance index command).withTokens final := by
  rw [advance, advance, follow_withTokens]
  cases command
  case startModule name | endModule name =>
    exact congrArg (replay.follow index).withTokens (FileTokens.insert_eq_of_isPrefix known)
  all_goals rfl

theorem event?_withTokens {index : Nat} {command : Command}
    (known : (replay.advance index command).tokens.names <+: final.names) :
    ((replay.advance index command).withTokens final).event? command =
      (replay.advance index command).event? command := by
  cases command
  case startModule name =>
    exact congrArg (fun token => some (Event.startModule token))
      (FileTokens.tokenOf_eq_of_isPrefix (FileTokens.mem_names_insert _ name) known)
  case endModule name =>
    exact congrArg (fun token => some (Event.endModule (some token)))
      (FileTokens.tokenOf_eq_of_isPrefix (FileTokens.mem_names_insert _ name) known)
  all_goals rfl

/-! ## Whole traces -/

theorem names_isPrefix_afterCommands (commands : List (Nat × Command)) :
    replay.tokens.names <+: (replay.afterCommands commands).tokens.names := by
  induction commands generalizing replay with
  | nil => exact List.prefix_rfl
  | cons numbered rest ih =>
      exact (replay.names_isPrefix_advance numbered.1 numbered.2).trans (ih _)

theorem names_isPrefix_afterFiles (files : List TraceFile) :
    replay.tokens.names <+: (replay.afterFiles files).tokens.names := by
  induction files generalizing replay with
  | nil => exact List.prefix_rfl
  | cons file rest ih =>
      exact ((replay.begin file.path).names_isPrefix_afterCommands file.commands).trans (ih _)

/-- A replay that already has all tokens of some commands runs through them as before. -/
theorem commands_withTokens {commands : List (Nat × Command)}
    (known : (replay.afterCommands commands).tokens.names <+: final.names) :
    (replay.withTokens final).afterCommands commands =
        (replay.afterCommands commands).withTokens final ∧
      (replay.withTokens final).commandEvents commands = replay.commandEvents commands := by
  induction commands generalizing replay with
  | nil => exact ⟨rfl, rfl⟩
  | cons numbered rest ih =>
      obtain ⟨index, command⟩ := numbered
      have later := (replay.advance index command).names_isPrefix_afterCommands rest
      have here := later.trans known
      have step := replay.advance_withTokens here
      obtain ⟨after, events⟩ := ih (replay.advance index command) known
      constructor
      · exact (congrArg (afterCommands · rest) step).trans after
      · rw [commandEvents, commandEvents, step, events, event?_withTokens replay here]

theorem events_withTokens {files : List TraceFile}
    (known : (replay.afterFiles files).tokens.names <+: final.names) :
    (replay.withTokens final).events files = replay.events files := by
  induction files generalizing replay with
  | nil => rfl
  | cons file rest ih =>
      have later := (replay.afterFile file).names_isPrefix_afterFiles rest
      obtain ⟨after, events⟩ :=
        (replay.begin file.path).commands_withTokens (later.trans known)
      have begun : (replay.withTokens final).begin file.path =
          (replay.begin file.path).withTokens final := rfl
      rw [Replay.events, Replay.events, afterFile, begun, after, events]
      exact congrArg (_ ++ ·) (ih (replay.afterFile file) known)

/-- Where a replay stands does not matter to the files that come next. -/
theorem events_congr {first second : Replay} (tokens : first.tokens = second.tokens)
    (files : List TraceFile) : first.events files = second.events files := by
  cases files with
  | nil => rfl
  | cons file rest =>
      have begun : first.begin file.path = second.begin file.path := by
        rw [begin, begin, tokens]
      rw [events, events, afterFile, afterFile, begun]

/-- Traces that are replayed again ask for the same events. -/
theorem events_afterFiles (files : List TraceFile) :
    (replay.afterFiles files).events files = replay.events files := by
  let known := (replay.afterFiles files).tokens
  have tokens : (replay.afterFiles files).tokens = (replay.withTokens known).tokens := rfl
  exact (events_congr tokens files).trans (replay.events_withTokens List.prefix_rfl)

end Replay

/-- A second pass over traces records nothing new and changes no function, provided that the first
pass led back to the module and the flag with which it began, and that no function was open before
and after it.  It only adds functions behind the others, and these never reach a symbol file. -/
theorem second_pass (messages : List Message) (past : List Event) (replay : Replay)
    (traces : List (String × Option Text.Stream)) :
    let start : Playback := ⟨replay, (Recorder.fresh messages).run past⟩
    let once := (Session.replayTraces start traces).2
    let twice := (Session.replayTraces once traces).2
    once.recorder.current = start.recorder.current →
      once.recorder.enabled = start.recorder.enabled →
        start.recorder.openFunction? = none → once.recorder.openFunction? = none →
          List.Forall₂ Module.Repeated once.recorder.modules twice.recorder.modules ∧
            twice.recorder.paths = once.recorder.paths ∧
            ∀ version, SymbolFile.entries version twice.recorder.modules =
              SymbolFile.entries version once.recorder.modules := by
  intro start once twice current enabled free closed
  let files := openedFiles traces
  have first : once = ⟨replay.afterFiles files, start.recorder.run (replay.events files)⟩ :=
    replayTraces_snd start traces
  have second : twice.recorder = once.recorder.run (replay.events files) := by
    simp only [twice, replayTraces_snd]
    rw [first, Replay.events_afterFiles]
  rw [first] at current enabled closed
  obtain ⟨modules, paths⟩ := Recorder.run_again messages
    (replay.clear_not_mem_events files) current enabled free closed
  rw [second, first]
  refine ⟨modules, paths, fun version => (SymbolFile.entries_eq_of_forall₂ ?_ version).symm⟩
  exact modules.imp fun _ _ repeated => repeated.sameExport

/-- Two files.  The first enters a module, where one function closes another, and disables
recording.  The second enables it, leaves the module and goes on in the default one. -/
theorem second_pass_of_two_files :
    let first := "module a.asm\nlabel 16 start\nfunc 16\nfunc 24\nendfunc 40\ndisable\n"
    let second := "enable\nendmodule a.asm\ndata 64 4 dbl\nfunc 64\nendfunc 72"
    let traces :=
      [("a.trace", some ⟨Text.encode first, false⟩), ("b.trace", some ⟨Text.encode second, false⟩)]
    let start : Playback := ⟨{}, (Recorder.fresh []).run []⟩
    let once := (Session.replayTraces start traces).2
    let twice := (Session.replayTraces once traces).2
    once.recorder.current = start.recorder.current ∧
      once.recorder.enabled = start.recorder.enabled ∧
      start.recorder.openFunction? = none ∧ once.recorder.openFunction? = none ∧
      SymbolFile.entries 2 twice.recorder.modules = SymbolFile.entries 2 once.recorder.modules := by
  intro first second traces start once twice
  have settled : once.recorder.current = start.recorder.current ∧
      once.recorder.enabled = start.recorder.enabled ∧
      start.recorder.openFunction? = none ∧ once.recorder.openFunction? = none := by
    decide +kernel
  obtain ⟨current, enabled, free, closed⟩ := settled
  have passed := second_pass [] [] {} traces current enabled free closed
  exact ⟨current, enabled, free, closed, passed.2.2 2⟩

end DebugSymbols.Trace
