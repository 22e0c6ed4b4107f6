import DebugSymbols.Proofs.Recorder.Tables
import DebugSymbols.Proofs.Table.Tokens
import DebugSymbols.Proofs.Trace.Names
/-!
# Modules and their names

A trace names modules, and the recorder knows them by tokens.  As long as a
token has room for all names there is one module for each name that is started,
in order of first use.  The current one is named by the latest start unless that
name has been ended since, and ending any other name changes nothing.
-/

namespace DebugSymbols.Trace

/-! ## One move -/

namespace Playback

structure Named (past : List Move) (playback : Playback) : Prop where
  good : playback.recorder.WellFormed
  names : playback.replay.tokens.names = namesIn past
  tokens : playback.recorder.tokens =
    none :: (startedIn past).map fun name => some (playback.replay.tokens.tokenOf name)
  current : ∀ token, playback.recorder.protocol.current = some token ↔
    ∃ name, Standing past name ∧ playback.replay.tokens.tokenOf name = token

namespace Named

variable {past : List Move} {playback after : Playback} {move : Move}

theorem mem_names (named : Named past playback) {name : String} (started : name ∈ startedIn past) :
    name ∈ playback.replay.tokens.names :=
  named.names ▸ startedIn_subset past started

/-- Moves that have nothing to do with modules keep the names. -/
theorem of_unnamed (named : Named past playback) (unstarted : move.started? = none)
    (unended : move.ended? = none) (good : after.recorder.WellFormed)
    (names : after.replay.tokens = playback.replay.tokens)
    (tokens : after.recorder.tokens = playback.recorder.tokens)
    (current : after.recorder.protocol.current = playback.recorder.protocol.current) :
    Named (past ++ [move]) after where
  good := good
  names := by
    have unnamed : move.named? = none := by rw [Move.named?, unstarted, unended]; rfl
    rw [names, named.names, namesIn_concat, unnamed, Option.elim_none]
  tokens := by
    rw [tokens, names, named.tokens, startedIn_concat, unstarted, Option.elim_none]
  current := by
    intro token
    rw [current, names, named.current]
    refine exists_congr fun name => and_congr_left fun _ => ?_
    rw [standing_concat_iff, unstarted, unended]
    simp

/-- The names that have been started keep their tokens. -/
theorem tokenOf_insert (named : Named past playback) (name : String) {other : String}
    (started : other ∈ startedIn past) :
    (playback.replay.tokens.insert name).tokenOf other = playback.replay.tokens.tokenOf other :=
  FileTokens.tokenOf_eq_of_isPrefix (named.mem_names started)
    (FileTokens.names_isPrefix_insert _ name)

theorem names_insert (named : Named past playback) {name : String}
    (brought : move.named? = some name) :
    (playback.replay.tokens.insert name).names = namesIn (past ++ [move]) := by
  rw [namesIn_concat, brought, Option.elim_some, ← named.names]
  rfl

/-- The tokens of a recorder by the names after one more. -/
theorem tokens_insert (named : Named past playback) (name : String) :
    playback.recorder.tokens = none :: (startedIn past).map fun other =>
      some ((playback.replay.tokens.insert name).tokenOf other) := by
  rw [named.tokens]
  refine congrArg (none :: ·) (List.map_congr_left fun other started => ?_)
  rw [named.tokenOf_insert name started]

theorem current_insert (named : Named past playback) (name : String) (token : FileToken) :
    playback.recorder.protocol.current = some token ↔
      ∃ other, Standing past other ∧
        (playback.replay.tokens.insert name).tokenOf other = token := by
  rw [named.current]
  refine exists_congr fun other => and_congr_right fun standing => ?_
  rw [named.tokenOf_insert name standing.mem_startedIn]

/-- As long as all names fit, a name that has been started keeps its token for itself. -/
theorem eq_of_tokenOf_insert (named : Named past playback) {name other : String}
    (brought : move.named? = some name)
    (fits : (namesIn (past ++ [move])).length ≤ UInt32.size) (started : other ∈ startedIn past)
    (same : (playback.replay.tokens.insert name).tokenOf other =
      (playback.replay.tokens.insert name).tokenOf name) : other = name := by
  have fitting : (playback.replay.tokens.insert name).names.length ≤ UInt32.size := by
    rwa [named.names_insert brought]
  have earlier : other ∈ (playback.replay.tokens.insert name).names :=
    (FileTokens.names_isPrefix_insert _ name).subset (named.mem_names started)
  exact FileTokens.tokenOf_injective fitting earlier (FileTokens.mem_names_insert _ name) same

end Named

theorem tokens_step_startModule (playback : Playback) (index : Nat) (name : String) :
    (playback.step index (.startModule name)).replay.tokens =
      playback.replay.tokens.insert name := by
  rw [step_eq, Replay.advance, Replay.apply, Replay.tokens_follow]

theorem recorder_step_startModule (playback : Playback) (index : Nat) (name : String) :
    (playback.step index (.startModule name)).recorder =
      playback.recorder.startModule ((playback.replay.tokens.insert name).tokenOf name) := by
  rw [step_eq, Replay.advance, Replay.apply, Replay.tokens_follow]
  rfl

theorem tokens_step_endModule (playback : Playback) (index : Nat) (name : String) :
    (playback.step index (.endModule name)).replay.tokens = playback.replay.tokens.insert name := by
  rw [step_eq, Replay.advance, Replay.apply, Replay.tokens_follow]

theorem recorder_step_endModule (playback : Playback) (index : Nat) (name : String) :
    (playback.step index (.endModule name)).recorder =
      (playback.recorder.endModule
        (some ((playback.replay.tokens.insert name).tokenOf name))).2 := by
  rw [step_eq, Replay.advance, Replay.apply, Replay.tokens_follow]
  rfl

namespace Named

variable {past : List Move} {playback : Playback}

theorem startModule (named : Named past playback) {index : Nat} {name : String}
    (fits : (namesIn (past ++ [.perform index (.startModule name)])).length ≤ UInt32.size) :
    Named (past ++ [.perform index (.startModule name)])
      (playback.step index (.startModule name)) where
  good := by
    rw [recorder_step_startModule]
    exact named.good.startModule _
  names := by
    rw [tokens_step_startModule]
    exact named.names_insert rfl
  tokens := by
    let final := playback.replay.tokens.insert name
    have injective : ∀ other ∈ startedIn past,
        some (final.tokenOf other) = some (final.tokenOf name) → other = name :=
      fun other started same =>
        named.eq_of_tokenOf_insert rfl fits started (Option.some.inj same)
    rw [recorder_step_startModule, tokens_step_startModule, Recorder.tokens_startModule,
      named.tokens_insert name, startedIn_concat,
      Table.appendNew_cons_of_ne (Option.some_ne_none _)]
    exact congrArg (none :: ·) (Table.appendNew_map injective)
  current := by
    intro token
    rw [recorder_step_startModule, tokens_step_startModule, Recorder.protocol_startModule]
    constructor
    · intro same
      exact ⟨name, standing_concat_iff.2 (Or.inl rfl), Option.some.inj same⟩
    · rintro ⟨other, standing, rfl⟩
      rcases standing_concat_iff.1 standing with begun | ⟨unstarted, _⟩
      · cases begun
        rfl
      · cases unstarted

theorem endModule (named : Named past playback) {index : Nat} {name : String}
    (fits : (namesIn (past ++ [.perform index (.endModule name)])).length ≤ UInt32.size) :
    Named (past ++ [.perform index (.endModule name)])
      (playback.step index (.endModule name)) where
  good := by
    rw [recorder_step_endModule]
    exact named.good.endModule _
  names := by
    rw [tokens_step_endModule]
    exact named.names_insert rfl
  tokens := by
    let ended := some ((playback.replay.tokens.insert name).tokenOf name)
    have recorded := playback.recorder.recorded_endModule ended
    rw [recorder_step_endModule, tokens_step_endModule, startedIn_concat]
    exact recorded.tokens.trans (named.tokens_insert name)
  current := by
    intro token
    rw [recorder_step_endModule, tokens_step_endModule,
      Recorder.current_protocol_endModule named.good]
    constructor
    · intro kept
      split at kept
      case isTrue => cases kept
      case isFalse different =>
        obtain ⟨other, standing, rfl⟩ := (named.current_insert name token).1 kept
        refine ⟨other, standing_concat_iff.2 (Or.inr ⟨rfl, ?_, standing⟩), rfl⟩
        rintro same
        cases same
        exact different kept
    · rintro ⟨other, standing, rfl⟩
      rcases standing_concat_iff.1 standing with begun | ⟨_, unended, standing⟩
      · cases begun
      · have current := (named.current_insert name _).2 ⟨other, standing, rfl⟩
        refine (if_neg fun same => unended ?_).trans current
        have tokens := Option.some.inj (current.symm.trans same)
        have ended := named.eq_of_tokenOf_insert rfl fits standing.mem_startedIn tokens
        exact congrArg some ended.symm

/-- A command that asks for another event keeps the names. -/
theorem of_event (named : Named past playback) {index : Nat} {command : Command} {event : Event}
    (unstarted : Move.started? (.perform index command) = none)
    (unended : Move.ended? (.perform index command) = none)
    (asked : (playback.replay.advance index command).event? command = some event)
    (tokens : (playback.replay.advance index command).tokens = playback.replay.tokens)
    (uncleared : event ≠ .clear)
    (idle : Moment.started? ⟨playback.recorder.stage, event⟩ = none)
    (kept : (playback.recorder.protocol.step event).2.current =
      playback.recorder.protocol.current) :
    Named (past ++ [.perform index command]) (playback.step index command) := by
  obtain ⟨same, current⟩ := Recorder.keeps_modules named.good uncleared idle kept
  rw [step_eq, asked]
  exact named.of_unnamed unstarted unended (named.good.step event) tokens same current

theorem perform (named : Named past playback) {index : Nat} {command : Command}
    (fits : (namesIn (past ++ [.perform index command])).length ≤ UInt32.size) :
    Named (past ++ [.perform index command]) (playback.step index command) := by
  have follow := playback.replay.tokens_follow index
  cases command
  case startModule name => exact named.startModule fits
  case endModule name => exact named.endModule fits
  case file | line =>
    rw [step_eq]
    exact named.of_unnamed rfl rfl named.good follow rfl rfl
  case endFunction address =>
    exact named.of_event rfl rfl rfl follow nofun rfl (Protocol.current_endFunction _)
  all_goals exact named.of_event rfl rfl rfl follow nofun rfl rfl

theorem move (named : Named past playback) {move : Move}
    (fits : (namesIn (past ++ [move])).length ≤ UInt32.size) :
    Named (past ++ [move]) (playback.move move) := by
  cases move with
  | turn path => exact named.of_unnamed rfl rfl named.good rfl rfl rfl
  | perform index command => exact named.perform fits

/-- The names go with the moves from the beginning on. -/
theorem moveAll {start : Playback} (named : Named [] start) {moves : List Move}
    (fits : (namesIn moves).length ≤ UInt32.size) : Named moves (start.moveAll moves) := by
  induction moves using List.reverseRecOn with
  | nil => exact named
  | append_singleton moves move ih =>
      have fewer := length_namesIn_le (List.subset_append_left moves [move])
      rw [moveAll_append]
      exact (ih (Nat.le_trans fewer fits)).move fits

theorem start (messages : List Message) (settings : Settings) :
    Named [] ⟨{}, (Recorder.fresh messages).configure settings⟩ where
  good := (Recorder.WellFormed.fresh messages).step (.configure settings)
  names := rfl
  tokens := rfl
  current := by
    intro token
    constructor
    · intro impossible
      cases impossible
    · rintro ⟨name, standing, _⟩
      exact absurd standing not_standing_nil

end Named

/-! ## What the names say -/

variable (playback : Playback)

def nameOf? (module : Module) : Option String :=
  module.token.bind playback.replay.tokens.name?

def moduleNames : List (Option String) :=
  playback.recorder.modules.map playback.nameOf?

def currentName? : Option String :=
  playback.nameOf? playback.recorder.currentModule

def titles : List String :=
  (playback.recorder.listing playback.replay.tokens).map Listing.Section.title

/-- The modules are the default one and one for each name that has been started, and the names tell
which of them is current. -/
structure FollowsNames (past : List Move) (playback : Playback) : Prop where
  default : playback.recorder.tokens[0]? = some none
  modules : playback.moduleNames = none :: (startedIn past).map some
  titles : playback.titles = "module 0" :: startedIn past
  current : ∀ name, playback.currentName? = some name ↔ Standing past name
  outside : playback.recorder.current = 0 ↔ ∀ name, ¬Standing past name

theorem titles_eq : playback.titles =
    playback.moduleNames.zipIdx.map fun named => named.1.getD ("module " ++ decimal named.2) := by
  rw [titles, Recorder.listing, moduleNames, List.zipIdx_map, List.map_map, List.map_map]
  refine List.map_congr_left fun numbered _ => ?_
  change Recorder.moduleTitle _ _ _ = _
  unfold Recorder.moduleTitle
  cases named : numbered.1.token.bind playback.replay.tokens.name? with
  | none => rw [Function.comp_apply, Prod.map, nameOf?, named]; rfl
  | some name => rw [Function.comp_apply, Prod.map, nameOf?, named]; rfl

namespace Named

variable {past : List Move} {playback : Playback} (named : Named past playback)
include named

theorem moduleNames_eq (fits : (namesIn past).length ≤ UInt32.size) :
    playback.moduleNames = none :: (startedIn past).map some := by
  have fitting : playback.replay.tokens.names.length ≤ UInt32.size := named.names ▸ fits
  have read : playback.moduleNames =
      playback.recorder.tokens.map (·.bind playback.replay.tokens.name?) := by
    rw [moduleNames, Recorder.tokens, List.map_map]
    rfl
  rw [read, named.tokens, List.map_cons, List.map_map]
  refine congrArg (none :: ·) (List.map_congr_left fun name started => ?_)
  exact FileTokens.name?_tokenOf fitting (named.mem_names started)

theorem titles_eq_cons (fits : (namesIn past).length ≤ UInt32.size) :
    playback.titles = "module 0" :: startedIn past := by
  rw [titles_eq, named.moduleNames_eq fits, List.zipIdx_cons, List.zipIdx_map, List.map_cons,
    List.map_map]
  have zero : "module " ++ decimal 0 = "module 0" := by decide +kernel
  refine congrArg₂ List.cons zero ?_
  exact List.zipIdx_map_fst _ _

theorem currentName?_eq_some_iff (fits : (namesIn past).length ≤ UInt32.size) (name : String) :
    playback.currentName? = some name ↔ Standing past name := by
  have fitting : playback.replay.tokens.names.length ≤ UInt32.size := named.names ▸ fits
  rw [currentName?, nameOf?, Option.bind_eq_some_iff]
  constructor
  · rintro ⟨token, current, found⟩
    obtain ⟨other, standing, rfl⟩ := (named.current token).1 current
    have back := FileTokens.name?_tokenOf fitting (named.mem_names standing.mem_startedIn)
    exact Option.some.inj (back.symm.trans found) ▸ standing
  · intro standing
    exact ⟨_, (named.current _).2 ⟨name, standing, rfl⟩,
      FileTokens.name?_tokenOf fitting (named.mem_names standing.mem_startedIn)⟩

theorem current_eq_zero_iff : playback.recorder.current = 0 ↔ ∀ name, ¬Standing past name := by
  have unnamed := named.good.token_eq_none_iff named.good.getElem?_current
  rw [← unnamed]
  change playback.recorder.protocol.current = none ↔ _
  rw [Option.eq_none_iff_forall_ne_some]
  constructor
  · intro none name standing
    exact none _ ((named.current _).2 ⟨name, standing, rfl⟩)
  · intro none token current
    obtain ⟨name, standing, _⟩ := (named.current token).1 current
    exact none name standing

theorem followsNames (fits : (namesIn past).length ≤ UInt32.size) :
    FollowsNames past playback where
  default := named.good.default_first
  modules := named.moduleNames_eq fits
  titles := named.titles_eq_cons fits
  current := named.currentName?_eq_some_iff fits
  outside := named.current_eq_zero_iff

omit named in
/-- States with the same names have the same current module. -/
theorem current_eq {others : List Move} {other : Playback} (named : Named past playback)
    (namedOther : Named others other) (fits : (namesIn past).length ≤ UInt32.size)
    (fitsOther : (namesIn others).length ≤ UInt32.size)
    (started : startedIn past = startedIn others)
    (standing : ∀ name, Standing past name ↔ Standing others name) :
    playback.moduleNames = other.moduleNames ∧
      playback.recorder.current = other.recorder.current := by
  have names : playback.moduleNames = other.moduleNames := by
    rw [named.moduleNames_eq fits, namedOther.moduleNames_eq fitsOther, started]
  have current : playback.currentName? = other.currentName? := by
    refine Option.ext fun name => ?_
    rw [named.currentName?_eq_some_iff fits, namedOther.currentName?_eq_some_iff fitsOther,
      standing]
  have here : playback.moduleNames[playback.recorder.current]? = some playback.currentName? := by
    rw [moduleNames, List.getElem?_map, named.good.getElem?_current]
    rfl
  have there : other.moduleNames[other.recorder.current]? = some other.currentName? := by
    rw [moduleNames, List.getElem?_map, namedOther.good.getElem?_current]
    rfl
  have once : playback.moduleNames.Nodup := by
    rw [named.moduleNames_eq fits, List.nodup_cons]
    exact ⟨by simp, (Table.nodup_eraseDups _).map fun _ _ => Option.some.inj⟩
  have within := (List.getElem?_eq_some_iff.1 here).1
  refine ⟨names, (List.getElem?_inj within once).1 ?_⟩
  rw [here, current, names, there]

/-- Ending the name that stands closes the current module. -/
theorem current_endModule_of_standing {index : Nat} {name : String}
    (fits : (namesIn (past ++ [.perform index (.endModule name)])).length ≤ UInt32.size)
    (standing : Standing past name) :
    playback.recorder.current ≠ 0 ∧
      (playback.step index (.endModule name)).recorder.current = 0 := by
  have fewer := length_namesIn_le (List.subset_append_left past [.perform index (.endModule name)])
  have fitting := Nat.le_trans fewer fits
  refine ⟨fun default => named.current_eq_zero_iff.1 default name standing, ?_⟩
  refine (named.endModule fits).current_eq_zero_iff.2 fun other later => ?_
  rcases standing_concat_iff.1 later with begun | ⟨_, unended, earlier⟩
  · cases begun
  · have here := (named.currentName?_eq_some_iff fitting name).2 standing
    have there := (named.currentName?_eq_some_iff fitting other).2 earlier
    exact unended (here.symm.trans there)

/-- Ending any other name leaves the recorder as it is. -/
theorem recorder_endModule_of_not_standing {index : Nat} {name : String}
    (fits : (namesIn (past ++ [.perform index (.endModule name)])).length ≤ UInt32.size)
    (fallen : ¬Standing past name) :
    (playback.step index (.endModule name)).recorder = playback.recorder := by
  let token := (playback.replay.tokens.insert name).tokenOf name
  have other : some token ≠ playback.recorder.currentModule.token := by
    intro same
    obtain ⟨other, standing, tokens⟩ := (named.current_insert name token).1 same.symm
    have ended := named.eq_of_tokenOf_insert rfl fits standing.mem_startedIn tokens
    exact fallen (ended ▸ standing)
  rw [recorder_step_endModule, Recorder.endModule_of_ne _ other]
  exact playback.recorder.report_nil

omit named in
/-- Ending a name that does not stand makes no difference to any module later. -/
theorem moveAll_endModule_of_not_standing {start : Playback} (named : Named [] start)
    {later : List Move} {index : Nat} {name : String}
    (fits : (namesIn (past ++ .perform index (.endModule name) :: later)).length ≤ UInt32.size)
    (fallen : ¬Standing past name) :
    let ended := start.moveAll (past ++ .perform index (.endModule name) :: later)
    let left := start.moveAll (past ++ later)
    ended.moduleNames = left.moduleNames ∧ ended.recorder.current = left.recorder.current := by
  intro ended left
  have fewer : past ++ later ⊆ past ++ .perform index (.endModule name) :: later :=
    ((List.sublist_cons_self _ later).append_left past).subset
  have fitsLeft := Nat.le_trans (length_namesIn_le fewer) fits
  refine (named.moveAll fits).current_eq (named.moveAll fitsLeft) fits fitsLeft ?_
    fun _ => standing_append_cons_iff fallen
  rw [startedIn, startedIn, List.filterMap_append, List.filterMap_append]
  rfl

end Named

end Playback

/-- In a replay whose names fit in tokens, there is the default module and one for each name that
has been started, in order of first use, and each of these is listed under its name.  The current
module is named by the latest start unless that name has been ended since.  Ending the name of the
current module closes it, and ending any other name makes no difference then or later. -/
theorem modules_follow_names (messages : List Message) (settings : Settings)
    (traces : List (String × Option Text.Stream))
    (fits : (namesIn (moves (openedFiles traces))).length ≤ UInt32.size) :
    let start : Playback := ⟨{}, (Recorder.fresh messages).configure settings⟩
    let all := moves (openedFiles traces)
    (Session.replayTraces start traces).2 = start.moveAll all ∧
      (∀ past, past <+: all → (start.moveAll past).FollowsNames past) ∧
      ∀ past index name later, past ++ .perform index (.endModule name) :: later <+: all →
        let before := start.moveAll past
        let after := before.move (.perform index (.endModule name))
        (before.currentName? = some name →
            before.recorder.current ≠ 0 ∧ after.recorder.current = 0) ∧
          (before.currentName? ≠ some name →
            after.recorder = before.recorder ∧
              (after.moveAll later).moduleNames = (before.moveAll later).moduleNames ∧
              (after.moveAll later).recorder.current = (before.moveAll later).recorder.current) := by
  intro start all
  have named : Playback.Named [] start := .start messages settings
  have fitting : ∀ {moves : List Move}, moves ⊆ all → (namesIn moves).length ≤ UInt32.size :=
    fun subset => Nat.le_trans (length_namesIn_le subset) fits
  refine ⟨replayTraces_eq_moveAll start traces, ?_, ?_⟩
  · intro past reached
    have fewer := fitting reached.subset
    exact (named.moveAll fewer).followsNames fewer
  · intro past index name later reached before after
    let ending : Move := .perform index (.endModule name)
    have whole : past ++ ending :: later ⊆ all := reached.subset
    have ended : past ++ [ending] ⊆ all :=
      fun move member => whole (List.append_cons past ending later ▸ List.mem_append_left _ member)
    have fits : (namesIn past).length ≤ UInt32.size :=
      fitting fun move member => whole (List.mem_append_left _ member)
    have here : Playback.Named past before := named.moveAll fits
    have standing_iff := here.currentName?_eq_some_iff fits name
    refine ⟨fun current =>
      here.current_endModule_of_standing (fitting ended) (standing_iff.1 current), fun other => ?_⟩
    have fallen : ¬Standing past name := mt standing_iff.2 other
    refine ⟨here.recorder_endModule_of_not_standing (fitting ended) fallen, ?_⟩
    have same := named.moveAll_endModule_of_not_standing (fitting whole) fallen
    rwa [Playback.moveAll_append, Playback.moveAll_append] at same

/-- The name `z` is ended only, and so it takes a token but no module.  Ending `a` while `b` is
current does nothing, and starting `a` once more finds its module again. -/
theorem modules_follow_names_of_two_traces :
    let traces :=
      [("t", some ⟨Text.encode "endmodule z\nmodule a\nmodule b\nendmodule a", false⟩),
        ("u", some ⟨Text.encode "endmodule b\nmodule a\n", false⟩)]
    let final := (Session.replayTraces ⟨{}, (Recorder.fresh []).configure {}⟩ traces).2
    namesIn (moves (openedFiles traces)) = ["z", "a", "b"] ∧
      (namesIn (moves (openedFiles traces))).length ≤ UInt32.size ∧
      final.moduleNames = [none, some "a", some "b"] ∧ final.titles = ["module 0", "a", "b"] ∧
      final.currentName? = some "a" ∧ final.recorder.current ≠ 0 := by
  intro traces final
  have all : moves (openedFiles traces) =
      [.turn "t", .perform 0 (.endModule "z"), .perform 1 (.startModule "a"),
        .perform 2 (.startModule "b"), .perform 3 (.endModule "a"), .turn "u",
        .perform 0 (.endModule "b")] ++ [.perform 1 (.startModule "a")] := by
    decide +kernel
  have names : namesIn (moves (openedFiles traces)) = ["z", "a", "b"] := by
    rw [all]
    decide
  have started : startedIn (moves (openedFiles traces)) = ["a", "b"] := by
    rw [all]
    decide
  have fits : (namesIn (moves (openedFiles traces))).length ≤ UInt32.size := by
    rw [names]
    decide
  have standing : Standing (moves (openedFiles traces)) "a" := by
    rw [all]
    exact standing_concat_iff.2 (Or.inl rfl)
  obtain ⟨same, follows, _⟩ := modules_follow_names [] {} traces fits
  have follows := follows _ List.prefix_rfl
  rw [← same] at follows
  refine ⟨names, fits, ?_, ?_, (follows.current "a").2 standing, ?_⟩
  · rw [follows.modules, started]
    rfl
  · rw [follows.titles, started]
  · exact fun default => follows.outside.1 default "a" standing

end DebugSymbols.Trace
