import DebugSymbols.Proofs.Recorder.Steering
import DebugSymbols.Proofs.Table.Aligned
/-!
# Switching recording on and off

The flag decides whether labels and data are recorded, and nothing else.  Two
runs that differ only in when it is switched have the same modules, functions
and reports all the way.  If one of them is enabled whenever a label or data
comes while the other is, it holds everything that the other holds.
-/

namespace DebugSymbols

/-! ## Calls -/

def Event.isSwitch : Event → Bool
  | .setEnabled _ => true
  | _ => false

/-- An event together with the recorder that it comes to. -/
structure Call where
  recorder : Recorder
  event : Event
  deriving DecidableEq, Repr

namespace Call

def reply (call : Call) : Reply :=
  (call.recorder.step call.event).1

def after (call : Call) : Recorder :=
  (call.recorder.step call.event).2

end Call

/-- The events of a run apart from switches, each with the recorder that it comes to. -/
def Recorder.calls (recorder : Recorder) : List Event → List Call
  | [] => []
  | event :: rest =>
      if event.isSwitch then (recorder.step event).2.calls rest
      else ⟨recorder, event⟩ :: (recorder.step event).2.calls rest

namespace Recorder

theorem calls_concat (recorder : Recorder) (events : List Event) (event : Event) :
    recorder.calls (events ++ [event]) =
      recorder.calls events ++ if event.isSwitch then [] else [⟨recorder.run events, event⟩] := by
  induction events generalizing recorder with
  | nil =>
      rw [List.nil_append, calls.eq_2, calls.eq_1]
      exact (List.nil_append _).symm
  | cons first rest ih =>
      rw [List.cons_append, calls, calls, ih]
      split
      · rfl
      · rfl

theorem calls_concat_of_switch {event : Event} (switching : event.isSwitch = true)
    (recorder : Recorder) (events : List Event) :
    recorder.calls (events ++ [event]) = recorder.calls events := by
  rw [calls_concat, if_pos switching, List.append_nil]

theorem calls_concat_of_not_switch {event : Event} (other : event.isSwitch = false)
    (recorder : Recorder) (events : List Event) :
    recorder.calls (events ++ [event]) =
      recorder.calls events ++ [⟨recorder.run events, event⟩] := by
  rw [calls_concat, if_neg (by simp [other])]

/-- A switch changes nothing but the flag. -/
theorem moduleAt_run_concat_of_switch {event : Event} (switching : event.isSwitch = true)
    (recorder : Recorder) (events : List Event) (token : Option FileToken) :
    (recorder.run (events ++ [event])).moduleAt token = (recorder.run events).moduleAt token := by
  rw [run_append]
  cases event
  case setEnabled => rfl
  all_goals cases switching

end Recorder

/-- A switch has no part in the course of a run. -/
theorem course_filter_isSwitch (events : List Event) :
    course (events.filter fun event => !event.isSwitch) = course events := by
  rw [course, List.filterMap_filter]
  refine List.filterMap_congr fun event _ => ?_
  cases event
  all_goals rfl

/-! ## What a step adds -/

namespace Recorder

variable {moment : Moment} {before after : Recorder}

theorem mem_elim_appendNew {α : Type} [DecidableEq α] {items : List α} {added : Option α}
    {item : α} :
    item ∈ added.elim items (Table.appendNew items) ↔ item ∈ items ∨ added = some item := by
  cases added with
  | none => simp
  | some other =>
      rw [Option.elim_some, Table.mem_appendNew, Option.some.injEq]
      exact or_congr_right eq_comm

theorem Recorded.mem_symbols_iff (recorded : Recorded moment before after)
    {token : Option FileToken} {symbol : Symbol} :
    symbol ∈ (after.moduleAt token).symbols ↔
      symbol ∈ (before.moduleAt token).symbols ∨ moment.label? token = some symbol := by
  rw [recorded.symbols]
  exact mem_elim_appendNew

theorem Recorded.mem_data_iff (recorded : Recorded moment before after)
    {token : Option FileToken} {entry : DataEntry} :
    entry ∈ (after.moduleAt token).data ↔
      entry ∈ (before.moduleAt token).data ∨ moment.datum? token = some entry := by
  rw [recorded.data]
  exact mem_elim_appendNew

theorem SameRecords.known_eq (same : SameRecords before after) (token : Option FileToken) :
    (after.moduleAt token).known = (before.moduleAt token).known :=
  congrArg (List.map Prod.fst) (same.records token)

/-- A step adds the address that it mentions to the known ones. -/
theorem Recorded.mem_known_iff (recorded : Recorded moment before after)
    {token : Option FileToken} {address : Int64} :
    address ∈ (after.moduleAt token).known ↔
      address ∈ (before.moduleAt token).known ∨
        ∃ place, moment.mention? = some ⟨token, address, place⟩ := by
  have records := recorded.records
  cases mentioned : moment.mention? with
  | none =>
      rw [mentioned] at records
      rw [SameRecords.known_eq records]
      simp
  | some mention =>
      rw [mentioned, Option.elim_some, Mentioned] at records
      split at records
      case isTrue standing =>
        rw [records.known_eq]
        refine ⟨Or.inl, ?_⟩
        rintro (known | ⟨place, same⟩)
        · exact known
        · cases same
          exact standing
      case isFalse =>
        have added := congrArg (List.map Prod.fst) (records.records token)
        rw [Module.known, added]
        split
        case isTrue here =>
          subst here
          rw [List.map_append, List.mem_append, List.map_singleton, List.mem_singleton]
          refine or_congr_right ⟨?_, ?_⟩
          · rintro rfl
            exact ⟨mention.place, rfl⟩
          · rintro ⟨place, same⟩
            exact congrArg Mention.address (Option.some.inj same).symm
        case isFalse other =>
          refine ⟨Or.inl, ?_⟩
          rintro (known | ⟨place, same⟩)
          · exact known
          · cases same
            exact absurd rfl other

end Recorder

/-! ## Holding more -/

structure Module.Contains (large small : Module) : Prop where
  token : large.token = small.token
  symbols : small.symbols ⊆ large.symbols
  data : small.data ⊆ large.data
  known : small.known ⊆ large.known

def Recorder.Contains (large small : Recorder) : Prop :=
  List.Forall₂ Module.Contains large.modules small.modules

theorem Module.Contains.refl (module : Module) : module.Contains module :=
  ⟨rfl, List.Subset.refl _, List.Subset.refl _, List.Subset.refl _⟩

section Stages

variable {large small : Stage} {event : Event} (protocol : large.toProtocol = small.toProtocol)
  (covers : event.isEntry = true → small.enabled = true → large.enabled = true)

include protocol covers

theorem label?_of_covers {token : Option FileToken} {symbol : Symbol}
    (recorded : Moment.label? token ⟨small, event⟩ = some symbol) :
    Moment.label? token ⟨large, event⟩ = some symbol := by
  cases event
  case addLabel place address name =>
    obtain ⟨⟨enabled, here⟩, same⟩ := Option.ite_none_right_eq_some.1 recorded
    rw [← protocol] at here
    exact Option.ite_none_right_eq_some.2 ⟨⟨covers rfl enabled, here⟩, same⟩
  all_goals cases recorded

theorem datum?_of_covers {token : Option FileToken} {entry : DataEntry}
    (recorded : Moment.datum? token ⟨small, event⟩ = some entry) :
    Moment.datum? token ⟨large, event⟩ = some entry := by
  cases event
  case addData place address size kind =>
    obtain ⟨⟨enabled, here⟩, same⟩ := Option.ite_none_right_eq_some.1 recorded
    rw [← protocol] at here
    exact Option.ite_none_right_eq_some.2 ⟨⟨covers rfl enabled, here⟩, same⟩
  all_goals cases recorded

theorem mention?_of_covers {mention : Mention}
    (recorded : Moment.mention? ⟨small, event⟩ = some mention) :
    Moment.mention? ⟨large, event⟩ = some mention := by
  cases event
  case addLabel | addData =>
    obtain ⟨enabled, same⟩ := Option.ite_none_right_eq_some.1 recorded
    rw [← protocol] at same
    exact Option.ite_none_right_eq_some.2 ⟨covers rfl enabled, same⟩
  case addAddress | startFunction =>
    rw [← recorded, Moment.mention?, Moment.mention?, protocol]
  all_goals cases recorded

end Stages

namespace Recorder

variable {large small : Recorder}

/-- A step that records in the larger recorder what it records in the smaller one. -/
theorem contains_step (goodLarge : large.WellFormed) (goodSmall : small.WellFormed)
    (protocol : large.protocol = small.protocol) {event : Event}
    (covers : event.isEntry = true → small.enabled = true → large.enabled = true)
    (within : ∀ token, (large.moduleAt token).Contains (small.moduleAt token))
    (token : Option FileToken) :
    ((large.step event).2.moduleAt token).Contains ((small.step event).2.moduleAt token) := by
  by_cases clearing : event = .clear
  · subst clearing
    rw [moduleAt_of_blank rfl, moduleAt_of_blank rfl]
    exact .refl _
  · have first := recorded_step goodLarge clearing
    have second := recorded_step goodSmall clearing
    have stages : large.stage.toProtocol = small.stage.toProtocol := protocol
    refine ⟨by rw [token_moduleAt, token_moduleAt], fun symbol member => ?_,
      fun entry member => ?_, fun address member => ?_⟩
    · rw [second.mem_symbols_iff] at member
      exact first.mem_symbols_iff.2
        (member.imp (fun held => (within token).symbols held) (label?_of_covers stages covers))
    · rw [second.mem_data_iff] at member
      exact first.mem_data_iff.2
        (member.imp (fun held => (within token).data held) (datum?_of_covers stages covers))
    · rw [second.mem_known_iff] at member
      refine first.mem_known_iff.2 (member.imp (fun held => (within token).known held) ?_)
      rintro ⟨place, mentioned⟩
      exact ⟨place, mention?_of_covers stages covers mentioned⟩

end Recorder

/-! ## Two runs -/

/-- Two calls of the same event that are answered alike and leave the same modules, functions and
reports.  The index of an address record may differ. -/
structure Call.Alike (call other : Call) : Prop where
  event : call.event = other.event
  reply : (∀ place address, call.event ≠ .addAddress place address) → call.reply = other.reply
  frame : Recorder.SameFrame call.after other.after
  openFunction : call.after.openFunction? = other.after.openFunction?
  messages : call.after.messages = other.after.messages

/-- A call that records its label or its data if another call does. -/
def Call.Covers (call other : Call) : Prop :=
  call.event.isEntry = true → other.recorder.enabled = true → call.recorder.enabled = true

instance (call other : Call) : Decidable (call.Covers other) :=
  inferInstanceAs (Decidable (_ → _ → _))

namespace Recorder

variable {messages : List Message} {first second : List Event}

/-- Closing events are answered by the protocol, and a module is started under its index. -/
theorem reply_eq_of_sameFrame {one other : Recorder} (good : one.WellFormed)
    (goodOther : other.WellFormed) (protocol : one.protocol = other.protocol) {event : Event}
    (unsaved : ∀ place, event ≠ .save place)
    (unlocated : ∀ place address, event ≠ .addAddress place address)
    (frame : SameFrame (one.step event).2 (other.step event).2) :
    (one.step event).1 = (other.step event).1 := by
  have answers : (one.step event).1.violation? = (other.step event).1.violation? := by
    have first := congrArg Prod.fst (observe_step good event)
    have second := congrArg Prod.fst (observe_step goodOther event)
    rw [← protocol] at second
    exact first.trans second.symm
  cases event
  case startModule token => exact congrArg Reply.index frame.current
  case endModule token => exact congrArg Reply.closed answers
  case endFunction address => exact congrArg Reply.closed answers
  case addAddress place address => exact absurd rfl (unlocated place address)
  case save place => exact absurd rfl (unsaved place)
  all_goals rfl

/-- An event that comes to two recorders after the same course is taken alike by both. -/
theorem alike_of_course (same : course first = course second) {event : Event}
    (unsavedFirst : ∀ place, .save place ∉ first ++ [event])
    (unsavedSecond : ∀ place, .save place ∉ second ++ [event]) :
    Call.Alike ⟨(fresh messages).run first, event⟩ ⟨(fresh messages).run second, event⟩ := by
  have good := WellFormed.fresh messages
  have longer : course (first ++ [event]) = course (second ++ [event]) := by
    rw [course_append, course_append, same]
  have frame : SameFrame ((fresh messages).run (first ++ [event]))
      ((fresh messages).run (second ++ [event])) := sameFrame_of_course longer
  have reported := messages_eq_of_course good unsavedFirst unsavedSecond longer
  rw [run_append, run_append] at frame reported
  have unsaved : ∀ place, event ≠ .save place := by
    rintro place rfl
    exact unsavedFirst place (List.mem_append_right _ List.mem_cons_self)
  exact
    { event := rfl
      reply := fun unlocated => reply_eq_of_sameFrame (good.run first) (good.run second)
        (protocol_eq_of_course same) unsaved unlocated frame
      frame := frame
      openFunction := frame.openFunction?_eq
      messages := reported }

/-- The calls of two runs that differ in switches only are alike one by one. -/
theorem forall₂_alike (messages : List Message)
    (same : (first.filter fun event => !event.isSwitch) =
      second.filter fun event => !event.isSwitch) :
    (∀ place, .save place ∉ first) → (∀ place, .save place ∉ second) →
      List.Forall₂ Call.Alike ((fresh messages).calls first) ((fresh messages).calls second) := by
  have earlier : ∀ {events : List Event} {event : Event},
      (∀ place, .save place ∉ events ++ [event]) → ∀ place, .save place ∉ events :=
    fun unsaved place member => unsaved place (List.mem_append_left _ member)
  refine Table.aligned_induction ?_ ?_ ?_ ?_ same
  · intro _ _
    exact .nil
  · intro first second event same kept ih unsavedFirst unsavedSecond
    have other : event.isSwitch = false := by simpa using kept
    have courses : course first = course second := by
      rw [← course_filter_isSwitch first, same, course_filter_isSwitch]
    rw [calls_concat_of_not_switch other, calls_concat_of_not_switch other]
    exact Table.forall₂_concat.2 ⟨ih (earlier unsavedFirst) (earlier unsavedSecond),
      alike_of_course courses unsavedFirst unsavedSecond⟩
  · intro first second event dropped ih unsavedFirst unsavedSecond
    rw [calls_concat_of_switch (by simpa using dropped)]
    exact ih (earlier unsavedFirst) unsavedSecond
  · intro first second event dropped ih unsavedFirst unsavedSecond
    rw [calls_concat_of_switch (by simpa using dropped)]
    exact ih unsavedFirst (earlier unsavedSecond)

/-- The calls of a run that records at least as much leave recorders that hold at least as much. -/
theorem forall₂_contains (messages : List Message)
    (same : (first.filter fun event => !event.isSwitch) =
      second.filter fun event => !event.isSwitch) :
    List.Forall₂ Call.Covers ((fresh messages).calls first) ((fresh messages).calls second) →
      List.Forall₂ (fun call other => call.after.Contains other.after)
          ((fresh messages).calls first) ((fresh messages).calls second) ∧
        ∀ token, (((fresh messages).run first).moduleAt token).Contains
          (((fresh messages).run second).moduleAt token) := by
  have start := WellFormed.fresh messages
  refine Table.aligned_induction ?_ ?_ ?_ ?_ same
  · intro _
    exact ⟨.nil, fun _ => .refl _⟩
  · intro first second event same kept ih covered
    have other : event.isSwitch = false := by simpa using kept
    rw [calls_concat_of_not_switch other, calls_concat_of_not_switch other] at covered ⊢
    obtain ⟨before, here⟩ := Table.forall₂_concat.1 covered
    obtain ⟨contained, within⟩ := ih before
    have level : course first = course second := by
      rw [← course_filter_isSwitch first, same, course_filter_isSwitch]
    have next := contains_step (start.run first) (start.run second)
      (protocol_eq_of_course level) here within
    have frame : SameFrame ((fresh messages).run (first ++ [event]))
        ((fresh messages).run (second ++ [event])) := by
      refine sameFrame_of_course ?_
      rw [course_append, course_append, level]
    rw [run_append, run_append] at frame ⊢
    refine ⟨Table.forall₂_concat.2 ⟨contained, ?_⟩, next⟩
    exact forall₂_modules ((start.run first).step event).tokens_nodup frame.tokens.symm next
  · intro first second event dropped ih covered
    have switching : event.isSwitch = true := by simpa using dropped
    rw [calls_concat_of_switch switching] at covered ⊢
    refine ⟨(ih covered).1, fun token => ?_⟩
    rw [moduleAt_run_concat_of_switch switching]
    exact (ih covered).2 token
  · intro first second event dropped ih covered
    have switching : event.isSwitch = true := by simpa using dropped
    rw [calls_concat_of_switch switching] at covered ⊢
    refine ⟨(ih covered).1, fun token => ?_⟩
    rw [moduleAt_run_concat_of_switch switching]
    exact (ih covered).2 token

/-- Where recording is switched on and off makes no difference to the answers, the modules, the
functions and the reports, whatever is recorded in between.  The run that is enabled whenever a
label or data comes while the other one is holds in every module what the other one holds. -/
theorem switches_gate_entries (messages : List Message) {first second : List Event}
    (unsaved : ∀ place, .save place ∉ first)
    (same : (first.filter fun event => !event.isSwitch) =
      second.filter fun event => !event.isSwitch) :
    let calls := (fresh messages).calls first
    let others := (fresh messages).calls second
    List.Forall₂ Call.Alike calls others ∧
      (List.Forall₂ Call.Covers calls others →
        List.Forall₂ (fun call other => call.after.Contains other.after) calls others) := by
  intro calls others
  have unsavedOther : ∀ place, .save place ∉ second := by
    intro place member
    have kept : .save place ∈ second.filter fun event => !event.isSwitch :=
      List.mem_filter.2 ⟨member, rfl⟩
    rw [← same] at kept
    exact unsaved place (List.mem_filter.1 kept).1
  exact ⟨forall₂_alike messages same unsaved unsavedOther,
    fun covered => (forall₂_contains messages same covered).1⟩

/-- The second run is enabled for the data only, so its function makes the record that the label
makes in the first run, and it lacks both labels. -/
theorem switches_gate_entries_of_two_runs :
    let first : List Event :=
      [.startModule ⟨0⟩, .addLabel ⟨"a.asm", 1⟩ 8 "start", .startFunction ⟨"a.asm", 2⟩ 8,
        .addData ⟨"a.asm", 3⟩ 16 4 .word, .setEnabled false, .addLabel ⟨"a.asm", 4⟩ 20 "end",
        .endFunction 24]
    let second : List Event :=
      [.setEnabled false, .startModule ⟨0⟩, .addLabel ⟨"a.asm", 1⟩ 8 "start",
        .startFunction ⟨"a.asm", 2⟩ 8, .setEnabled true, .addData ⟨"a.asm", 3⟩ 16 4 .word,
        .setEnabled false, .addLabel ⟨"a.asm", 4⟩ 20 "end", .endFunction 24]
    let calls := (fresh []).calls first
    let others := (fresh []).calls second
    (∀ place, .save place ∉ first) ∧
      ((first.filter fun event => !event.isSwitch) =
        second.filter fun event => !event.isSwitch) ∧
      List.Forall₂ Call.Covers calls others ∧ List.Forall₂ Call.Alike calls others ∧
      List.Forall₂ (fun call other => call.after.Contains other.after) calls others ∧
      ((fresh []).run first).modules ≠ ((fresh []).run second).modules := by
  intro first second calls others
  have unsaved : ∀ place, .save place ∉ first := by simp [first]
  have same : (first.filter fun event => !event.isSwitch) =
      second.filter fun event => !event.isSwitch := rfl
  have covered : List.Forall₂ Call.Covers calls others := by decide
  obtain ⟨alike, contained⟩ := switches_gate_entries [] unsaved same
  exact ⟨unsaved, same, covered, alike, contained covered, by decide⟩

end Recorder

end DebugSymbols
