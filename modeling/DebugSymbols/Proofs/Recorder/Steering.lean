import DebugSymbols.Proofs.Recorder.Spans
import DebugSymbols.Proofs.Recorder.Tables
/-!
# What steers a recording

Which modules there are, which of them is current, which functions they have
and what is reported follows from the events that open and close modules and
functions.  Labels, data, addresses, settings and the flag have no part in it,
and neither have places.
-/

namespace DebugSymbols

/-! ## Steering events -/

def Event.steering? : Event → Option Event
  | .clear => some .clear
  | .startModule token => some (.startModule token)
  | .endModule token => some (.endModule token)
  | .startFunction _ address => some (.startFunction {} address)
  | .endFunction address => some (.endFunction address)
  | _ => none

/-- The course of a run: what its events have to do with modules and functions. -/
def course (events : List Event) : List Event :=
  events.filterMap Event.steering?

theorem course_append (first second : List Event) :
    course (first ++ second) = course first ++ course second :=
  List.filterMap_append

def Event.isEntry : Event → Bool
  | .addLabel .. | .addData .. => true
  | _ => false

theorem Event.steering?_of_isEntry {event : Event} (entry : event.isEntry = true) :
    event.steering? = none := by
  cases event
  case addLabel | addData => rfl
  all_goals cases entry

/-- What a moment has to do with modules and functions, as if recording were always enabled. -/
def Moment.steering? (moment : Moment) : Option Moment :=
  moment.event.steering?.map fun event => ⟨{ moment.stage with enabled := true }, event⟩

/-- Other events leave the protocol and only matter to the flag. -/
theorem Stage.run_course (stage : Stage) (events : List Event) :
    Stage.run { stage with enabled := true } (course events) =
      { stage.run events with enabled := true } := by
  induction events generalizing stage with
  | nil => rfl
  | cons event rest ih =>
      have later := ih (stage.after event)
      cases event
      all_goals exact later

/-- The history of a course is that of the run as far as it steers. -/
theorem history_course (events : List Event) :
    history (course events) = (history events).filterMap Moment.steering? := by
  induction events using List.reverseRecOn with
  | nil => rfl
  | append_singleton events event ih =>
      rw [course_append]
      by_cases clearing : event = .clear
      · subst clearing
        have last : course [.clear] = [.clear] := rfl
        rw [last, history_concat_clear, history_concat_clear, List.filterMap_nil]
      · have stage : Stage.run {} (course events) = { Stage.run {} events with enabled := true } :=
          Stage.run_course {} events
        rw [history_concat clearing, filterMap_concat, ← ih]
        cases steered : event.steering? with
        | none =>
            have last : course [event] = [] := List.filterMap_cons_none steered
            rw [last, List.append_nil, Moment.steering?, steered]
            exact (List.append_nil _).symm
        | some steering =>
            have last : course [event] = [steering] := List.filterMap_cons_some steered
            have other : steering ≠ .clear := by
              rintro rfl
              cases event
              case clear => exact clearing rfl
              all_goals cases steered
            rw [last, history_concat other, stage, Moment.steering?, steered]
            rfl

theorem started?_steering (moment : Moment) :
    moment.steering?.bind Moment.started? = moment.started? := by
  obtain ⟨stage, event⟩ := moment
  cases event
  all_goals rfl

theorem ending?_steering (moment : Moment) :
    moment.steering?.bind Moment.ending? = moment.ending? := by
  obtain ⟨stage, event⟩ := moment
  cases event
  all_goals rfl

theorem opening?_steering (moment : Moment) :
    moment.steering?.bind Moment.opening? = moment.opening? := by
  obtain ⟨stage, event⟩ := moment
  cases event
  all_goals rfl

theorem started_filterMap_steering (past : List Moment) :
    (past.filterMap Moment.steering?).filterMap Moment.started? =
      past.filterMap Moment.started? := by
  rw [List.filterMap_filterMap]
  exact List.filterMap_congr fun moment _ => started?_steering moment

theorem ending_filterMap_steering (past : List Moment) :
    (past.filterMap Moment.steering?).findSome? Moment.ending? =
      past.findSome? Moment.ending? := by
  induction past with
  | nil => rfl
  | cons moment rest ih =>
      rw [List.findSome?_cons, ← ending?_steering moment, ← ih]
      cases steered : moment.steering? with
      | none => rw [List.filterMap_cons_none steered]; rfl
      | some steering => rw [List.filterMap_cons_some steered, List.findSome?_cons]; rfl

/-- Functions are opened and ended by steering events only. -/
theorem openings_filterMap_steering (past : List Moment) :
    openings (past.filterMap Moment.steering?) = openings past := by
  induction past with
  | nil => rfl
  | cons moment rest ih =>
      rw [openings, ← opening?_steering moment]
      cases steered : moment.steering? with
      | none => rw [List.filterMap_cons_none steered, ih]; rfl
      | some steering =>
          rw [List.filterMap_cons_some steered, openings, ending_filterMap_steering, ih]
          rfl

/-! ## The answers of the protocol -/

namespace Protocol

/-- Other events are not answered with a violation. -/
theorem answers_course (state : Protocol) (events : List Event) :
    (state.answers (course events)).filterMap id = (state.answers events).filterMap id := by
  induction events generalizing state with
  | nil => rfl
  | cons event rest ih =>
      have later := ih (state.step event).2
      cases event
      case clear | startModule | endModule | startFunction | endFunction =>
        rw [answers, List.filterMap_cons, ← later]
        rfl
      all_goals exact later

end Protocol

namespace Recorder

/-! ## Recorders with the same modules and functions -/

/-- Two recorders with the same modules, of which the same one is current, the same functions in
them and the same one open.  What else they hold may differ. -/
structure SameFrame (first second : Recorder) : Prop where
  tokens : first.tokens = second.tokens
  current : first.current = second.current
  functions : first.modules.map Module.functions = second.modules.map Module.functions
  slot : first.slot = second.slot

variable {first second : Recorder}

/-- The open function is found by the functions and the slot alone. -/
theorem SameFrame.openFunction?_eq (same : SameFrame first second) :
    first.openFunction? = second.openFunction? := by
  have looked : ∀ recorder : Recorder, recorder.openFunction? =
      recorder.slot.bind fun slot =>
        (recorder.modules.map Module.functions)[slot.module]?.bind (·[slot.function]?) := by
    intro recorder
    rw [openFunction?]
    congr 1
    funext slot
    rw [List.getElem?_map, Option.bind_map]
    rfl
  rw [looked, looked, same.slot, same.functions]

/-- The current module is found by its token. -/
theorem current_eq_of_token_eq (goodFirst : first.WellFormed) (goodSecond : second.WellFormed)
    (tokens : first.tokens = second.tokens)
    (named : first.currentModule.token = second.currentModule.token) :
    first.current = second.current := by
  have here : first.tokens[first.current]? = some first.currentModule.token := by
    rw [getElem?_tokens, goodFirst.getElem?_current, Option.map_some]
  have there : second.tokens[second.current]? = some second.currentModule.token := by
    rw [getElem?_tokens, goodSecond.getElem?_current, Option.map_some]
  have within := (List.getElem?_eq_some_iff.1 here).1
  refine (List.getElem?_inj within goodFirst.tokens_nodup).1 ?_
  rw [here, named, tokens, there]

namespace Tracks

variable {opened : List Opening}

/-- The slot is found by the openings and the tokens. -/
theorem slot_eq (once : first.tokens.Nodup) (tokens : first.tokens = second.tokens)
    (tracks : Tracks opened first) (others : Tracks opened second) :
    first.slot = second.slot := by
  cases taken : first.slot with
  | none =>
      cases busy : second.slot with
      | none => rfl
      | some slot =>
          obtain ⟨settled, opening, last, _, running, _⟩ := others.running busy
          have member : opening ∈ opened := last ▸ List.mem_append_right _ List.mem_cons_self
          exact absurd running (tracks.ended taken opening member)
  | some slot =>
      obtain ⟨settled, opening, last, _, running, named, place⟩ := tracks.running taken
      cases busy : second.slot with
      | none =>
          have member : opening ∈ opened := last ▸ List.mem_append_right _ List.mem_cons_self
          exact absurd running (others.ended busy opening member)
      | some other =>
          obtain ⟨earlier, final, end_, _, _, token, index⟩ := others.running busy
          obtain ⟨rfl, rfl⟩ := List.append_singleton_inj.1 (last.symm.trans end_)
          have within := (List.getElem?_eq_some_iff.1 named).1
          have module : slot.module = other.module :=
            (List.getElem?_inj within once).1 (named.trans (tokens ▸ token).symm)
          have function : slot.function = other.function := place.trans index.symm
          cases slot
          cases other
          cases module
          cases function
          rfl

end Tracks

/-! ## Runs on the same course -/

variable {messages : List Message} {events others : List Event}

/-- On the same course, the same modules are started. -/
theorem tokens_eq_of_course (same : course events = course others) :
    ((fresh messages).run events).tokens = ((fresh messages).run others).tokens := by
  rw [(Tables.run messages events).tokens, (Tables.run messages others).tokens,
    ← started_filterMap_steering, ← history_course, same, history_course,
    started_filterMap_steering]

/-- On the same course, the same functions are opened and end in the same way. -/
theorem openings_eq_of_course (same : course events = course others) :
    openings (history events) = openings (history others) := by
  rw [← openings_filterMap_steering, ← history_course, same, history_course,
    openings_filterMap_steering]

theorem functions_moduleAt_of_course (same : course events = course others)
    (token : Option FileToken) :
    (((fresh messages).run events).moduleAt token).functions =
      (((fresh messages).run others).moduleAt token).functions := by
  rw [(Tracks.run messages events).functions, (Tracks.run messages others).functions,
    openings_eq_of_course same]

theorem protocol_eq_of_course (same : course events = course others) :
    ((fresh messages).run events).protocol = ((fresh messages).run others).protocol := by
  have steered : ∀ events, ((fresh messages).run events).protocol =
      (Stage.run {} (course events)).toProtocol := by
    intro events
    have staged : ((fresh messages).run events).stage = Stage.run {} events :=
      stage_run (WellFormed.fresh messages) events
    have course_eq : Stage.run {} (course events) =
        { Stage.run {} events with enabled := true } := Stage.run_course {} events
    rw [course_eq, ← staged]
    rfl
  rw [steered, steered, same]

/-- The course of a run decides which modules and functions there are. -/
theorem sameFrame_of_course (same : course events = course others) :
    SameFrame ((fresh messages).run events) ((fresh messages).run others) := by
  have good := (WellFormed.fresh messages).run events
  have goodOther := (WellFormed.fresh messages).run others
  have tokens : ((fresh messages).run events).tokens = ((fresh messages).run others).tokens :=
    tokens_eq_of_course same
  have tracks := Tracks.run messages events
  have tracksOther := Tracks.run messages others
  rw [← openings_eq_of_course same] at tracksOther
  refine ⟨tokens, ?_, ?_, tracks.slot_eq good.tokens_nodup tokens tracksOther⟩
  · exact current_eq_of_token_eq good goodOther tokens
      (congrArg Protocol.current (protocol_eq_of_course same))
  · rw [← List.forall₂_eq_eq_eq, List.forall₂_map_left_iff, List.forall₂_map_right_iff]
    exact forall₂_modules good.tokens_nodup tokens.symm (functions_moduleAt_of_course same)

/-! ## Reports -/

/-- Apart from failures to save, a run reports its violations. -/
theorem messages_run_of_unsaved (good : first.WellFormed)
    (unsaved : ∀ place, .save place ∉ events) :
    (first.run events).messages = first.messages ++
      ((first.protocol.answers events).filterMap id).flatMap Violation.messages := by
  have fine : (first.turns events).filter (!·.reply.isSaveFailure) = first.turns events := by
    refine List.filter_eq_self.2 fun turn member => ?_
    obtain ⟨_, before, reply⟩ := reported_of_mem_turns member
    have asked : turn.event ∈ events := by
      rw [← map_event_turns first events]
      exact List.mem_map_of_mem member
    rw [reply]
    cases saving : turn.event
    case save place => exact absurd (saving ▸ asked) (unsaved place)
    all_goals rfl
  have reports := reports_turns first events
  rw [fine] at reports
  rw [messages_run, reports, ← violations_turns good, List.filterMap_map]
  rfl

/-- On the same course, the same violations are reported. -/
theorem messages_eq_of_course (good : first.WellFormed)
    (unsaved : ∀ place, .save place ∉ events) (unsavedOthers : ∀ place, .save place ∉ others)
    (same : course events = course others) :
    (first.run events).messages = (first.run others).messages := by
  rw [messages_run_of_unsaved good unsaved, messages_run_of_unsaved good unsavedOthers,
    ← Protocol.answers_course, same, Protocol.answers_course]

end Recorder

end DebugSymbols
