import DebugSymbols.Proofs.Recorder.Protocol
import Mathlib.Data.List.DropRight
/-!
# The history of a recording

What an event records depends on which module is current and on whether
recording is enabled, and both follow from the events before it.  Clearing
starts anew, so the history of a recording is what came after the last clearing.
-/

namespace DebugSymbols

/-! ## Stages -/

/-- What the events so far come to: the state of the protocol and whether recording is enabled. -/
structure Stage extends Protocol where
  enabled : Bool := true
  deriving DecidableEq, Repr

namespace Stage

def after (stage : Stage) (event : Event) : Stage where
  toProtocol := (stage.toProtocol.step event).2
  enabled :=
    match event with
    | .clear => true
    | .configure settings => settings.enabled
    | .setEnabled enabled => enabled
    | _ => stage.enabled

def run (stage : Stage) (events : List Event) : Stage :=
  events.foldl after stage

theorem run_append (stage : Stage) (first second : List Event) :
    stage.run (first ++ second) = (stage.run first).run second :=
  List.foldl_append

end Stage

/-! ## Moments -/

/-- An event and the stage at which it happens. -/
structure Moment where
  stage : Stage
  event : Event
  deriving DecidableEq, Repr

def moments (stage : Stage) : List Event → List Moment
  | [] => []
  | event :: rest => ⟨stage, event⟩ :: moments (stage.after event) rest

theorem moments_concat (stage : Stage) (events : List Event) (event : Event) :
    moments stage (events ++ [event]) = moments stage events ++ [⟨stage.run events, event⟩] := by
  induction events generalizing stage with
  | nil => rfl
  | cons first rest ih => exact congrArg (⟨stage, first⟩ :: ·) (ih (stage.after first))

theorem map_event_moments (stage : Stage) (events : List Event) :
    (moments stage events).map Moment.event = events := by
  induction events generalizing stage with
  | nil => rfl
  | cons event rest ih => exact congrArg (event :: ·) (ih (stage.after event))

/-- What has happened since the last clearing, if there was one, in a run from the beginning. -/
def history (events : List Event) : List Moment :=
  (moments {} events).rtakeWhile (·.event ≠ .clear)

theorem event_mem_of_mem_history {events : List Event} {moment : Moment}
    (member : moment ∈ history events) : moment.event ∈ events := by
  have reached := (List.rtakeWhile_suffix _ _).subset member
  have named := List.mem_map_of_mem (f := Moment.event) reached
  rwa [map_event_moments] at named

theorem history_concat_clear (events : List Event) : history (events ++ [.clear]) = [] := by
  rw [history, moments_concat, List.rtakeWhile_concat]
  rfl

theorem history_concat {event : Event} (other : event ≠ .clear) (events : List Event) :
    history (events ++ [event]) = history events ++ [⟨Stage.run {} events, event⟩] := by
  rw [history, moments_concat, List.rtakeWhile_concat, if_pos (decide_eq_true other)]
  rfl

/-- Nothing of a history is lost until the next clearing. -/
theorem history_append (events : List Event) {later : List Event}
    (uncleared : .clear ∉ later) :
    history (events ++ later) = history events ++ moments (Stage.run {} events) later := by
  induction later using List.reverseRecOn with
  | nil => rw [List.append_nil, moments, List.append_nil]
  | append_singleton later event ih =>
      have other : event ≠ .clear := by
        rintro rfl
        exact uncleared (List.mem_append_right _ List.mem_cons_self)
      have before : .clear ∉ later := fun member => uncleared (List.mem_append_left _ member)
      rw [← List.append_assoc, history_concat other, ih before, moments_concat, List.append_assoc,
        Stage.run_append]

/-- What one more item tells comes last. -/
theorem filterMap_concat {α β : Type} (told : α → Option β) (past : List α) (item : α) :
    (past ++ [item]).filterMap told = past.filterMap told ++ (told item).toList := by
  rw [List.filterMap_append]
  cases named : told item with
  | none => rw [List.filterMap_cons_none named]; rfl
  | some value => rw [List.filterMap_cons_some named]; rfl

/-! ## The stage of a recorder -/

namespace Recorder

def stage (recorder : Recorder) : Stage :=
  { recorder.protocol with enabled := recorder.enabled }

variable {recorder : Recorder}

@[simp]
theorem enabled_startModule (recorder : Recorder) (token : FileToken) :
    (recorder.startModule token).enabled = recorder.enabled := by
  simp only [startModule]
  split
  · rfl
  · rfl

@[simp]
theorem enabled_endModule (recorder : Recorder) (token : Option FileToken) :
    (recorder.endModule token).2.enabled = recorder.enabled := by
  obtain ⟨messages, same⟩ := recorder.endModule_snd token
  rw [same]
  split
  · rfl
  · rfl

@[simp]
theorem enabled_endFunction (recorder : Recorder) (address : Int64) :
    (recorder.endFunction address).2.enabled = recorder.enabled := by
  obtain ⟨messages, same⟩ := recorder.endFunction_snd address
  rw [same]
  exact (recorder.sameControl_closeOpen address).enabled

theorem enabled_step (recorder : Recorder) (event : Event) :
    (recorder.step event).2.enabled = (recorder.stage.after event).enabled := by
  cases event with
  | clear => rfl
  | configure settings => rfl
  | setEnabled enabled => rfl
  | setOutput output => rfl
  | setVersion version => rfl
  | startModule token => exact recorder.enabled_startModule token
  | endModule token => exact recorder.enabled_endModule token
  | addLabel place address name => exact (recorder.sameControl_declare place _).enabled
  | addData place address size kind => exact (recorder.sameControl_declare place _).enabled
  | addAddress place address => exact (recorder.sameControl_addAddress place address).enabled
  | startFunction place address =>
      exact (recorder.sameControl_startFunction place address).enabled
  | endFunction address => exact recorder.enabled_endFunction address
  | save place =>
      have saved := congrArg Recorder.enabled (recorder.save_snd place)
      exact saved

/-- The stage of a recorder goes with the events. -/
theorem stage_step (good : recorder.WellFormed) (event : Event) :
    (recorder.step event).2.stage = recorder.stage.after event := by
  have control : (recorder.step event).2.protocol = (recorder.protocol.step event).2 :=
    congrArg Prod.snd (observe_step good event)
  have enabled := recorder.enabled_step event
  calc
    (recorder.step event).2.stage =
        { (recorder.protocol.step event).2 with
          enabled := (recorder.stage.after event).enabled } := by
      rw [stage, control, enabled]
    _ = recorder.stage.after event := rfl

theorem stage_run (good : recorder.WellFormed) (events : List Event) :
    (recorder.run events).stage = recorder.stage.run events := by
  induction events generalizing recorder with
  | nil => rfl
  | cons event rest ih =>
      have next := congrArg (Stage.run · rest) (stage_step good event)
      exact (ih (good.step event)).trans next

/-- To relate a history to the recorder, it is enough to look at recorders without a past and at
events that do not clear. -/
theorem history_induction {motive : List Moment → Recorder → Prop}
    (blank : ∀ {recorder : Recorder}, recorder.modules = [{}] → recorder.paths = {} →
      recorder.slot = none → motive [] recorder)
    (step : ∀ {past : List Moment} {recorder : Recorder} {event : Event}, recorder.WellFormed →
      event ≠ .clear → motive past recorder →
        motive (past ++ [⟨recorder.stage, event⟩]) (recorder.step event).2)
    (messages : List Message) (events : List Event) :
    motive (history events) ((fresh messages).run events) := by
  -- A history changes at its end, so the induction takes the events from the last one back.
  induction events using List.reverseRecOn with
  | nil => exact blank rfl rfl rfl
  | append_singleton events event ih =>
      have start := WellFormed.fresh messages
      rw [run_append]
      by_cases clearing : event = .clear
      · subst clearing
        rw [history_concat_clear]
        exact blank rfl rfl rfl
      · have stage : ((fresh messages).run events).stage = Stage.run {} events :=
          stage_run start events
        rw [history_concat clearing, ← stage]
        exact step (start.run events) clearing ih

end Recorder

end DebugSymbols
