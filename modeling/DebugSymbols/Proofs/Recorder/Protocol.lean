import DebugSymbols.Proofs.Recorder.Invariant
import DebugSymbols.Proofs.Recorder.Control
/-!
# The recording protocol

Of a recorder, the protocol sees the token of the current module and whether a
function is open.  This is enough to tell how every closing event is answered
and what is reported, so a recorder refines a machine with these two fields.
-/

namespace DebugSymbols

/-! ## The machine -/

/-- The token of the current module, if it is not the default one, and whether a function is
open. -/
structure Protocol where
  current : Option FileToken := none
  isOpen : Bool := false
  deriving DecidableEq, Repr

namespace Protocol

/-- Closes the current module, which must be named, and drops an open function. -/
def endModule (state : Protocol) (token : Option FileToken) : Option Violation × Protocol :=
  if token ≠ state.current then (some .moduleMismatch, state)
  else if state.current = none then (some .noModuleOpened, state)
  else if state.isOpen then (some .moduleClosedInFunction, ⟨none, false⟩)
  else (none, { state with current := none })

variable (state : Protocol)

theorem endModule_of_ne {token : Option FileToken} (other : token ≠ state.current) :
    state.endModule token = (some .moduleMismatch, state) :=
  if_pos other

theorem endModule_of_none (unnamed : state.current = none) :
    state.endModule state.current = (some .noModuleOpened, state) := by
  rw [endModule, if_neg (not_not_intro rfl), if_pos unnamed]

theorem endModule_of_isOpen (named : state.current ≠ none) (isOpen : state.isOpen = true) :
    state.endModule state.current = (some .moduleClosedInFunction, {}) := by
  rw [endModule, if_neg (not_not_intro rfl), if_neg named, if_pos isOpen]

theorem endModule_of_not_isOpen (named : state.current ≠ none) (closed : state.isOpen = false) :
    state.endModule state.current = (none, {}) := by
  rw [endModule, if_neg (not_not_intro rfl), if_neg named, closed]
  rfl

theorem current_endModule (token : FileToken) :
    (state.endModule (some token)).2.current =
      if state.current = some token then none else state.current := by
  by_cases same : state.current = some token
  · rw [endModule, if_neg (not_not_intro same.symm), if_pos same, same,
      if_neg (Option.some_ne_none token)]
    split
    · rfl
    · rfl
  · rw [state.endModule_of_ne (Ne.symm same), if_neg same]

def endFunction (state : Protocol) : Option Violation × Protocol :=
  if state.isOpen then (none, { state with isOpen := false })
  else (some .notInFunction, state)

theorem current_endFunction :
    state.endFunction.2.current = state.current := by
  unfold endFunction
  split
  · rfl
  · rfl

/-- The violation that answers an event, if any, and the state after it. -/
def step (state : Protocol) : Event → Option Violation × Protocol
  | .clear => (none, {})
  | .startModule token => (none, { state with current := some token })
  | .startFunction _ _ => (none, { state with isOpen := true })
  | .endModule token => state.endModule token
  | .endFunction _ => state.endFunction
  | _ => (none, state)

def run (state : Protocol) (events : List Event) : Protocol :=
  events.foldl (fun state event => (state.step event).2) state

def answers (state : Protocol) : List Event → List (Option Violation)
  | [] => []
  | event :: rest => (state.step event).1 :: (state.step event).2.answers rest

end Protocol

/-! ## Runs of a recorder -/

/-- Every violation but a mismatch is reported as one error. -/
theorem Violation.flatMap_messages (violations : List Violation) :
    violations.flatMap Violation.messages =
      (violations.filter (· ≠ .moduleMismatch)).map
        (fun violation => ⟨.error, violation.text⟩) := by
  induction violations with
  | nil => rfl
  | cons violation rest ih =>
      rw [List.flatMap_cons, ih]
      cases violation with
      | moduleMismatch => rfl
      | noModuleOpened => rfl
      | moduleClosedInFunction => rfl
      | notInFunction => rfl

def Reply.violation? : Reply → Option Violation
  | .closed violation => violation
  | _ => none

def Reply.messages : Reply → List Message
  | .closed (some violation) => violation.messages
  | .saved result => result.messages
  | _ => []

/-- Whether a file was to be saved and could not be. -/
def Reply.isSaveFailure : Reply → Bool
  | .saved result => result.fault.isSome
  | _ => false

/-- Apart from failures to save, violations are all that is reported. -/
theorem Reply.messages_of_not_isSaveFailure {reply : Reply} (fine : reply.isSaveFailure = false) :
    reply.messages = reply.violation?.toList.flatMap Violation.messages := by
  cases reply with
  | done => rfl
  | index value => rfl
  | closed violation =>
      cases violation with
      | none => rfl
      | some violation => exact (List.append_nil _).symm
  | saved result =>
      cases faultless : result.fault with
      | none => rw [messages, SaveResult.messages, faultless]; rfl
      | some fault => rw [isSaveFailure, faultless] at fine; cases fine

theorem Reply.violation?_of_isSaveFailure {reply : Reply} (failed : reply.isSaveFailure = true) :
    reply.violation? = none := by
  cases reply with
  | done => rfl
  | index value => rfl
  | closed violation => cases failed
  | saved result => rfl

/-- One event of a run, how it was answered, and what was reported meanwhile. -/
structure Turn where
  event : Event
  reply : Reply
  reported : List Message
  deriving DecidableEq, Repr

namespace Recorder

def turns (recorder : Recorder) : List Event → List Turn
  | [] => []
  | event :: rest =>
      let after := (recorder.step event).2
      ⟨event, (recorder.step event).1, after.messages.drop recorder.messages.length⟩ ::
        after.turns rest

def protocol (recorder : Recorder) : Protocol :=
  ⟨recorder.currentModule.token, recorder.slot.isSome⟩

/-! ## One step -/

variable {recorder : Recorder}

theorem SameControl.protocol_eq {before after : Recorder} (same : SameControl before after)
    (slot : after.slot = before.slot) : after.protocol = before.protocol := by
  rw [protocol, protocol, same.token_currentModule, slot]

def observe (outcome : Option Violation × Recorder) : Option Violation × Protocol :=
  (outcome.1, outcome.2.protocol)

theorem protocol_startModule (token : FileToken) :
    (recorder.startModule token).protocol = { recorder.protocol with current := some token } := by
  have named : (recorder.startModule token).currentModule.token = some token := by
    rw [token_currentModule, tokens_startModule]
    by_cases started : some token ∈ recorder.tokens
    · rw [startModule_of_mem _ started, Table.appendNew_of_mem started,
        getElem?_tokens_moduleIndex _ started, Option.getD_some]
    · rw [startModule_of_not_mem _ started, Table.appendNew_of_not_mem started, ← length_tokens,
        List.getElem?_concat_length, Option.getD_some]
  rw [protocol, named, slot_startModule]
  rfl

@[simp]
theorem protocol_report (recorder : Recorder) (messages : List Message) :
    (recorder.report messages).protocol = recorder.protocol :=
  rfl

/-- The default module has no token, so nothing is current after leaving a module. -/
theorem protocol_leave (good : recorder.WellFormed) : recorder.leave.protocol = ⟨none, false⟩ := by
  have unnamed : recorder.leave.currentModule.token = none := by
    rw [token_currentModule]
    exact congrArg (Option.getD · none) good.default_first
  rw [protocol, unnamed]
  rfl

theorem observe_endModule (good : recorder.WellFormed) (token : Option FileToken) :
    observe (recorder.endModule token) = recorder.protocol.endModule token := by
  by_cases current : token = recorder.currentModule.token
  · subst current
    have unnamed_iff := good.token_eq_none_iff good.getElem?_current
    by_cases default : recorder.current = 0
    · rw [endModule_of_default _ default]
      exact (recorder.protocol.endModule_of_none (unnamed_iff.2 default)).symm
    · have named : recorder.protocol.current ≠ none := mt unnamed_iff.1 default
      cases taken : recorder.slot with
      | none =>
          rw [endModule_of_closed _ default taken]
          calc
            observe (none, recorder.leave) = (none, {}) := Prod.ext rfl (protocol_leave good)
            _ = recorder.protocol.endModule recorder.protocol.current :=
              (recorder.protocol.endModule_of_not_isOpen named
                (congrArg Option.isSome taken)).symm
      | some slot =>
          rw [endModule_of_open _ default taken]
          calc
            observe (recorder.leave.refuse .moduleClosedInFunction) =
                (some .moduleClosedInFunction, {}) :=
              Prod.ext rfl ((protocol_report _ _).trans (protocol_leave good))
            _ = recorder.protocol.endModule recorder.protocol.current :=
              (recorder.protocol.endModule_of_isOpen named (congrArg Option.isSome taken)).symm
  · rw [endModule_of_ne _ current]
    exact (recorder.protocol.endModule_of_ne current).symm

theorem current_protocol_endModule (good : recorder.WellFormed) (token : FileToken) :
    (recorder.endModule (some token)).2.protocol.current =
      if recorder.protocol.current = some token then none else recorder.protocol.current := by
  rw [← Protocol.current_endModule, ← observe_endModule good]
  rfl

theorem observe_endFunction (address : Int64) :
    observe (recorder.endFunction address) = recorder.protocol.endFunction := by
  cases taken : recorder.slot with
  | none =>
      have free : recorder.protocol.isOpen = false := congrArg Option.isSome taken
      rw [endFunction_of_none _ _ taken, Protocol.endFunction, free]
      rfl
  | some slot =>
      have busy : recorder.protocol.isOpen = true := congrArg Option.isSome taken
      have closed := (recorder.sameControl_closeOpen address).token_currentModule
      have free := recorder.slot_closeOpen address
      rw [closeOpen_of_some _ _ taken] at closed free
      rw [Protocol.endFunction, busy, observe, protocol, closed, free,
        endFunction_of_some _ _ taken]
      rfl

theorem protocol_startFunction (place : Position) (address : Int64) :
    (recorder.startFunction place address).protocol =
      { recorder.protocol with isOpen := true } := by
  have same := recorder.sameControl_startFunction place address
  rw [protocol, same.token_currentModule, isSome_slot_startFunction]
  rfl

theorem protocol_declare (recorder : Recorder) (place : Position) (declaration : Declaration) :
    (recorder.declare place declaration).protocol = recorder.protocol :=
  (recorder.sameControl_declare place declaration).protocol_eq
    (recorder.slot_declare place declaration)

/-- An event is answered by the recorder as by the machine, and does the same to both. -/
theorem observe_step (good : recorder.WellFormed) (event : Event) :
    observe ((recorder.step event).1.violation?, (recorder.step event).2) =
      recorder.protocol.step event := by
  cases event with
  | clear => rfl
  | configure settings => rfl
  | setEnabled enabled => rfl
  | setOutput output => rfl
  | setVersion version => rfl
  | startModule token => exact Prod.ext rfl (protocol_startModule token)
  | endModule token => exact observe_endModule good token
  | addLabel place address name => exact Prod.ext rfl (recorder.protocol_declare place _)
  | addData place address size kind => exact Prod.ext rfl (recorder.protocol_declare place _)
  | addAddress place address =>
      exact Prod.ext rfl ((recorder.sameControl_addAddress place address).protocol_eq
        (recorder.slot_addAddress place address))
  | startFunction place address => exact Prod.ext rfl (protocol_startFunction place address)
  | endFunction address => exact observe_endFunction address
  | save place =>
      have saved := congrArg protocol (recorder.save_snd place)
      exact Prod.ext rfl (saved.trans (protocol_report _ _))

/-! ## Whole runs -/

theorem protocol_run (good : recorder.WellFormed) (events : List Event) :
    (recorder.run events).protocol = recorder.protocol.run events := by
  induction events generalizing recorder with
  | nil => rfl
  | cons event rest ih =>
      have next := congrArg Prod.snd (observe_step good event)
      exact (ih (good.step event)).trans (congrArg (Protocol.run · rest) next)

/-- Along a run, every event is answered as the machine answers it. -/
theorem violations_turns (good : recorder.WellFormed) (events : List Event) :
    (recorder.turns events).map (·.reply.violation?) = recorder.protocol.answers events := by
  induction events generalizing recorder with
  | nil => rfl
  | cons event rest ih =>
      have same := observe_step good event
      have answer := congrArg Prod.fst same
      have next := congrArg Prod.snd same
      have later := (ih (good.step event)).trans (congrArg (Protocol.answers · rest) next)
      exact congrArg₂ List.cons answer later

theorem messages_endModule (recorder : Recorder) (token : Option FileToken) :
    (recorder.endModule token).2.messages =
      recorder.messages ++ (Reply.closed (recorder.endModule token).1).messages := by
  unfold endModule
  split
  · rfl
  · split
    · rfl
    · dsimp only
      split
      · rfl
      · exact (List.append_nil _).symm

theorem messages_endFunction (recorder : Recorder) (address : Int64) :
    (recorder.endFunction address).2.messages =
      recorder.messages ++ (Reply.closed (recorder.endFunction address).1).messages := by
  unfold endFunction
  split
  · rfl
  · exact (List.append_nil _).symm

/-- Reports are only ever added, and those of a step go with its reply. -/
theorem messages_step (recorder : Recorder) (event : Event) :
    (recorder.step event).2.messages = recorder.messages ++ (recorder.step event).1.messages := by
  cases event with
  | clear => exact (List.append_nil _).symm
  | configure settings => exact (List.append_nil _).symm
  | setEnabled enabled => exact (List.append_nil _).symm
  | setOutput output => exact (List.append_nil _).symm
  | setVersion version => exact (List.append_nil _).symm
  | startModule token =>
      exact (recorder.messages_startModule token).trans (List.append_nil _).symm
  | endModule token => exact recorder.messages_endModule token
  | addLabel place address name =>
      exact (recorder.sameControl_declare place _).messages.trans (List.append_nil _).symm
  | addData place address size kind =>
      exact (recorder.sameControl_declare place _).messages.trans (List.append_nil _).symm
  | addAddress place address =>
      exact (recorder.sameControl_addAddress place address).messages.trans
        (List.append_nil _).symm
  | startFunction place address =>
      exact (recorder.sameControl_startFunction place address).messages.trans
        (List.append_nil _).symm
  | endFunction address => exact recorder.messages_endFunction address
  | save place => exact congrArg Recorder.messages (recorder.save_snd place)

theorem turns_cons (recorder : Recorder) (event : Event) (rest : List Event) :
    recorder.turns (event :: rest) =
      ⟨event, (recorder.step event).1, (recorder.step event).1.messages⟩ ::
        (recorder.step event).2.turns rest := by
  rw [turns, messages_step, List.drop_left]

theorem messages_run (recorder : Recorder) (events : List Event) :
    (recorder.run events).messages =
      recorder.messages ++ (recorder.turns events).flatMap Turn.reported := by
  induction events generalizing recorder with
  | nil => exact (List.append_nil _).symm
  | cons event rest ih =>
      rw [turns_cons, List.flatMap_cons, ← List.append_assoc, ← messages_step]
      exact ih _

theorem map_event_turns (recorder : Recorder) (events : List Event) :
    (recorder.turns events).map Turn.event = events := by
  induction events generalizing recorder with
  | nil => rfl
  | cons event rest ih => exact congrArg (event :: ·) (ih _)

/-- The reports of a step are those that its reply tells of. -/
theorem reported_of_mem_turns {recorder : Recorder} {events : List Event} {turn : Turn}
    (member : turn ∈ recorder.turns events) :
    turn.reported = turn.reply.messages ∧ ∃ before : Recorder,
      turn.reply = (before.step turn.event).1 := by
  induction events generalizing recorder with
  | nil => cases member
  | cons event rest ih =>
      rw [turns_cons] at member
      rcases List.mem_cons.1 member with rfl | later
      · exact ⟨rfl, recorder, rfl⟩
      · exact ih later

/-- Apart from failures to save, the reports of a run are those about its violations. -/
theorem reports_turns (recorder : Recorder) (events : List Event) :
    ((recorder.turns events).filter (!·.reply.isSaveFailure)).flatMap Turn.reported =
      ((recorder.turns events).filterMap (·.reply.violation?)).flatMap Violation.messages := by
  induction events generalizing recorder with
  | nil => rfl
  | cons event rest ih =>
      rw [turns_cons]
      cases failed : (recorder.step event).1.isSaveFailure with
      | true =>
          have answer := Reply.violation?_of_isSaveFailure failed
          simp only [List.filter_cons, List.filterMap_cons, failed, answer]
          exact ih _
      | false =>
          have reported := Reply.messages_of_not_isSaveFailure failed
          simp only [List.filter_cons, List.filterMap_cons, failed, reported]
          cases (recorder.step event).1.violation? with
          | none => exact ih _
          | some violation => simpa using ih _

theorem isSome_openFunction? (good : recorder.WellFormed) :
    recorder.openFunction?.isSome = recorder.slot.isSome := by
  cases taken : recorder.slot with
  | none => rw [openFunction?, taken]; rfl
  | some slot =>
      obtain ⟨module, found, settled, address, last, place⟩ := good.slot_open taken
      rw [openFunction?, taken, Option.bind_some, found, Option.bind_some, last, ← place,
        List.getElem?_concat_length]
      rfl

/-- A recorder answers and reports as the machine does, and the two stay in step: whatever the
events, the current module has the machine's token, and a function is open just when the machine
says so. -/
theorem run_refines_protocol (messages : List Message) (events : List Event) :
    let recorder := (fresh messages).run events
    let turns := (fresh messages).turns events
    let machine : Protocol := {}
    turns.map Turn.event = events ∧
      turns.map (·.reply.violation?) = machine.answers events ∧
      recorder.modules[recorder.current]?.map Module.token = some (machine.run events).current ∧
      recorder.openFunction?.isSome = (machine.run events).isOpen ∧
      recorder.messages = messages ++ turns.flatMap Turn.reported ∧
      (turns.filter (!·.reply.isSaveFailure)).flatMap Turn.reported =
        (((machine.answers events).filterMap id).filter (· ≠ .moduleMismatch)).map
          (fun violation => ⟨.error, violation.text⟩) ∧
      ∀ turn ∈ turns, ∀ place address,
        turn.event = .startFunction place address → turn.reported = [] := by
  have good := WellFormed.fresh messages
  have after := good.run events
  have state := protocol_run good events
  have answers : ((fresh messages).turns events).map (·.reply.violation?) =
      Protocol.answers {} events := violations_turns good events
  refine ⟨map_event_turns _ events, answers, ?_, ?_, messages_run _ events, ?_, ?_⟩
  · rw [after.getElem?_current, Option.map_some]
    exact congrArg (fun machine => some machine.current) state
  · rw [isSome_openFunction? after]
    exact congrArg Protocol.isOpen state
  · have violations : ((fresh messages).turns events).filterMap (·.reply.violation?) =
        (Protocol.answers {} events).filterMap id := by
      rw [← answers, List.filterMap_map]
      rfl
    rw [reports_turns, violations, Violation.flatMap_messages]
  · intro turn member place address same
    obtain ⟨reported, before, reply⟩ := reported_of_mem_turns member
    rw [reported, reply, same]
    rfl

end Recorder

end DebugSymbols
