import DebugSymbols.Proofs.Recorder.History
import DebugSymbols.Proofs.Recorder.Lookup
/-!
# What the tables hold

Every table of a recording follows from its history.  A module has the labels
and data that were recorded while it was current and enabled, each once and in
order of first use.  It has one record for every address that was mentioned
meanwhile, with the place of the first mention, and the paths are the files of
those first mentions.
-/

namespace DebugSymbols

/-! ## What a moment records -/

/-- An address that belongs on record, the token of the module in which, and the place that the
record is to tell. -/
structure Mention where
  token : Option FileToken
  address : Int64
  place : Position
  deriving DecidableEq, Repr

namespace Moment

def started? (moment : Moment) : Option (Option FileToken) :=
  match moment.event with
  | .startModule token => some (some token)
  | _ => none

def label? (token : Option FileToken) (moment : Moment) : Option Symbol :=
  match moment.event with
  | .addLabel _ address name =>
      if moment.stage.enabled ∧ token = moment.stage.current then some ⟨address, name⟩ else none
  | _ => none

def datum? (token : Option FileToken) (moment : Moment) : Option DataEntry :=
  match moment.event with
  | .addData _ address size kind =>
      if moment.stage.enabled ∧ token = moment.stage.current then some ⟨address, size, kind⟩
      else none
  | _ => none

/-- The address that is mentioned.  Labels and data mention theirs while recording is enabled. -/
def mention? (moment : Moment) : Option Mention :=
  match moment.event with
  | .addLabel place address _ =>
      if moment.stage.enabled then some ⟨moment.stage.current, address, place⟩ else none
  | .addData place address _ _ =>
      if moment.stage.enabled then some ⟨moment.stage.current, address, place⟩ else none
  | .addAddress place address => some ⟨moment.stage.current, address, place⟩
  | .startFunction place address => some ⟨moment.stage.current, address, place⟩
  | _ => none

end Moment

def mentions (past : List Moment) : List Mention :=
  past.filterMap Moment.mention?

/-- The first mention of each address in the module of a token. -/
def firstMentions (token : Option FileToken) (mentions : List Mention) : List Mention :=
  Table.firstBy Mention.address (mentions.filter (·.token = token))

/-- The mentions that make a record: the first of each address in each module. -/
def creations (mentions : List Mention) : List Mention :=
  Table.firstBy (fun mention => (mention.token, mention.address)) mentions

section Mentions

variable {earlier : List Mention} {mention : Mention}

theorem filter_token_singleton (mention : Mention) (token : Option FileToken) :
    [mention].filter (·.token = token) = if token = mention.token then [mention] else [] := by
  by_cases here : token = mention.token
  · rw [if_pos here]
    exact List.filter_cons_of_pos (decide_eq_true here.symm)
  · rw [if_neg here]
    exact List.filter_cons_of_neg (by simpa using Ne.symm here)

theorem firstMentions_concat_of_mem
    (known : mention.address ∈ (firstMentions mention.token earlier).map Mention.address)
    (token : Option FileToken) :
    firstMentions token (earlier ++ [mention]) = firstMentions token earlier := by
  rw [firstMentions, List.filter_append, filter_token_singleton]
  split
  case isTrue here => exact Table.firstBy_concat_of_mem (here ▸ known)
  case isFalse => rw [List.append_nil, firstMentions]

theorem firstMentions_concat_of_not_mem
    (fresh : mention.address ∉ (firstMentions mention.token earlier).map Mention.address)
    (token : Option FileToken) :
    firstMentions token (earlier ++ [mention]) =
      if token = mention.token then firstMentions token earlier ++ [mention]
      else firstMentions token earlier := by
  rw [firstMentions, List.filter_append, filter_token_singleton]
  split
  case isTrue here => exact Table.firstBy_concat_of_not_mem (here ▸ fresh)
  case isFalse => rw [List.append_nil, firstMentions]

/-- A record has been made once its module has a first mention of the address. -/
theorem mem_creations_iff {token : Option FileToken} {address : Int64} :
    (token, address) ∈ (creations earlier).map (fun mention => (mention.token, mention.address)) ↔
      address ∈ (firstMentions token earlier).map Mention.address := by
  rw [creations, firstMentions, Table.mem_map_firstBy, Table.mem_map_firstBy]
  constructor
  · intro made
    obtain ⟨mention, member, same⟩ := List.mem_map.1 made
    cases same
    exact List.mem_map.2 ⟨mention, List.mem_filter.2 ⟨member, decide_eq_true rfl⟩, rfl⟩
  · intro mentioned
    obtain ⟨mention, member, rfl⟩ := List.mem_map.1 mentioned
    obtain ⟨standing, here⟩ := List.mem_filter.1 member
    exact List.mem_map.2 ⟨mention, standing, by rw [of_decide_eq_true here]⟩

theorem creations_concat_of_mem
    (known : mention.address ∈ (firstMentions mention.token earlier).map Mention.address) :
    creations (earlier ++ [mention]) = creations earlier :=
  Table.firstBy_concat_of_mem (mem_creations_iff.2 known)

theorem creations_concat_of_not_mem
    (fresh : mention.address ∉ (firstMentions mention.token earlier).map Mention.address) :
    creations (earlier ++ [mention]) = creations earlier ++ [mention] :=
  Table.firstBy_concat_of_not_mem (mt mem_creations_iff.1 fresh)

/-- The mentions that make a record in a module are its first mentions. -/
theorem filter_creations (token : Option FileToken) (mentions : List Mention) :
    (creations mentions).filter (·.token = token) = firstMentions token mentions := by
  induction mentions using List.reverseRecOn with
  | nil => rfl
  | append_singleton earlier mention ih =>
      by_cases known : mention.address ∈ (firstMentions mention.token earlier).map Mention.address
      · rw [creations_concat_of_mem known, firstMentions_concat_of_mem known, ih]
      · rw [creations_concat_of_not_mem known, firstMentions_concat_of_not_mem known,
          List.filter_append, ih, filter_token_singleton]
        split
        · rfl
        · rw [List.append_nil]

/-- Only the first mention of an address makes a record, and labels mention none while recording
is disabled. -/
example :
    creations (mentions (history [.addLabel ⟨"a.asm", 1⟩ 8 "start", .setEnabled false,
      .addLabel ⟨"b.asm", 1⟩ 16 "loop", .addAddress ⟨"c.asm", 7⟩ 8,
      .addAddress ⟨"c.asm", 9⟩ 16])) =
      [⟨none, 8, ⟨"a.asm", 1⟩⟩, ⟨none, 16, ⟨"c.asm", 9⟩⟩] := by
  decide

end Mentions

namespace Recorder

def located (recorder : Recorder) (entry : AddressRecord) : Int64 × Option Position :=
  (entry.address, (recorder.paths.path? entry.file).map fun file => ⟨file, entry.line⟩)

/-! ## What a step records -/

structure SameRecords (before after : Recorder) : Prop where
  paths : after.paths = before.paths
  records : ∀ token, (after.moduleAt token).records = (before.moduleAt token).records

/-- The mentioned address gets a record, and its file a path. -/
structure AddsRecord (mention : Mention) (before after : Recorder) : Prop where
  paths : after.paths = before.paths.insert mention.place.file
  records : ∀ token, (after.moduleAt token).records =
    if token = mention.token then
      (before.moduleAt token).records ++
        [(mention.address, before.recordFor mention.place mention.address)]
    else (before.moduleAt token).records

/-- A mentioned address gets a record unless it has one. -/
def Mentioned (before after : Recorder) (mention : Mention) : Prop :=
  if mention.address ∈ (before.moduleAt mention.token).known then SameRecords before after
  else AddsRecord mention before after

structure SameEntries (before after : Recorder) : Prop where
  symbols : ∀ token, (after.moduleAt token).symbols = (before.moduleAt token).symbols
  data : ∀ token, (after.moduleAt token).data = (before.moduleAt token).data

/-- Everything that a moment records, and nothing else, has been recorded. -/
structure Recorded (moment : Moment) (before after : Recorder) : Prop where
  tokens : after.tokens =
    moment.started?.elim before.tokens (Table.appendNew before.tokens)
  symbols : ∀ token, (after.moduleAt token).symbols =
    (moment.label? token).elim (before.moduleAt token).symbols
      (Table.appendNew (before.moduleAt token).symbols)
  data : ∀ token, (after.moduleAt token).data =
    (moment.datum? token).elim (before.moduleAt token).data
      (Table.appendNew (before.moduleAt token).data)
  records : moment.mention?.elim (SameRecords before after) (Mentioned before after)

variable {before middle after : Recorder} {mention : Mention}

theorem SameRecords.refl (recorder : Recorder) : SameRecords recorder recorder :=
  ⟨rfl, fun _ => rfl⟩

theorem SameRecords.trans (left : SameRecords before middle) (right : SameRecords middle after) :
    SameRecords before after where
  paths := right.paths.trans left.paths
  records := fun token => (right.records token).trans (left.records token)

theorem SameEntries.refl (recorder : Recorder) : SameEntries recorder recorder :=
  ⟨fun _ => rfl, fun _ => rfl⟩

theorem SameEntries.trans (left : SameEntries before middle) (right : SameEntries middle after) :
    SameEntries before after where
  symbols := fun token => (right.symbols token).trans (left.symbols token)
  data := fun token => (right.data token).trans (left.data token)

/-- What leaves the records alone may come before a mention. -/
theorem Mentioned.after_same (same : SameRecords before middle)
    (mentioned : Mentioned middle after mention) : Mentioned before after mention := by
  have known : (before.moduleAt mention.token).known = (middle.moduleAt mention.token).known :=
    congrArg (List.map Prod.fst) (same.records mention.token).symm
  unfold Mentioned at mentioned ⊢
  rw [known]
  split at mentioned
  case isTrue standing =>
    rw [if_pos standing]
    exact same.trans mentioned
  case isFalse fresh =>
    rw [if_neg fresh]
    refine ⟨same.paths ▸ mentioned.paths, fun token => ?_⟩
    rw [mentioned.records token, same.records token, recordFor, recordFor, same.paths]

/-- What leaves the records alone may come after a mention. -/
theorem Mentioned.then_same (mentioned : Mentioned before middle mention)
    (same : SameRecords middle after) : Mentioned before after mention := by
  unfold Mentioned at mentioned ⊢
  split at mentioned
  case isTrue standing =>
    rw [if_pos standing]
    exact mentioned.trans same
  case isFalse fresh =>
    rw [if_neg fresh]
    exact ⟨same.paths.trans mentioned.paths,
      fun token => (same.records token).trans (mentioned.records token)⟩

variable {recorder : Recorder}

theorem sameEntries_addAddress (good : recorder.WellFormed) (place : Position)
    (address : Int64) : SameEntries recorder (recorder.addAddress place address) := by
  refine ⟨fun token => ?_, fun token => ?_⟩
  · obtain ⟨records, same⟩ := good.moduleAt_addAddress place address token
    rw [same]
  · obtain ⟨records, same⟩ := good.moduleAt_addAddress place address token
    rw [same]

theorem mentioned_addAddress (good : recorder.WellFormed) (place : Position) (address : Int64) :
    Mentioned recorder (recorder.addAddress place address)
      ⟨recorder.currentModule.token, address, place⟩ := by
  unfold Mentioned
  rw [good.moduleAt_current]
  by_cases known : address ∈ recorder.currentModule.known
  · rw [if_pos known, addAddress_of_known _ _ _ known]
    exact .refl recorder
  · rw [if_neg known, addAddress_of_fresh _ _ _ known]
    refine ⟨rfl, fun token => ?_⟩
    have changed := good.moduleAt_modifyCurrent
      (·.appendRecord address (recorder.recordFor place address)) (fun _ => rfl) token
    split
    case isTrue same =>
      rw [if_pos same] at changed
      exact congrArg Module.records changed
    case isFalse other =>
      rw [if_neg other] at changed
      exact congrArg Module.records changed

/-- Functions are apart from the other tables. -/
theorem same_of_functions (paths : after.paths = before.paths)
    (changed : ∀ token, ∃ functions,
      after.moduleAt token = { before.moduleAt token with functions := functions }) :
    SameEntries before after ∧ SameRecords before after := by
  refine ⟨⟨fun token => ?_, fun token => ?_⟩, paths, fun token => ?_⟩
  all_goals
    obtain ⟨functions, same⟩ := changed token
    rw [same]

theorem same_endFunction (good : recorder.WellFormed) (address : Int64) :
    SameEntries recorder (recorder.endFunction address).2 ∧
      SameRecords recorder (recorder.endFunction address).2 := by
  refine same_of_functions ?_ (good.moduleAt_endFunction address)
  cases taken : recorder.slot with
  | none => rw [endFunction_of_none _ _ taken]; rfl
  | some slot => rw [endFunction_of_some _ _ taken]; rfl

theorem same_closeOpen (good : recorder.WellFormed) (address : Int64) :
    SameEntries recorder (recorder.closeOpen address) ∧
      SameRecords recorder (recorder.closeOpen address) := by
  unfold closeOpen
  split
  · exact same_endFunction good address
  · exact ⟨.refl recorder, .refl recorder⟩

theorem same_openHere (good : recorder.WellFormed) (address : Int64) :
    SameEntries recorder (recorder.openHere address) ∧
      SameRecords recorder (recorder.openHere address) := by
  refine same_of_functions rfl fun token => ?_
  rw [good.moduleAt_openHere]
  split
  · exact ⟨_, rfl⟩
  · exact ⟨_, rfl⟩

/-! ## Every step records what its moment says -/

/-- A moment that adds no symbol and no data. -/
theorem Recorded.of_sameEntries {moment : Moment} (tokens : after.tokens = before.tokens)
    (entries : SameEntries before after)
    (records : moment.mention?.elim (SameRecords before after) (Mentioned before after))
    (started : moment.started? = none) (label : ∀ token, moment.label? token = none)
    (datum : ∀ token, moment.datum? token = none) : Recorded moment before after where
  tokens := by rw [started, tokens, Option.elim_none]
  symbols := fun token => by rw [label, entries.symbols, Option.elim_none]
  data := fun token => by rw [datum, entries.data, Option.elim_none]
  records := records

/-- A moment that records nothing. -/
theorem Recorded.of_same {moment : Moment} (modules : after.modules = before.modules)
    (paths : after.paths = before.paths) (started : moment.started? = none)
    (label : ∀ token, moment.label? token = none) (datum : ∀ token, moment.datum? token = none)
    (mention : moment.mention? = none) : Recorded moment before after := by
  have same := moduleAt_congr modules
  have records : SameRecords before after :=
    ⟨paths, fun token => congrArg Module.records (same token)⟩
  refine .of_sameEntries (congrArg (List.map Module.token) modules) ⟨?_, ?_⟩ ?_ started label datum
  · exact fun token => congrArg Module.symbols (same token)
  · exact fun token => congrArg Module.data (same token)
  · rwa [mention]

theorem recorded_startModule (recorder : Recorder) (token : FileToken) :
    Recorded ⟨recorder.stage, .startModule token⟩ recorder (recorder.startModule token) where
  tokens := recorder.tokens_startModule token
  symbols := fun other => congrArg Module.symbols (recorder.moduleAt_startModule token other)
  data := fun other => congrArg Module.data (recorder.moduleAt_startModule token other)
  records := ⟨recorder.paths_startModule token,
    fun other => congrArg Module.records (recorder.moduleAt_startModule token other)⟩

theorem recorded_endModule (recorder : Recorder) (token : Option FileToken) :
    Recorded ⟨recorder.stage, .endModule token⟩ recorder (recorder.endModule token).2 := by
  obtain ⟨messages, same⟩ := recorder.endModule_snd token
  have stays : (recorder.endModule token).2.modules = recorder.modules ∧
      (recorder.endModule token).2.paths = recorder.paths := by
    rw [same]
    split
    · exact ⟨rfl, rfl⟩
    · exact ⟨rfl, rfl⟩
  exact .of_same stays.1 stays.2 rfl (fun _ => rfl) (fun _ => rfl) rfl

/-- What is listed goes into the current module after its address has been recorded. -/
theorem recorded_insert {moment : Moment} (good : recorder.WellFormed) (place : Position)
    (declaration : Declaration) (started : moment.started? = none)
    (label : ∀ token, moment.label? token =
      if token = recorder.currentModule.token then declaration.symbol? else none)
    (datum : ∀ token, moment.datum? token =
      if token = recorder.currentModule.token then declaration.entry? else none)
    (mention : moment.mention? =
      some ⟨recorder.currentModule.token, declaration.address, place⟩) :
    Recorded moment recorder
      ((recorder.addAddress place declaration.address).modifyCurrent (·.insert declaration)) := by
  let address := declaration.address
  have located := good.addAddress place address
  have entries := sameEntries_addAddress good place address
  have control := recorder.sameControl_addAddress place address
  have changed := located.moduleAt_modifyCurrent (·.insert declaration)
    (Module.token_insert · declaration)
  rw [control.token_currentModule] at changed
  refine ⟨?_, fun token => ?_, fun token => ?_, ?_⟩
  · rw [started, Option.elim_none]
    exact (tokens_modifyModule _ _ (·.insert declaration)
      (Module.token_insert · declaration)).trans control.tokens
  · rw [changed, label]
    split
    · rw [Module.symbols_insert, entries.symbols]
    · rw [entries.symbols, Option.elim_none]
  · rw [changed, datum]
    split
    · rw [Module.data_insert, entries.data]
    · rw [entries.data, Option.elim_none]
  · rw [mention]
    refine (mentioned_addAddress good place address).then_same ⟨rfl, fun token => ?_⟩
    rw [changed]
    split
    · exact Module.records_insert _ declaration
    · rfl

theorem recorded_declare (good : recorder.WellFormed) (place : Position)
    (declaration : Declaration) :
    Recorded ⟨recorder.stage, declaration.event place⟩ recorder
      (recorder.declare place declaration) := by
  cases enabled : recorder.enabled with
  | false =>
      have idle : recorder.stage.enabled = false := enabled
      rw [declare_of_disabled _ _ _ enabled]
      cases declaration with
      | label symbol =>
          exact .of_same rfl rfl rfl (fun _ => by simp [Moment.label?, Declaration.event, idle])
            (fun _ => rfl) (by simp [Moment.mention?, Declaration.event, idle])
      | datum entry =>
          exact .of_same rfl rfl rfl (fun _ => rfl)
            (fun _ => by simp [Moment.datum?, Declaration.event, idle])
            (by simp [Moment.mention?, Declaration.event, idle])
  | true =>
      have busy : recorder.stage.enabled = true := enabled
      rw [good.declare_of_enabled enabled]
      cases declaration with
      | label symbol =>
          refine recorded_insert good place (.label symbol) rfl (fun token => ?_)
            (fun _ => (ite_self none).symm) (if_pos busy)
          simp only [Moment.label?, Declaration.event, busy, true_and]
          rfl
      | datum entry =>
          refine recorded_insert good place (.datum entry) rfl (fun _ => (ite_self none).symm)
            (fun token => ?_) (if_pos busy)
          simp only [Moment.datum?, Declaration.event, busy, true_and]
          rfl

theorem recorded_startFunction (good : recorder.WellFormed) (place : Position)
    (address : Int64) :
    Recorded ⟨recorder.stage, .startFunction place address⟩ recorder
      (recorder.startFunction place address) := by
  have closed := good.closeOpen address
  have located := closed.addAddress place address
  have closing := same_closeOpen good address
  have opening := same_openHere located address
  have token := (recorder.sameControl_closeOpen address).token_currentModule
  have mentioned := mentioned_addAddress closed place address
  have tokens := (recorder.sameControl_startFunction place address).tokens
  rw [token] at mentioned
  rw [startFunction_eq _ _ _ closed.current_lt] at tokens ⊢
  refine .of_sameEntries tokens ?_ ?_ rfl (fun _ => rfl) (fun _ => rfl)
  · exact (closing.1.trans (sameEntries_addAddress closed place address)).trans opening.1
  · exact (mentioned.after_same closing.2).then_same opening.2

/-- Unless it clears the recorder, an event records what its moment says. -/
theorem recorded_step (good : recorder.WellFormed) {event : Event} (other : event ≠ .clear) :
    Recorded ⟨recorder.stage, event⟩ recorder (recorder.step event).2 := by
  cases event with
  | clear => exact absurd rfl other
  | configure settings => exact .of_same rfl rfl rfl (fun _ => rfl) (fun _ => rfl) rfl
  | setEnabled enabled => exact .of_same rfl rfl rfl (fun _ => rfl) (fun _ => rfl) rfl
  | setOutput output => exact .of_same rfl rfl rfl (fun _ => rfl) (fun _ => rfl) rfl
  | setVersion version => exact .of_same rfl rfl rfl (fun _ => rfl) (fun _ => rfl) rfl
  | startModule token => exact recorder.recorded_startModule token
  | endModule token => exact recorder.recorded_endModule token
  | addLabel place address name => exact recorded_declare good place (.label ⟨address, name⟩)
  | addData place address size kind =>
      exact recorded_declare good place (.datum ⟨address, size, kind⟩)
  | addAddress place address =>
      have control := recorder.sameControl_addAddress place address
      exact .of_sameEntries control.tokens (sameEntries_addAddress good place address)
        (mentioned_addAddress good place address) rfl (fun _ => rfl) (fun _ => rfl)
  | startFunction place address => exact recorded_startFunction good place address
  | endFunction address =>
      have same := same_endFunction good address
      have tokens : (recorder.endFunction address).2.tokens = recorder.tokens := by
        obtain ⟨messages, closed⟩ := recorder.endFunction_snd address
        rw [closed]
        exact (recorder.sameControl_closeOpen address).tokens
      exact .of_sameEntries tokens same.1 same.2 rfl (fun _ => rfl) (fun _ => rfl)
  | save place =>
      have modules := congrArg Recorder.modules (recorder.save_snd place)
      have paths := congrArg Recorder.paths (recorder.save_snd place)
      exact .of_same modules paths rfl (fun _ => rfl) (fun _ => rfl) rfl

/-- Events that the protocol answers in the same module keep the modules. -/
theorem keeps_modules (good : recorder.WellFormed) {event : Event} (uncleared : event ≠ .clear)
    (unstarted : Moment.started? ⟨recorder.stage, event⟩ = none)
    (kept : (recorder.protocol.step event).2.current = recorder.protocol.current) :
    (recorder.step event).2.tokens = recorder.tokens ∧
      (recorder.step event).2.protocol.current = recorder.protocol.current := by
  constructor
  · have recorded := (recorded_step good uncleared).tokens
    rwa [unstarted, Option.elim_none] at recorded
  · rw [← kept, ← observe_step good event]
    rfl

/-! ## Along a whole run -/

/-- The tables of a recorder are those of a history. -/
structure Tables (past : List Moment) (recorder : Recorder) : Prop where
  tokens : recorder.tokens = (none :: past.filterMap Moment.started?).eraseDups
  symbols : ∀ token, (recorder.moduleAt token).symbols =
    (past.filterMap (Moment.label? token)).eraseDups
  data : ∀ token, (recorder.moduleAt token).data =
    (past.filterMap (Moment.datum? token)).eraseDups
  records : ∀ token, (recorder.moduleAt token).records.map (Prod.map id recorder.located) =
    (firstMentions token (mentions past)).map fun mention =>
      (mention.address, mention.address, some mention.place)
  paths : recorder.paths.paths =
    ((creations (mentions past)).map (·.place.file)).eraseDups

namespace Tables

theorem of_blank {recorder : Recorder} (modules : recorder.modules = [{}])
    (paths : recorder.paths = {}) : Tables [] recorder where
  tokens := by rw [Recorder.tokens, modules]; rfl
  symbols := fun token => by rw [moduleAt_of_blank modules]; rfl
  data := fun token => by rw [moduleAt_of_blank modules]; rfl
  records := fun token => by rw [moduleAt_of_blank modules]; rfl
  paths := by rw [paths]; rfl

variable {past : List Moment} {moment : Moment}

theorem known_eq (tables : Tables past before) (token : Option FileToken) :
    (before.moduleAt token).known =
      (firstMentions token (mentions past)).map Mention.address := by
  have same := congrArg (List.map Prod.fst) (tables.records token)
  rwa [List.map_map, List.map_map] at same

theorem addresses_eq (tables : Tables past before) (token : Option FileToken) :
    (before.moduleAt token).addresses.map before.located =
      (firstMentions token (mentions past)).map fun mention =>
        (mention.address, some mention.place) := by
  have same := congrArg (List.map Prod.snd) (tables.records token)
  rw [List.map_map, List.map_map] at same
  rw [Module.addresses, List.map_map]
  exact same

/-- A path that is added does not change what the records say. -/
theorem map_located (tables : Tables past before) {file : String}
    (paths : after.paths = before.paths.insert file) (token : Option FileToken) :
    (before.moduleAt token).records.map (Prod.map id after.located) =
      (before.moduleAt token).records.map (Prod.map id before.located) := by
  apply List.map_congr_left
  rintro ⟨address, entry⟩ member
  -- Every old record names a path, and a path keeps its index when the table grows.
  have told : before.located entry ∈
      (firstMentions token (mentions past)).map fun mention =>
        (mention.address, some mention.place) :=
    tables.addresses_eq token ▸ List.mem_map_of_mem (Module.mem_addresses_of_record member)
  obtain ⟨mention, _, same⟩ := List.mem_map.1 told
  have place := congrArg Prod.snd same
  obtain ⟨path, standing, _⟩ := Option.map_eq_some_iff.1 place.symm
  rw [Prod.map_apply, Prod.map_apply, located, located, paths, PathTable.path?_insert standing,
    standing]

/-- Records that stay are those of the old mentions. -/
theorem records_of_same (tables : Tables past before) (same : SameRecords before after)
    (token : Option FileToken) :
    (after.moduleAt token).records.map (Prod.map id after.located) =
      (firstMentions token (mentions past)).map fun mention =>
        (mention.address, mention.address, some mention.place) := by
  have located : after.located = before.located := by
    funext entry
    rw [Recorder.located, Recorder.located, same.paths]
  rw [located, same.records, tables.records]

/-- A new record is that of the new mention. -/
theorem records_of_adds (tables : Tables past before) {mention : Mention}
    (adds : AddsRecord mention before after) (token : Option FileToken) :
    (after.moduleAt token).records.map (Prod.map id after.located) =
      (if token = mention.token then firstMentions token (mentions past) ++ [mention]
        else firstMentions token (mentions past)).map fun mention =>
          (mention.address, mention.address, some mention.place) := by
  have path := before.paths.path?_insert_indexOf mention.place.file
  rw [adds.records]
  split
  · rw [List.map_append, List.map_append, tables.map_located adds.paths, tables.records]
    congr 1
    rw [List.map_singleton, List.map_singleton, Prod.map_apply, located, recordFor, adds.paths,
      path, Option.map_some, id]
  · rw [tables.map_located adds.paths, tables.records]

/-- What a step records keeps the tables with the history. -/
theorem step (tables : Tables past before) (recorded : Recorded moment before after) :
    Tables (past ++ [moment]) after := by
  have tokens :
      after.tokens = (none :: (past ++ [moment]).filterMap Moment.started?).eraseDups := by
    rw [recorded.tokens, tables.tokens, filterMap_concat, ← List.cons_append,
      Table.eraseDups_append_toList]
  have symbols : ∀ token, (after.moduleAt token).symbols =
      ((past ++ [moment]).filterMap (Moment.label? token)).eraseDups := by
    intro token
    rw [recorded.symbols, tables.symbols, filterMap_concat, Table.eraseDups_append_toList]
  have data : ∀ token, (after.moduleAt token).data =
      ((past ++ [moment]).filterMap (Moment.datum? token)).eraseDups := by
    intro token
    rw [recorded.data, tables.data, filterMap_concat, Table.eraseDups_append_toList]
  have more : mentions (past ++ [moment]) = mentions past ++ moment.mention?.toList :=
    filterMap_concat Moment.mention? past moment
  have records := recorded.records
  cases named : moment.mention? with
  | none =>
      rw [named] at records more
      rw [Option.toList_none, List.append_nil] at more
      refine ⟨tokens, symbols, data, fun token => ?_, ?_⟩
      · rw [more]
        exact tables.records_of_same records token
      · rw [more, ← tables.paths]
        exact congrArg PathTable.paths records.paths
  | some mention =>
      rw [named] at records more
      rw [Option.toList_some] at more
      rw [Option.elim_some, Mentioned, tables.known_eq] at records
      split at records
      case isTrue known =>
        refine ⟨tokens, symbols, data, fun token => ?_, ?_⟩
        · rw [more, firstMentions_concat_of_mem known]
          exact tables.records_of_same records token
        · rw [more, creations_concat_of_mem known, ← tables.paths]
          exact congrArg PathTable.paths records.paths
      case isFalse fresh =>
        refine ⟨tokens, symbols, data, fun token => ?_, ?_⟩
        · rw [more, firstMentions_concat_of_not_mem fresh]
          exact tables.records_of_adds records token
        · rw [more, creations_concat_of_not_mem fresh, List.map_append, List.map_singleton,
            Table.eraseDups_concat, ← tables.paths]
          exact congrArg PathTable.paths records.paths

/-- Clearing empties the tables together with the history. -/
theorem run (messages : List Message) (events : List Event) :
    Tables (history events) ((fresh messages).run events) := by
  apply history_induction
  · intro recorder modules paths _
    exact of_blank modules paths
  · intro past recorder event good other tables
    exact tables.step (recorded_step good other)

end Tables

/-- Every symbol comes from an event that brought it up. -/
theorem exists_addLabel_of_mem_symbols {messages : List Message} {events : List Event}
    {module : Module} (standing : module ∈ ((fresh messages).run events).modules) {symbol : Symbol}
    (member : symbol ∈ module.symbols) :
    ∃ place, .addLabel place symbol.address symbol.name ∈ events := by
  have good := (WellFormed.fresh messages).run events
  obtain ⟨index, found⟩ := List.mem_iff_getElem?.1 standing
  have symbols := (Tables.run messages events).symbols module.token
  rw [moduleAt_eq good.tokens_nodup found] at symbols
  rw [symbols, List.mem_eraseDups, List.mem_filterMap] at member
  obtain ⟨moment, past, recorded⟩ := member
  have happened := event_mem_of_mem_history past
  unfold Moment.label? at recorded
  split at recorded
  case h_1 place address name named =>
    split at recorded
    case isTrue =>
      cases recorded
      exact ⟨place, named ▸ happened⟩
    case isFalse => cases recorded
  case h_2 => cases recorded

/-- A recorded address is answered with its place among the records. -/
theorem getElem?_known_recordAddress (good : recorder.WellFormed) (place : Position)
    (address : Int64) :
    (recorder.addAddress place address).currentModule.known[
      (recorder.recordAddress place address).1]? = some address := by
  by_cases known : address ∈ recorder.currentModule.known
  · rw [addAddress_of_known _ _ _ known, recordAddress_of_known _ _ _ known,
      List.getElem?_idxOf known]
  · have grown : (recorder.addAddress place address).currentModule.known =
        recorder.currentModule.known ++ [address] := by
      rw [currentModule_addAddress_of_fresh _ _ _ good.current_lt known]
      exact List.map_append
    have last : (recorder.recordAddress place address).1 = recorder.currentModule.known.length := by
      rw [recordAddress_of_fresh _ _ _ known, Module.known, List.length_map]
    rw [grown, last, List.getElem?_concat_length]

/-- What was recorded is what the history says: the modules are those that were started, each
module holds the labels, the data and the addresses of the events while it was current, and the
paths are those of the events that made a record. -/
theorem tables_of_history (messages : List Message) (events : List Event) :
    let recorder := (fresh messages).run events
    let past := history events
    recorder.stage = Stage.run {} events ∧
      recorder.tokens = (none :: past.filterMap Moment.started?).eraseDups ∧
      (∀ module ∈ recorder.modules,
        module.symbols = (past.filterMap (Moment.label? module.token)).eraseDups ∧
          module.data = (past.filterMap (Moment.datum? module.token)).eraseDups ∧
          module.addresses.map recorder.located =
            (firstMentions module.token (mentions past)).map
              (fun mention => (mention.address, some mention.place)) ∧
          (creations (mentions past)).filter (·.token = module.token) =
            firstMentions module.token (mentions past)) ∧
      recorder.paths.paths = ((creations (mentions past)).map (·.place.file)).eraseDups ∧
      ∀ place address, ∃ index,
        (recorder.step (.addAddress place address)).1 = .index index ∧
          (recorder.step (.addAddress place address)).2.currentModule.known[index]? =
            some address := by
  have good := (WellFormed.fresh messages).run events
  have tables := Tables.run messages events
  refine ⟨stage_run (WellFormed.fresh messages) events, tables.tokens, ?_, tables.paths,
    fun place address => ⟨_, rfl, getElem?_known_recordAddress good place address⟩⟩
  intro module member
  obtain ⟨index, found⟩ := List.mem_iff_getElem?.1 member
  have looked := moduleAt_eq good.tokens_nodup found
  have symbols := tables.symbols module.token
  have data := tables.data module.token
  have addresses := tables.addresses_eq module.token
  rw [looked] at symbols data addresses
  exact ⟨symbols, data, addresses, filter_creations module.token _⟩

end Recorder

end DebugSymbols
