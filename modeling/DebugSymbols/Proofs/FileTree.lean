import DebugSymbols.FileTree
import DebugSymbols.Proofs.Recorder.Saving
/-!
# Saving into a file tree

A recording is saved completely just when its output path leads to a place
where a file can be created, its text fits and can be flushed.  Unless a device
stands there, the path then holds the text, or the beginning of it if not all
of it could be written, and what other paths lead to is as before.  What was
written there earlier does not matter, so that saving may be repeated.
-/

namespace DebugSymbols

namespace FileTree

variable {tree : FileTree} {location : Location} {content : List UInt8} {path : String}

/-! ## Putting a file -/

theorem node?_put (tree : FileTree) (location other : Location) (node : FileNode) :
    (tree.put location node).node? other =
      if other = location then some node else tree.node? other := by
  have kept : other ≠ location → (fun entry : Location × FileNode =>
      decide ((entry.1 != location) = true ∧ (entry.1 == other) = true)) =
        fun entry => entry.1 == other := by
    intro apart
    funext entry
    by_cases same : entry.1 = other
    · simp [same, apart]
    · simp [same]
  simp only [node?, put]
  by_cases here : other = location
  · rw [if_pos here, List.find?_cons_of_pos (by simp [here]), Option.map_some]
  · rw [if_neg here, List.find?_cons_of_neg (by simpa using Ne.symm here), List.find?_filter,
      kept here]

theorem put_put (tree : FileTree) (location : Location) (first second : FileNode) :
    (tree.put location first).put location second = tree.put location second := by
  simp [put]

/-- A file that is put where no directory stands leaves all directories. -/
theorem node?_put_eq_directory_iff (free : tree.node? location ≠ some .directory)
    (other : Location) : (tree.put location (.file content)).node? other = some .directory ↔
      tree.node? other = some .directory := by
  rw [node?_put]
  by_cases here : other = location
  · rw [if_pos here, here]
    exact ⟨nofun, fun standing => absurd standing free⟩
  · rw [if_neg here]

theorem follow_put (free : tree.node? location ≠ some .directory) (start : Location)
    (names : List String) :
    (tree.put location (.file content)).follow start names = tree.follow start names := by
  induction names generalizing start with
  | nil => rfl
  | cons name rest ih =>
      rw [follow, follow]
      simp only [node?_put_eq_directory_iff free, ih]

/-- Paths lead where they led before a file was put where no directory stands. -/
theorem locate_put (free : tree.node? location ≠ some .directory) (path : String) :
    (tree.put location (.file content)).locate path = tree.locate path := by
  rw [locate, locate, follow_put free]
  rfl

/-- Other paths lead to what they led to before. -/
theorem look?_put {other : String} (free : tree.node? location ≠ some .directory)
    (elsewhere : tree.locate other ≠ some location) :
    (tree.put location (.file content)).look? other = tree.look? other := by
  rw [look?, look?, locate_put free]
  cases found : tree.locate other with
  | none => rfl
  | some place =>
      have apart : place ≠ location := fun same => elsewhere (same ▸ found)
      rw [Option.bind_some, Option.bind_some, node?_put, if_neg apart]

/-! ## Creating a file -/

def IsDevice (tree : FileTree) (path : String) : Prop :=
  ∃ room, tree.look? path = some (.device room)

/-- A path leads to a location where a file can be created, there is room for some octets, and they
can be flushed. -/
def Takes (tree : FileTree) (path : String) (octets : List UInt8) : Prop :=
  ∃ location, tree.locate path = some location ∧ (tree.access location).creates = true ∧
    (tree.access location).flushes = true ∧
      match tree.node? location with
      | some .directory => False
      | some (.device limit) => ∀ room, limit = some room → octets.length ≤ room
      | some (.file _) | none =>
          ∀ room, (tree.access location).room = some room → octets.length ≤ room

theorem takes_iff {octets : List UInt8} :
    tree.Takes path octets ↔
      ∃ sink, tree.create? path = some sink ∧ sink.Fits octets ∧ sink.flushes = true := by
  rw [Takes, create?]
  cases found : tree.locate path with
  | none => simp
  | some location =>
      simp only [Option.some.injEq, exists_eq_left', Option.bind_some]
      by_cases creates : (tree.access location).creates = true
      · rw [if_pos creates]
        cases standing : tree.node? location with
        | none => simp [creates, Sink.Fits, Access.sink, and_comm]
        | some node =>
            rcases node with content | _ | limit
            · simp [creates, Sink.Fits, Access.sink, and_comm]
            · simp
            · simp [creates, Sink.Fits, Access.sink, and_comm]
      · simp [creates]

theorem taken_of_create? {sink : Sink} (created : tree.create? path = some sink) :
    sink.taken = [] := by
  obtain ⟨location, _, standing⟩ := Option.bind_eq_some_iff.1 created
  simp only at standing
  split at standing
  · split at standing
    all_goals cases standing
    all_goals rfl
  · cases standing

/-! ## Keeping a file -/

/-- A path leads to a location that keeps what is written there, because a file or nothing stands
there. -/
structure KeepsFile (tree : FileTree) (path : String) (location : Location) : Prop where
  found : tree.locate path = some location
  free : ∀ node, tree.node? location = some node → ∃ content, node = .file content

namespace KeepsFile

theorem node?_ne_directory (keeps : tree.KeepsFile path location) :
    tree.node? location ≠ some .directory := by
  intro standing
  obtain ⟨content, impossible⟩ := keeps.free _ standing
  cases impossible

theorem not_isDevice (keeps : tree.KeepsFile path location) : ¬tree.IsDevice path := by
  rintro ⟨room, looked⟩
  rw [look?, keeps.found, Option.bind_some] at looked
  obtain ⟨content, impossible⟩ := keeps.free _ looked
  cases impossible

theorem create?_eq (keeps : tree.KeepsFile path location) :
    tree.create? path =
      if (tree.access location).creates then some (tree.access location).sink else none := by
  rw [create?, keeps.found, Option.bind_some]
  cases standing : tree.node? location with
  | none => rfl
  | some node =>
      obtain ⟨content, rfl⟩ := keeps.free node standing
      rfl

theorem store_eq (keeps : tree.KeepsFile path location) (place : Sink) :
    tree.store path place = tree.put location (.file place.taken) := by
  rw [store, keeps.found]
  cases standing : tree.node? location with
  | none => simp only [standing]
  | some node =>
      obtain ⟨content, rfl⟩ := keeps.free node standing
      simp only [standing]

theorem put (keeps : tree.KeepsFile path location) (content : List UInt8) :
    (tree.put location (.file content)).KeepsFile path location where
  found := (locate_put keeps.node?_ne_directory path).trans keeps.found
  free := by
    intro node standing
    rw [node?_put, if_pos rfl] at standing
    exact ⟨content, (Option.some.inj standing).symm⟩

theorem content?_put (keeps : tree.KeepsFile path location) (content : List UInt8) :
    (tree.put location (.file content)).content? path = some content := by
  have looked : (tree.put location (.file content)).look? path = some (.file content) := by
    rw [look?, (keeps.put content).found, Option.bind_some, node?_put, if_pos rfl]
  rw [content?, looked]
  rfl

end KeepsFile

/-- What can be created and is no device keeps what is written there. -/
theorem exists_keepsFile {sink : Sink} (created : tree.create? path = some sink)
    (other : ¬tree.IsDevice path) : ∃ location, tree.KeepsFile path location := by
  obtain ⟨location, found, standing⟩ := Option.bind_eq_some_iff.1 created
  refine ⟨location, found, ?_⟩
  intro node same
  rw [same] at standing
  rcases node with content | _ | room
  · exact ⟨content, rfl⟩
  · simp at standing
  · refine absurd ⟨room, ?_⟩ other
    rw [look?, found, Option.bind_some, same]

theorem Takes.exists_keepsFile {octets : List UInt8} (takes : tree.Takes path octets)
    (other : ¬tree.IsDevice path) : ∃ location, tree.KeepsFile path location := by
  obtain ⟨sink, created, _⟩ := takes_iff.1 takes
  exact FileTree.exists_keepsFile created other

/-- Nothing changes where no file is kept. -/
theorem store_of_not_keepsFile (lost : ∀ location, ¬tree.KeepsFile path location) (place : Sink) :
    tree.store path place = tree := by
  rw [store]
  cases found : tree.locate path with
  | none => rfl
  | some location =>
      cases standing : tree.node? location with
      | none =>
          refine absurd ⟨found, ?_⟩ (lost location)
          rw [standing]
          exact nofun
      | some node =>
          rcases node with content | _ | room
          · refine absurd ⟨found, ?_⟩ (lost location)
            intro node same
            exact ⟨content, Option.some.inj (same.symm.trans standing)⟩
          · simp only [standing]
          · simp only [standing]

/-- A device keeps nothing. -/
theorem store_of_isDevice (device : tree.IsDevice path) (place : Sink) :
    tree.store path place = tree :=
  store_of_not_keepsFile (fun _ keeps => keeps.not_isDevice device) place

/-- Paths that lead elsewhere lead to what they led to before. -/
theorem look?_store {other : String} (elsewhere : tree.locate other ≠ tree.locate path)
    (place : Sink) : (tree.store path place).look? other = tree.look? other := by
  by_cases keeping : ∃ location, tree.KeepsFile path location
  · obtain ⟨location, keeps⟩ := keeping
    rw [keeps.store_eq]
    exact look?_put keeps.node?_ne_directory (keeps.found ▸ elsewhere)
  · rw [store_of_not_keepsFile (not_exists.1 keeping)]

/-- A path can be created once more just as before. -/
theorem create?_store (tree : FileTree) (path : String) (place : Sink) :
    (tree.store path place).create? path = tree.create? path := by
  by_cases keeping : ∃ location, tree.KeepsFile path location
  · obtain ⟨location, keeps⟩ := keeping
    rw [keeps.store_eq, (keeps.put _).create?_eq, keeps.create?_eq]
    rfl
  · rw [store_of_not_keepsFile (not_exists.1 keeping)]

/-- What is written last is kept, whatever was written before. -/
theorem store_store (tree : FileTree) (path : String) (first second : Sink) :
    (tree.store path first).store path second = tree.store path second := by
  by_cases keeping : ∃ location, tree.KeepsFile path location
  · obtain ⟨location, keeps⟩ := keeping
    rw [keeps.store_eq, (keeps.put _).store_eq, keeps.store_eq, put_put]
  · rw [store_of_not_keepsFile (not_exists.1 keeping)]

/-! ## Saving -/

def keep (tree : FileTree) : Option String → Option Sink → FileTree
  | some path, some place => tree.store path place
  | _, _ => tree

section Keep

variable {output : Option String}

theorem keep_none (tree : FileTree) (output : Option String) : tree.keep output none = tree := by
  cases output with
  | none => rfl
  | some path => rfl

theorem keep_of_isDevice (device : tree.IsDevice path) (place : Option Sink) :
    tree.keep (some path) place = tree := by
  cases place with
  | none => rfl
  | some sink => exact store_of_isDevice device sink

theorem look?_keep {other : String} (elsewhere : tree.locate other ≠ output.bind tree.locate)
    (place : Option Sink) : (tree.keep output place).look? other = tree.look? other :=
  match output, place with
  | none, _ => rfl
  | some _, none => rfl
  | some _, some sink => look?_store elsewhere sink

theorem KeepsFile.keep (keeps : tree.KeepsFile path location) (place : Option Sink) :
    (tree.keep (some path) place).KeepsFile path location := by
  cases place with
  | none => exact keeps
  | some sink =>
      rw [FileTree.keep, keeps.store_eq]
      exact keeps.put sink.taken

theorem bind_create?_keep (tree : FileTree) (output : Option String) (place : Option Sink) :
    output.bind (tree.keep output place).create? = output.bind tree.create? :=
  match output, place with
  | none, _ | some _, none => rfl
  | some path, some sink => tree.create?_store path sink

theorem takes_keep (tree : FileTree) (path : String) (place : Option Sink)
    {octets : List UInt8} :
    (tree.keep (some path) place).Takes path octets ↔ tree.Takes path octets := by
  have created := tree.bind_create?_keep (some path) place
  rw [Option.bind_some, Option.bind_some] at created
  rw [takes_iff, takes_iff, created]

theorem keep_keep (tree : FileTree) (output : Option String) (place : Option Sink) :
    (tree.keep output place).keep output place = tree.keep output place :=
  match output, place with
  | none, _ | some _, none => rfl
  | some path, some sink => tree.store_store path sink sink

end Keep

section Saving

variable (tree) (recorder : Recorder)

theorem save_of_ended {result : SaveResult} {after : Recorder}
    (ended : recorder.save (recorder.output.bind tree.create?) = (result, after)) :
    tree.save recorder = (result, after, tree.keep recorder.output result.place) := by
  simp only [save, ended]
  cases recorder.output with
  | none => rfl
  | some path =>
      cases result.place with
      | none => rfl
      | some sink => rfl

theorem ended_save :
    ((tree.save recorder).1, (tree.save recorder).2.1) =
      recorder.save (recorder.output.bind tree.create?) := by
  cases ended : recorder.save (recorder.output.bind tree.create?) with
  | mk result after => rw [tree.save_of_ended recorder ended]

theorem tree_save :
    (tree.save recorder).2.2 = tree.keep recorder.output (tree.save recorder).1.place := by
  cases ended : recorder.save (recorder.output.bind tree.create?) with
  | mk result after => rw [tree.save_of_ended recorder ended]

theorem saveOutcome_save :
    recorder.SaveOutcome (recorder.output.bind tree.create?) (tree.save recorder).1 := by
  have outcome := recorder.saveOutcome_save (recorder.output.bind tree.create?)
  rw [← ended_save] at outcome
  exact outcome

/-- Saving once more ends as before and leaves all files. -/
theorem save_save :
    let ended := tree.save recorder
    ended.2.2.save ended.2.1 =
      (ended.1, ended.2.1.report ended.1.messages, ended.2.2) := by
  have again := recorder.save_save (recorder.output.bind tree.create?)
  have reported := recorder.save_snd (recorder.output.bind tree.create?)
  cases ended : recorder.save (recorder.output.bind tree.create?) with
  | mk result after =>
      rw [ended] at again reported
      have output : after.output = recorder.output :=
        (congrArg Recorder.output reported).trans rfl
      have created : after.output.bind (tree.keep recorder.output result.place).create? =
          recorder.output.bind tree.create? := by
        rw [output, bind_create?_keep]
      rw [tree.save_of_ended recorder ended]
      calc
        (tree.keep recorder.output result.place).save after
          = (result, after.report result.messages,
              (tree.keep recorder.output result.place).keep after.output result.place) :=
            save_of_ended _ _ (created ▸ again)
        _ = (result, after.report result.messages, tree.keep recorder.output result.place) := by
            rw [output, keep_keep]

variable {tree recorder}

theorem fault_save_eq_none_iff (output : recorder.output = some path) :
    (tree.save recorder).1.fault = none ↔ tree.Takes path recorder.symbolFile := by
  have outcome := tree.saveOutcome_save recorder
  rw [output, Option.bind_some] at outcome
  rw [outcome.fault_eq_none_iff output, takes_iff]

/-- However saving ends, nothing but the beginning of the text has been written. -/
theorem isPrefix_taken_save {place : Sink} (output : recorder.output = some path)
    (placed : (tree.save recorder).1.place = some place) :
    place.taken <+: recorder.symbolFile := by
  have outcome := tree.saveOutcome_save recorder
  rw [output, Option.bind_some] at outcome
  generalize created : tree.create? path = start at outcome
  generalize (tree.save recorder).1 = result at outcome placed
  cases outcome with
  | unasked _ _ => cases placed
  | uncreated _ => cases placed
  | unwritten _ _ taken =>
      cases placed
      rw [taken, taken_of_create? created, List.nil_append]
      exact Sink.isPrefix_share _ _
  | written _ _ _ taken =>
      cases placed
      rw [taken_of_create? created, List.nil_append] at taken
      exact taken ▸ List.prefix_rfl

/-- What has been written into a created file is all that the file holds. -/
theorem content?_save_of_place {place : Sink} (output : recorder.output = some path)
    (keeps : tree.KeepsFile path location) (placed : (tree.save recorder).1.place = some place) :
    (tree.save recorder).2.2.content? path = some place.taken := by
  rw [tree_save, output, placed, keep, keeps.store_eq]
  exact keeps.content?_put place.taken

theorem exists_keepsFile_of_place {place : Sink} (output : recorder.output = some path)
    (placed : (tree.save recorder).1.place = some place) (other : ¬tree.IsDevice path) :
    ∃ location, tree.KeepsFile path location := by
  have outcome := tree.saveOutcome_save recorder
  rw [output, Option.bind_some] at outcome
  obtain ⟨sink, created⟩ := outcome.exists_sink placed
  exact exists_keepsFile created other

theorem exists_place_of_saved (output : recorder.output = some path)
    (fine : (tree.save recorder).1.fault = none) :
    ∃ place, (tree.save recorder).1.place = some place ∧ place.taken = recorder.symbolFile := by
  have outcome := tree.saveOutcome_save recorder
  rw [output, Option.bind_some] at outcome
  generalize created : tree.create? path = place at outcome
  generalize (tree.save recorder).1 = result at outcome fine ⊢
  cases outcome with
  | unasked _ absent =>
      rw [output] at absent
      cases absent
  | uncreated _ => cases fine
  | unwritten _ _ _ => cases fine
  | @written _ _ after _ _ _ taken =>
      refine ⟨after, rfl, ?_⟩
      rw [taken, taken_of_create? created, List.nil_append]

theorem content?_save (output : recorder.output = some path)
    (keeps : tree.KeepsFile path location) (fine : (tree.save recorder).1.fault = none) :
    (tree.save recorder).2.2.content? path = some recorder.symbolFile := by
  obtain ⟨place, placed, taken⟩ := exists_place_of_saved output fine
  rw [content?_save_of_place output keeps placed, taken]

/-- A recording whose text is taken is saved without fault.  Its output path then holds the text,
and other paths lead to what they led to before. -/
theorem save_of_takes (output : recorder.output = some path)
    (takes : tree.Takes path (Text.encode (SymbolFile.text recorder.entries))) :
    (tree.save recorder).1.fault = none ∧
      (tree.IsDevice path → (tree.save recorder).2.2 = tree) ∧
      (¬tree.IsDevice path → (tree.save recorder).2.2.content? path =
        some (Text.encode (SymbolFile.text recorder.entries))) ∧
      ∀ other, tree.locate other ≠ tree.locate path →
        (tree.save recorder).2.2.look? other = tree.look? other := by
  refine ⟨(fault_save_eq_none_iff output).2 takes, ?_, ?_, ?_⟩
  · intro device
    rw [tree_save, output]
    exact keep_of_isDevice device _
  · intro other
    obtain ⟨location, keeps⟩ := takes.exists_keepsFile other
    exact content?_save output keeps ((fault_save_eq_none_iff output).2 takes)
  · intro other elsewhere
    rw [tree_save, output]
    exact look?_keep elsewhere _

/-- A recording whose text is not taken is not saved. -/
theorem save_of_not_takes (output : recorder.output = some path)
    (refused : ¬tree.Takes path (Text.encode (SymbolFile.text recorder.entries))) :
    (tree.save recorder).1.fault ≠ none :=
  fun fine => refused ((fault_save_eq_none_iff output).1 fine)

end Saving

/-- Saving leaves a recorder as it is, apart from the one report of why it failed.  It succeeds just
when a file can be created at the output path, has room for the text and can be flushed.  Unless a
device stands there, the path then holds the symbols of what has been recorded, or the beginning of
them if not everything could be written, whatever was there before.  Saving once more leaves that
file, and saving after more has been recorded replaces it. -/
theorem save_exports (recorder : Recorder) :
    (∀ place,
      let ended := recorder.save place
      recorder.SaveOutcome place ended.1 ∧
        ended.2 = { recorder with
          messages := recorder.messages ++
            (ended.1.fault.toList.map fun fault => ⟨.error, fault.text⟩) }) ∧
      ∀ tree : FileTree,
        let result := (tree.save recorder).1
        let after := (tree.save recorder).2.1
        let saved := (tree.save recorder).2.2
        (result, after) = recorder.save (recorder.output.bind tree.create?) ∧
          (result.place = none → saved = tree) ∧
          (∀ other, tree.locate other ≠ recorder.output.bind tree.locate →
            saved.look? other = tree.look? other) ∧
          ((saved.save after).1 = result ∧ (saved.save after).2.2 = saved) ∧
          ∀ path, recorder.output = some path →
            (result.fault = none ↔ tree.Takes path recorder.symbolFile) ∧
              (¬tree.IsDevice path →
                (∀ place, result.place = some place →
                  saved.content? path = some place.taken ∧
                    place.taken <+: recorder.symbolFile) ∧
                (result.fault = none → saved.content? path = some recorder.symbolFile) ∧
                ∀ events, (after.run events).output = some path →
                  let again := saved.save (after.run events)
                  (again.1.fault = none ↔ tree.Takes path (after.run events).symbolFile) ∧
                    (again.1.fault = none →
                      again.2.2.content? path = some (after.run events).symbolFile)) := by
  refine ⟨fun place => ⟨recorder.saveOutcome_save place, recorder.save_snd place⟩, ?_⟩
  intro tree result after saved
  have stored : saved = tree.keep recorder.output result.place := tree.tree_save recorder
  refine ⟨?_, ?_, ?_, ?_, ?_⟩
  · exact tree.ended_save recorder
  · intro unplaced
    rw [stored, unplaced, keep_none]
  · intro other elsewhere
    rw [stored]
    exact look?_keep elsewhere result.place
  · have again : saved.save after = (result, after.report result.messages, saved) :=
      tree.save_save recorder
    rw [again]
    exact ⟨rfl, rfl⟩
  · intro path output
    refine ⟨fault_save_eq_none_iff output, fun other => ⟨?_, ?_, ?_⟩⟩
    · intro place placed
      obtain ⟨location, keeps⟩ := exists_keepsFile_of_place output placed other
      exact ⟨content?_save_of_place output keeps placed, isPrefix_taken_save output placed⟩
    · intro fine
      obtain ⟨location, keeps⟩ := ((fault_save_eq_none_iff output).1 fine).exists_keepsFile other
      exact content?_save output keeps fine
    · intro events same again
      rw [output] at stored
      have takes : again.1.fault = none ↔ tree.Takes path (after.run events).symbolFile := by
        rw [fault_save_eq_none_iff same, stored, takes_keep]
      refine ⟨takes, fun fine => ?_⟩
      obtain ⟨location, keeps⟩ := (takes.1 fine).exists_keepsFile other
      exact content?_save same (stored ▸ keeps.keep result.place) fine

/-- A device takes a whole file without fault and holds nothing of it. -/
theorem device_discards_save :
    let recorder := ({} : Recorder).run [.setOutput (some "n"), .addLabel {} 16 "a"]
    let tree : FileTree := { nodes := [([], .directory), (["n"], .device none)] }
    recorder.output = some "n" ∧ (tree.save recorder).1.fault = none ∧
      (tree.save recorder).2.2.content? "n" ≠ some recorder.symbolFile := by
  intro recorder tree
  have located : tree.locate "n" = some ["n"] := by decide
  have looked : tree.look? "n" = some (.device none) := by
    rw [look?, located]
    rfl
  have output : recorder.output = some "n" := rfl
  have created : tree.create? "n" = some {} := by
    rw [create?, located]
    rfl
  have takes : tree.Takes "n" recorder.symbolFile :=
    takes_iff.2 ⟨{}, created, Sink.fits_of_room_none rfl _, rfl⟩
  obtain ⟨fine, kept, _⟩ := save_of_takes output takes
  have empty : tree.content? "n" = some [] := by
    rw [content?, looked]
    rfl
  refine ⟨output, fine, ?_⟩
  rw [kept ⟨none, looked⟩, empty]
  intro same
  exact SymbolFile.encode_text_ne_nil _ (Option.some.inj same).symm

end FileTree

end DebugSymbols
