import DebugSymbols.Proofs.Recorder.Operations
import DebugSymbols.Proofs.SymbolFile.Writing
/-!
# How saving may end

Saving ends in one of four ways.  It was not asked for, there was no place to
write to, the place did not take everything, or it did.  A fault is reported
once, and the recorder stays as it was otherwise, so that the same is saved when
saving is asked for once more.
-/

namespace DebugSymbols

namespace Recorder

def symbolFile (recorder : Recorder) : List UInt8 :=
  Text.encode (SymbolFile.text recorder.entries)

/-- How saving ends with the place that creating the output path gives.  A place takes all of the
file or the beginning that it has room for. -/
inductive SaveOutcome (recorder : Recorder) : Option Sink → SaveResult → Prop
  | unasked (place : Option Sink) (output : recorder.output = none) :
      SaveOutcome recorder place ⟨none, none⟩
  | uncreated {path : String} (output : recorder.output = some path) :
      SaveOutcome recorder none ⟨some (.create path), none⟩
  | unwritten {path : String} {sink after : Sink} (output : recorder.output = some path)
      (lost : ¬(sink.Fits recorder.symbolFile ∧ sink.flushes = true))
      (taken : after.taken = sink.taken ++ sink.share recorder.symbolFile) :
      SaveOutcome recorder (some sink) ⟨some (.write path), some after⟩
  | written {path : String} {sink after : Sink} (output : recorder.output = some path)
      (fits : sink.Fits recorder.symbolFile) (flushes : sink.flushes = true)
      (taken : after.taken = sink.taken ++ recorder.symbolFile) :
      SaveOutcome recorder (some sink) ⟨none, some after⟩

theorem SaveOutcome.fault_eq_none_iff {recorder : Recorder} {place : Option Sink}
    {result : SaveResult} {path : String}
    (outcome : recorder.SaveOutcome place result) (output : recorder.output = some path) :
    result.fault = none ↔
      ∃ sink, place = some sink ∧ sink.Fits recorder.symbolFile ∧ sink.flushes = true := by
  cases outcome with
  | unasked _ absent =>
      rw [output] at absent
      cases absent
  | uncreated _ => simp
  | unwritten _ lost _ => simpa using lost
  | written _ fits flushes _ => exact iff_of_true rfl ⟨_, rfl, fits, flushes⟩

theorem SaveOutcome.exists_sink {recorder : Recorder} {place : Option Sink} {result : SaveResult}
    {after : Sink} (outcome : recorder.SaveOutcome place result)
    (placed : result.place = some after) : ∃ sink, place = some sink := by
  cases outcome with
  | unasked _ _ => cases placed
  | uncreated _ => cases placed
  | unwritten _ _ _ => exact ⟨_, rfl⟩
  | written _ _ _ _ => exact ⟨_, rfl⟩

variable (recorder : Recorder)

theorem saveOutcome_save (place : Option Sink) :
    recorder.SaveOutcome place (recorder.save place).1 := by
  unfold save
  split
  case h_1 output => exact .unasked _ output
  case h_2 path output => exact .uncreated output
  case h_3 path sink output =>
    obtain ⟨written_iff, taken⟩ := SymbolFile.writeTo_spec sink recorder.entries
    split
    case h_1 after ended =>
      rw [ended] at written_iff taken
      obtain ⟨fits, flushes⟩ := written_iff.1 rfl
      rw [Sink.share_of_fits fits] at taken
      exact .written output fits flushes taken
    case h_2 after ended =>
      rw [ended] at written_iff taken
      exact .unwritten output (fun fine => Bool.false_ne_true (written_iff.2 fine)) taken

/-- What is saved does not depend on what was reported. -/
theorem save_report (messages : List Message) (place : Option Sink) :
    ((recorder.report messages).save place).1 = (recorder.save place).1 := by
  have entries : (recorder.report messages).entries = recorder.entries := rfl
  have output : (recorder.report messages).output = recorder.output := rfl
  simp only [save, entries, output]
  split
  · rfl
  · rfl
  · split
    · rfl
    · rfl

/-- Saving into the same place once more ends as before. -/
theorem save_save (place : Option Sink) :
    let ended := recorder.save place
    ended.2.save place = (ended.1, ended.2.report ended.1.messages) := by
  intro ended
  have same : (ended.2.save place).1 = ended.1 := by
    have reported := recorder.save_report ended.1.messages place
    rw [← save_snd] at reported
    exact reported
  calc
    ended.2.save place = (ended.1, (ended.2.save place).2) := Prod.ext same rfl
    _ = (ended.1, ended.2.report ended.1.messages) := by rw [save_snd, same]

end Recorder

end DebugSymbols
