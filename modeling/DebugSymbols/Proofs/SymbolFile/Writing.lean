import DebugSymbols.SymbolFile.Text
/-!
# Writing a symbol file

A sink takes the beginning of what is written to it, as much as it has room for,
and says whether that was everything.  A file is therefore written completely
just when its whole text fits and the sink can be flushed.
-/

namespace DebugSymbols

namespace Sink

variable {sink : Sink}

def Fits (sink : Sink) (octets : List UInt8) : Prop :=
  ∀ room, sink.room = some room → octets.length ≤ room

theorem fits_of_room_none (unbounded : sink.room = none) (octets : List UInt8) :
    sink.Fits octets := by
  intro room same
  rw [unbounded] at same
  cases same

/-- The beginning of some octets that the sink has room for. -/
def share (sink : Sink) (octets : List UInt8) : List UInt8 :=
  match sink.room with
  | none => octets
  | some room => octets.take room

theorem share_of_fits {octets : List UInt8} (fits : sink.Fits octets) :
    sink.share octets = octets := by
  cases limit : sink.room with
  | none => simp only [share, limit]
  | some room => simp only [share, limit, List.take_of_length_le (fits room limit)]

theorem isPrefix_share (sink : Sink) (octets : List UInt8) : sink.share octets <+: octets := by
  cases limit : sink.room with
  | none => simp only [share, limit, List.prefix_refl]
  | some room => simp only [share, limit, List.take_prefix]

section Step

variable {octets more : List UInt8}

theorem room_write (sink : Sink) (octets : List UInt8) :
    (sink.write octets).2.room = sink.room.map (· - octets.length) := by
  cases limit : sink.room with
  | none => simp [write, limit]
  | some room => simp [write, limit]

theorem flushes_write (sink : Sink) (octets : List UInt8) :
    (sink.write octets).2.flushes = sink.flushes := by
  unfold write
  split
  · rfl
  · rfl

theorem write_fst_iff : (sink.write octets).1 = true ↔ sink.Fits octets := by
  cases limit : sink.room with
  | none => simp [write, Fits, limit]
  | some room => simp [write, Fits, limit]

theorem taken_write (sink : Sink) (octets : List UInt8) :
    (sink.write octets).2.taken = sink.taken ++ sink.share octets := by
  cases limit : sink.room with
  | none => rw [taken_write_of_room_none limit, share, limit]
  | some room => rw [taken_write_of_room limit, share, limit]

/-- Octets behind others fit if there is room for them once the others are written. -/
theorem fits_append_iff :
    sink.Fits (octets ++ more) ↔ sink.Fits octets ∧ (sink.write octets).2.Fits more := by
  cases limit : sink.room with
  | none => simp [Fits, room_write, limit]
  | some room =>
      simp only [Fits, room_write, limit, Option.map_some, Option.some.injEq, forall_eq',
        List.length_append]
      omega

theorem share_append_of_fits (fits : sink.Fits octets) :
    sink.share (octets ++ more) = octets ++ (sink.write octets).2.share more := by
  cases limit : sink.room with
  | none => simp only [share, room_write, limit, Option.map_none]
  | some room =>
      simp only [share, room_write, limit, Option.map_some, List.take_append,
        List.take_of_length_le (fits room limit)]

/-- What does not fit leaves no room for more. -/
theorem share_append_of_not_fits (excess : ¬sink.Fits octets) :
    sink.share (octets ++ more) = sink.share octets := by
  cases limit : sink.room with
  | none => exact absurd (fits_of_room_none limit _) excess
  | some room =>
      have short : room ≤ octets.length := by
        simp only [Fits, limit, Option.some.injEq, forall_eq'] at excess
        omega
      simp only [share, limit, List.take_append_of_le_length short]

end Step

/-- A sink takes its share of what is written, in however many pieces that comes, and says whether
this was all. -/
theorem writeAll_spec (sink : Sink) (octets : List (List UInt8)) :
    ((sink.writeAll octets).1 = true ↔ sink.Fits octets.flatten) ∧
      (sink.writeAll octets).2.flushes = sink.flushes ∧
      (sink.writeAll octets).2.taken = sink.taken ++ sink.share octets.flatten := by
  induction octets generalizing sink with
  | nil =>
      have fits : sink.Fits [] := fun room _ => Nat.zero_le room
      rw [List.flatten_nil, share_of_fits fits, List.append_nil]
      exact ⟨iff_of_true rfl fits, rfl, rfl⟩
  | cons piece rest ih =>
      have flushes := sink.flushes_write piece
      have taken := sink.taken_write piece
      have fits_iff : (sink.write piece).1 = true ↔ sink.Fits piece := write_fst_iff
      rw [writeAll, List.flatten_cons, fits_append_iff]
      split
      case h_1 next written =>
        rw [written] at flushes taken fits_iff
        have fits := fits_iff.1 rfl
        obtain ⟨all_iff, flushesRest, takenRest⟩ := ih next
        rw [share_append_of_fits fits, written]
        refine ⟨all_iff.trans (and_iff_right fits).symm, flushesRest.trans flushes, ?_⟩
        rw [takenRest, taken, share_of_fits fits, List.append_assoc]
      case h_2 next failed =>
        rw [failed] at flushes taken fits_iff
        have excess : ¬sink.Fits piece := fun fits => Bool.false_ne_true (fits_iff.2 fits)
        rw [share_append_of_not_fits excess]
        exact ⟨by simp [excess], flushes, taken⟩

end Sink

theorem Text.encode_join (texts : List String) :
    encode (String.join texts) = (texts.map encode).flatten := by
  rw [encode, String.toList_join, List.flatMap_assoc, List.flatMap_def]
  rfl

namespace SymbolFile

theorem encode_text (entries : List Entry) :
    Text.encode (text entries) = ((pieces entries).map Text.encode).flatten :=
  Text.encode_join (pieces entries)

/-- A file is never empty. -/
theorem encode_text_ne_nil (entries : List Entry) : Text.encode (text entries) ≠ [] := by
  have opening : Text.encode header ≠ [] := by decide
  rw [encode_text, pieces, List.cons_append, List.map_cons, List.flatten_cons]
  exact List.append_ne_nil_of_left_ne_nil opening _

/-- A sink takes its share of a file.  The file is written if this is all of it and the sink can be
flushed. -/
theorem writeTo_spec (sink : Sink) (entries : List Entry) :
    ((writeTo sink entries).1 = true ↔
        sink.Fits (Text.encode (text entries)) ∧ sink.flushes = true) ∧
      (writeTo sink entries).2.taken = sink.taken ++ sink.share (Text.encode (text entries)) := by
  rw [encode_text]
  obtain ⟨fits_iff, flushes, taken⟩ := sink.writeAll_spec ((pieces entries).map Text.encode)
  rw [writeTo]
  split
  case h_1 after ended =>
    rw [ended] at fits_iff flushes taken
    exact ⟨by simp [fits_iff.1 rfl, ← flushes], taken⟩
  case h_2 after ended =>
    rw [ended] at fits_iff taken
    exact ⟨by simp [← fits_iff], taken⟩

theorem writeTo_of_fits {sink : Sink} {entries : List Entry}
    (fits : sink.Fits (Text.encode (text entries))) :
    (writeTo sink entries).1 = sink.flushes ∧
      (writeTo sink entries).2.taken = sink.taken ++ Text.encode (text entries) := by
  obtain ⟨written_iff, taken⟩ := writeTo_spec sink entries
  rw [Sink.share_of_fits fits] at taken
  exact ⟨Bool.eq_iff_iff.2 (written_iff.trans (and_iff_right fits)), taken⟩

/-- A new sink has taken the text of the file, and says that this went well. -/
theorem writeTo_new (entries : List Entry) :
    (writeTo {} entries).1 = true ∧
      (writeTo {} entries).2.taken = Text.encode (text entries) :=
  writeTo_of_fits nofun

/-- A sink that can be flushed and has room for so many octets takes exactly that many from the
beginning of the file, or all of it if it is shorter, and the file is written just if it is not
longer.  A sink without a limit takes the whole file. -/
theorem writeTo_limited (entries : List Entry) (limit : Nat) :
    let whole := Text.encode (text entries)
    let sink : Sink := { room := some limit }
    (writeTo {} entries).1 = true ∧ (writeTo {} entries).2.taken = whole ∧
      (writeTo sink entries).2.taken = whole.take (min limit whole.length) ∧
      ((writeTo sink entries).1 = true ↔ whole.length ≤ limit) := by
  intro whole sink
  obtain ⟨ended, complete⟩ := writeTo_new entries
  obtain ⟨written_iff, accepted⟩ := writeTo_spec sink entries
  refine ⟨ended, complete, ?_, ?_⟩
  · rw [accepted, ← List.take_eq_take_min]
    rfl
  · rw [written_iff]
    simp [sink, whole, Sink.Fits]

end SymbolFile

end DebugSymbols
