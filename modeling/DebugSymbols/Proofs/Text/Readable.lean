import DebugSymbols.Text.Stream
import Mathlib.Data.List.ReduceOption
import Mathlib.Data.List.TakeWhile
/-!
# Lines that can be read

The lines of a stream are what stands between its newlines.  They are read in
order until one is no text, or until the octets end where more were to come.
-/

namespace DebugSymbols.Text.Stream

/-- What stands between newlines, without the carriage return before them, and what stands behind
the last one unless nothing does or it cannot be had. -/
def parts (stream : Stream) : List (List UInt8) :=
  let pieces := stream.octets.splitOn newline
  let rest := pieces.getLast?.getD []
  pieces.dropLast.map trimReturn ++ if stream.broken || rest.isEmpty then [] else [rest]

def readable (stream : Stream) : List String :=
  ((stream.parts.map decode?).takeWhile Option.isSome).reduceOption

variable {broken : Bool} {line rest : List UInt8}

theorem parts_append_newline (unbroken : newline ∉ line) :
    parts ⟨line ++ newline :: rest, broken⟩ = trimReturn line :: parts ⟨rest, broken⟩ := by
  have split := List.splitOn_append_cons_self_of_not_mem unbroken rest
  have nonempty : rest.splitOn newline ≠ [] := List.splitOnP_ne_nil _ rest
  simp only [parts]
  rw [split, List.dropLast_cons_of_ne_nil nonempty, List.getLast?_cons_of_ne_nil nonempty,
    List.map_cons, List.cons_append]

theorem parts_of_not_mem (unbroken : newline ∉ rest) :
    parts ⟨rest, broken⟩ = if broken || rest.isEmpty then [] else [rest] := by
  simp only [parts]
  rw [List.splitOn_eq_singleton unbroken]
  rfl

/-- A line that can be read is followed by the lines behind it. -/
theorem readable_append_newline (unbroken : newline ∉ line) :
    readable ⟨line ++ newline :: rest, broken⟩ =
      match decode? (trimReturn line) with
      | some text => text :: readable ⟨rest, broken⟩
      | none => [] := by
  rw [readable, parts_append_newline unbroken, List.map_cons, List.takeWhile_cons]
  cases decode? (trimReturn line) with
  | none => rfl
  | some text => exact List.reduceOption_cons_of_some text _

theorem readable_of_not_mem (unbroken : newline ∉ rest) :
    readable ⟨rest, broken⟩ = if broken || rest.isEmpty then [] else (decode? rest).toList := by
  rw [readable, parts_of_not_mem unbroken]
  split
  · rfl
  · cases decoded : decode? rest with
    | none => rw [List.map_singleton, decoded]; rfl
    | some text => rw [List.map_singleton, decoded]; rfl

theorem newline_not_mem_takeWhile (octets : List UInt8) :
    newline ∉ octets.takeWhile (· ≠ newline) := by
  intro member
  have other := List.mem_takeWhile_imp member
  exact of_decide_eq_true other rfl

/-- The octets around the first newline. -/
theorem eq_append_newline {octets behind : List UInt8} {octet : UInt8}
    (found : octets.dropWhile (· ≠ newline) = octet :: behind) :
    octets = octets.takeWhile (· ≠ newline) ++ newline :: behind := by
  have stopped := List.head?_dropWhile_not (fun octet => decide (octet ≠ newline)) octets
  rw [found] at stopped
  have here : octet = newline := by simpa using stopped
  calc
    octets = octets.takeWhile (· ≠ newline) ++ octets.dropWhile (· ≠ newline) :=
      List.takeWhile_append_dropWhile.symm
    _ = octets.takeWhile (· ≠ newline) ++ newline :: behind := by rw [found, here]

theorem newline_not_mem_of_dropWhile {octets : List UInt8}
    (found : octets.dropWhile (· ≠ newline) = []) : newline ∉ octets := by
  intro member
  have other := List.dropWhile_eq_nil_iff.1 found newline member
  exact of_decide_eq_true other rfl

/-- Lines that are read one by one are those that can be read, up to the first that cannot. -/
theorem reduceOption_linesOf (broken : Bool) (octets : List UInt8) :
    ((linesOf broken octets).takeWhile Option.isSome).reduceOption = readable ⟨octets, broken⟩ := by
  fun_induction linesOf broken octets with
  | case1 octets octet behind found line read ih =>
      rw [eq_append_newline found, readable_append_newline (newline_not_mem_takeWhile octets), read,
        ← ih]
      exact List.reduceOption_cons_of_some line _
  | case2 octets octet behind found read =>
      rw [eq_append_newline found, readable_append_newline (newline_not_mem_takeWhile octets), read]
      rfl
  | case3 octets found ended =>
      rw [readable_of_not_mem (newline_not_mem_of_dropWhile found), ended]
      rfl
  | case4 octets found whole empty =>
      rw [readable_of_not_mem (newline_not_mem_of_dropWhile found), empty, Bool.or_true]
      rfl
  | case5 octets found whole nonempty =>
      rw [readable_of_not_mem (newline_not_mem_of_dropWhile found), Bool.eq_false_iff.2 whole,
        Bool.eq_false_iff.2 nonempty]
      cases decode? octets with
      | none => rfl
      | some text => rfl

theorem readable_eq (stream : Stream) :
    stream.readable = (stream.lines.takeWhile Option.isSome).reduceOption :=
  (reduceOption_linesOf stream.broken stream.octets).symm

end DebugSymbols.Text.Stream
