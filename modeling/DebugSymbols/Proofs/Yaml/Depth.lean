import DebugSymbols.Yaml.Node
/-!
# How deep the readers go

A reader takes a token before it calls another reader, or calls one that does.
Fuel for four calls a token is therefore enough, and more makes no difference.
-/

namespace DebugSymbols.Yaml.Node

section Agree

variable {α β : Type} {limit bound : Nat} {first second : Option (α × List Token)}

/-- Two answers of a reader are the same, and leave at most so many tokens. -/
def Agree (limit : Nat) (first second : Option (α × List Token)) : Prop :=
  first = second ∧ ∀ value rest, first = some (value, rest) → rest.length ≤ limit

/-- What is read first stands before what is read behind it. -/
def followed (make : α → β) (first : Option (α × List Token))
    (more : List Token → Option (List β × List Token)) : Option (List β × List Token) :=
  first.bind fun (value, rest) =>
    (more rest).bind fun (values, rest) => some (make value :: values, rest)

namespace Agree

theorem none : Agree limit (none : Option (α × List Token)) none :=
  ⟨rfl, nofun⟩

theorem some {value : α} {rest : List Token} (fits : rest.length ≤ limit) :
    Agree limit (some (value, rest)) (some (value, rest)) := by
  refine ⟨rfl, fun _ _ same => ?_⟩
  cases same
  exact fits

theorem mono (agree : Agree bound first second) (fits : bound ≤ limit) :
    Agree limit first second :=
  ⟨agree.1, fun value rest same => Nat.le_trans (agree.2 value rest same) fits⟩

theorem bind {more further : α × List Token → Option (β × List Token)}
    (agree : Agree bound first second)
    (later : ∀ value rest, rest.length ≤ bound →
      Agree limit (more (value, rest)) (further (value, rest))) :
    Agree limit (first.bind more) (second.bind further) := by
  obtain ⟨same, left⟩ := agree
  rw [← same]
  cases first with
  | none => exact none
  | some read => exact later read.1 read.2 (left read.1 read.2 rfl)

theorem followed (make : α → β) {more further : List Token → Option (List β × List Token)}
    (agree : Agree bound first second)
    (later : ∀ rest, rest.length ≤ bound → Agree limit (more rest) (further rest)) :
    Agree limit (Node.followed make first more) (Node.followed make second further) :=
  agree.bind fun _ rest fewer => (later rest fewer).bind fun _ _ least => some least

end Agree

end Agree

/-- Readers with fuel for some tokens answer as with more, and take what they have to. -/
structure Settled (fuel : Nat) : Prop where
  node : ∀ inBlock indentless tokens, 4 * tokens.length + 1 < fuel →
    Agree (tokens.length - 1) (read? fuel inBlock indentless tokens)
      (read? (fuel + 1) inBlock indentless tokens)
  guarded : ∀ stops inBlock indentless tokens, 4 * tokens.length + 2 < fuel →
    Agree tokens.length (readUnless? fuel stops inBlock indentless tokens)
      (readUnless? (fuel + 1) stops inBlock indentless tokens)
  blockItems : ∀ tokens, 4 * tokens.length < fuel →
    Agree tokens.length (readBlockItems? fuel tokens) (readBlockItems? (fuel + 1) tokens)
  indentless : ∀ tokens, 4 * tokens.length < fuel →
    Agree (if tokens.head? = some .blockEntry then tokens.length - 1 else tokens.length)
      (readIndentless? fuel tokens) (readIndentless? (fuel + 1) tokens)
  blockEntries : ∀ tokens, 4 * tokens.length < fuel →
    Agree tokens.length (readBlockEntries? fuel tokens) (readBlockEntries? (fuel + 1) tokens)
  value : ∀ stops inBlock tokens, 4 * tokens.length < fuel →
    Agree tokens.length (readValue? fuel stops inBlock tokens)
      (readValue? (fuel + 1) stops inBlock tokens)
  flowItems : ∀ isFirst tokens, 4 * tokens.length + 2 < fuel →
    Agree tokens.length (readFlowItems? fuel isFirst tokens)
      (readFlowItems? (fuel + 1) isFirst tokens)
  pair : ∀ tokens, 4 * tokens.length + 2 < fuel →
    Agree tokens.length (readPair? fuel tokens) (readPair? (fuel + 1) tokens)
  flowEntries : ∀ isFirst tokens, 4 * tokens.length + 2 < fuel →
    Agree tokens.length (readFlowEntries? fuel isFirst tokens)
      (readFlowEntries? (fuel + 1) isFirst tokens)

/-! ## Inside brackets -/

section Brackets

variable {α : Type}

/-- Reads what stands in brackets up to where they close, behind a comma unless it comes first. -/
def bracketed (closing : Token) (from? : List Token → Option (List α × List Token))
    (isFirst : Bool) (tokens : List Token) : Option (List α × List Token) :=
  if tokens.head? = some closing then some ([], tokens.tail)
  else (behindComma? isFirst tokens).bind from?

theorem length_behindComma? {isFirst : Bool} {tokens rest : List Token}
    (behind : behindComma? isFirst tokens = some rest) : rest.length ≤ tokens.length := by
  rw [behindComma?.eq_def] at behind
  split at behind
  · cases behind
    exact Nat.le_refl _
  · cases behind
    exact Nat.le_succ _
  · cases behind

theorem Agree.bracketed (closing : Token) (isFirst : Bool) {tokens : List Token}
    {from? further? : List Token → Option (List α × List Token)}
    (later : ∀ rest, rest.length ≤ tokens.length →
      Agree tokens.length (from? rest) (further? rest)) :
    Agree tokens.length (Node.bracketed closing from? isFirst tokens)
      (Node.bracketed closing further? isFirst tokens) := by
  rw [Node.bracketed, Node.bracketed]
  split
  · exact .some (by simp)
  · cases behind : behindComma? isFirst tokens with
    | none => exact .none
    | some rest => exact later rest (length_behindComma? behind)

end Brackets

def itemsFrom? (fuel : Nat) : List Token → Option (List Node × List Token)
  | .flowSequenceEnd :: rest => some ([], rest)
  | .key :: rest =>
      followed (fun pair => .mapping [pair]) (readPair? fuel rest) (readFlowItems? fuel false)
  | tokens => followed id (read? fuel false false tokens) (readFlowItems? fuel false)

def entriesFrom? (fuel : Nat) : List Token → Option (List (Node × Node) × List Token)
  | .flowMappingEnd :: rest => some ([], rest)
  | .key :: rest =>
      (readUnless? fuel [.value, .flowEntry, .flowMappingEnd] false false rest).bind
        fun (key, rest) =>
          followed (key, ·) (readValue? fuel [.flowEntry, .flowMappingEnd] false rest)
            (readFlowEntries? fuel false)
  | tokens => followed (·, absent) (read? fuel false false tokens) (readFlowEntries? fuel false)

theorem bracketed_succ (fuel : Nat) (isFirst : Bool) (tokens : List Token) :
    readFlowItems? (fuel + 1) isFirst tokens =
        bracketed .flowSequenceEnd (itemsFrom? fuel) isFirst tokens ∧
      readFlowEntries? (fuel + 1) isFirst tokens =
        bracketed .flowMappingEnd (entriesFrom? fuel) isFirst tokens := by
  obtain _ | ⟨token, tokens⟩ := tokens
  · cases isFirst
    all_goals exact ⟨rfl, rfl⟩
  · cases isFirst
    case true =>
        cases token
        all_goals exact ⟨rfl, rfl⟩
    case false =>
        cases token
        case flowEntry =>
            obtain _ | ⟨token, tokens⟩ := tokens
            · exact ⟨rfl, rfl⟩
            · cases token
              all_goals exact ⟨rfl, rfl⟩
        all_goals exact ⟨rfl, rfl⟩

/-! ## One more call -/

namespace Settled

variable {fuel : Nat} (settled : Settled fuel) {tokens : List Token}
include settled

theorem node_succ {inBlock indentless : Bool} (enough : 4 * tokens.length < fuel) :
    Agree (tokens.length - 1) (read? (fuel + 1) inBlock indentless tokens)
      (read? (fuel + 2) inBlock indentless tokens) := by
  obtain _ | ⟨token, tokens⟩ := tokens
  · exact .none
  · rw [List.length_cons] at enough
    rw [List.length_cons, Nat.add_sub_cancel]
    cases token
    case scalar plain text => exact .some (Nat.le_refl _)
    case flowSequenceStart =>
        exact (settled.flowItems true tokens (by omega)).bind fun items rest fewer => .some fewer
    case flowMappingStart =>
        exact (settled.flowEntries true tokens (by omega)).bind fun entries rest fewer =>
          .some fewer
    case blockSequenceStart =>
        cases inBlock
        · exact .none
        · exact (settled.blockItems tokens (by omega)).bind fun items rest fewer => .some fewer
    case blockMappingStart =>
        cases inBlock
        · exact .none
        · exact (settled.blockEntries tokens (by omega)).bind fun entries rest fewer => .some fewer
    case blockEntry =>
        cases indentless
        · exact .none
        · exact (settled.indentless (.blockEntry :: tokens) enough).bind fun items rest fewer =>
            .some fewer
    all_goals exact .none

theorem guarded_succ {stops : List Token} {inBlock indentless : Bool}
    (enough : 4 * tokens.length + 1 < fuel) :
    Agree tokens.length (readUnless? (fuel + 1) stops inBlock indentless tokens)
      (readUnless? (fuel + 2) stops inBlock indentless tokens) := by
  rw [readUnless?, readUnless?]
  split
  · exact .some (Nat.le_refl _)
  · exact (settled.node inBlock indentless tokens enough).mono (Nat.sub_le _ _)

theorem blockItems_succ (enough : 4 * tokens.length < fuel + 1) :
    Agree tokens.length (readBlockItems? (fuel + 1) tokens)
      (readBlockItems? (fuel + 2) tokens) := by
  obtain _ | ⟨token, tokens⟩ := tokens
  · exact .none
  · rw [List.length_cons] at enough ⊢
    cases token
    case blockEntry =>
        refine (settled.guarded _ true false tokens (by omega)).bind fun item behind fewer => ?_
        refine (settled.blockItems behind (by omega)).bind fun items last shorter => ?_
        exact .some (by omega)
    case blockEnd => exact .some (Nat.le_succ _)
    all_goals exact .none

theorem indentless_succ (enough : 4 * tokens.length < fuel + 1) :
    Agree (if tokens.head? = some .blockEntry then tokens.length - 1 else tokens.length)
      (readIndentless? (fuel + 1) tokens) (readIndentless? (fuel + 2) tokens) := by
  obtain _ | ⟨token, tokens⟩ := tokens
  · exact .some (Nat.le_refl _)
  · rw [List.length_cons] at enough
    cases token
    case blockEntry =>
        rw [List.head?_cons, if_pos rfl, List.length_cons, Nat.add_sub_cancel]
        refine (settled.guarded _ true false tokens (by omega)).bind fun item behind fewer => ?_
        refine (settled.indentless behind (by omega)).bind fun items last shorter => ?_
        refine .some ?_
        split at shorter
        · omega
        · omega
    all_goals exact .some (Nat.le_refl _)

theorem blockEntries_succ (enough : 4 * tokens.length < fuel + 1) :
    Agree tokens.length (readBlockEntries? (fuel + 1) tokens)
      (readBlockEntries? (fuel + 2) tokens) := by
  obtain _ | ⟨token, tokens⟩ := tokens
  · exact .none
  · rw [List.length_cons] at enough ⊢
    cases token
    case key =>
        refine (settled.guarded _ true true tokens (by omega)).bind fun key behind fewer => ?_
        refine (settled.value _ true behind (by omega)).bind fun value after shorter => ?_
        refine (settled.blockEntries after (by omega)).bind fun entries last least => ?_
        exact .some (by omega)
    case blockEnd => exact .some (Nat.le_succ _)
    all_goals exact .none

theorem value_succ {stops : List Token} {inBlock : Bool}
    (enough : 4 * tokens.length < fuel + 1) :
    Agree tokens.length (readValue? (fuel + 1) stops inBlock tokens)
      (readValue? (fuel + 2) stops inBlock tokens) := by
  obtain _ | ⟨token, tokens⟩ := tokens
  · exact .some (Nat.le_refl _)
  · rw [List.length_cons] at enough ⊢
    cases token
    case value =>
        exact (settled.guarded stops inBlock inBlock tokens (by omega)).mono (Nat.le_succ _)
    all_goals exact .some (Nat.le_refl _)

theorem pair_succ (enough : 4 * tokens.length + 1 < fuel) :
    Agree tokens.length (readPair? (fuel + 1) tokens) (readPair? (fuel + 2) tokens) := by
  have value := settled.value [.flowEntry, .flowSequenceEnd] false
  rw [readPair?, readPair?]
  split
  · refine (value tokens.tail ?_).bind fun value rest fewer => .some ?_
    · rw [List.length_tail]
      omega
    · rw [List.length_tail] at fewer
      omega
  · refine (settled.node false false tokens enough).bind fun key behind fewer => ?_
    refine (value behind (by omega)).bind fun value rest shorter => ?_
    exact .some (by omega)

theorem itemsFrom (enough : 4 * tokens.length + 1 < fuel) :
    Agree tokens.length (itemsFrom? fuel tokens) (itemsFrom? (fuel + 1) tokens) := by
  have more : ∀ rest, rest.length < tokens.length →
      Agree tokens.length (readFlowItems? fuel false rest) (readFlowItems? (fuel + 1) false rest) :=
    fun rest fewer => (settled.flowItems false rest (by omega)).mono (Nat.le_of_lt fewer)
  obtain _ | ⟨token, rest⟩ := tokens
  · obtain _ | fuel := fuel
    · cases enough
    · exact .none
  · have single := settled.node false false (token :: rest) enough
    rw [List.length_cons] at *
    rw [Nat.add_sub_cancel] at single
    cases token
    case flowSequenceEnd => exact .some (Nat.le_succ _)
    case key =>
        exact (settled.pair rest (by omega)).followed (fun pair => .mapping [pair])
          fun behind fewer => more behind (Nat.lt_succ_of_le fewer)
    all_goals exact single.followed id fun behind fewer => more behind (Nat.lt_succ_of_le fewer)

theorem flowItems_succ {isFirst : Bool} (enough : 4 * tokens.length + 1 < fuel) :
    Agree tokens.length (readFlowItems? (fuel + 1) isFirst tokens)
      (readFlowItems? (fuel + 2) isFirst tokens) := by
  rw [(bracketed_succ _ _ _).1, (bracketed_succ _ _ _).1]
  exact .bracketed _ isFirst fun rest fits => (settled.itemsFrom (by omega)).mono fits

theorem entriesFrom (enough : 4 * tokens.length + 1 < fuel) :
    Agree tokens.length (entriesFrom? fuel tokens) (entriesFrom? (fuel + 1) tokens) := by
  have more : ∀ rest, rest.length < tokens.length →
      Agree tokens.length (readFlowEntries? fuel false rest)
        (readFlowEntries? (fuel + 1) false rest) :=
    fun rest fewer => (settled.flowEntries false rest (by omega)).mono (Nat.le_of_lt fewer)
  obtain _ | ⟨token, rest⟩ := tokens
  · obtain _ | fuel := fuel
    · cases enough
    · exact .none
  · have single := settled.node false false (token :: rest) enough
    rw [List.length_cons] at *
    rw [Nat.add_sub_cancel] at single
    cases token
    case flowMappingEnd => exact .some (Nat.le_succ _)
    case key =>
        refine (settled.guarded _ false false rest (by omega)).bind fun key behind fewer => ?_
        exact (settled.value _ false behind (by omega)).followed (key, ·)
          fun after shorter => more after (by omega)
    all_goals
      exact single.followed (·, absent) fun behind fewer => more behind (Nat.lt_succ_of_le fewer)

theorem flowEntries_succ {isFirst : Bool} (enough : 4 * tokens.length + 1 < fuel) :
    Agree tokens.length (readFlowEntries? (fuel + 1) isFirst tokens)
      (readFlowEntries? (fuel + 2) isFirst tokens) := by
  rw [(bracketed_succ _ _ _).2, (bracketed_succ _ _ _).2]
  exact .bracketed _ isFirst fun rest fits => (settled.entriesFrom (by omega)).mono fits

end Settled

/-- Every reader settles, whichever others it calls. -/
theorem settled (fuel : Nat) : Settled fuel := by
  induction fuel with
  | zero =>
      constructor
      all_goals
        intros
        contradiction
  | succ fuel ih =>
      exact
        { node := fun _ _ _ enough => ih.node_succ (Nat.lt_of_succ_lt_succ enough)
          guarded := fun _ _ _ _ enough => ih.guarded_succ (Nat.lt_of_succ_lt_succ enough)
          blockItems := fun _ => ih.blockItems_succ
          indentless := fun _ => ih.indentless_succ
          blockEntries := fun _ => ih.blockEntries_succ
          value := fun _ _ _ => ih.value_succ
          flowItems := fun _ _ enough => ih.flowItems_succ (Nat.lt_of_succ_lt_succ enough)
          pair := fun _ enough => ih.pair_succ (Nat.lt_of_succ_lt_succ enough)
          flowEntries := fun _ _ enough => ih.flowEntries_succ (Nat.lt_of_succ_lt_succ enough) }

theorem eq_of_succ {α : Type} {answer : Nat → α} {bound fuel : Nat}
    (same : ∀ fuel, bound ≤ fuel → answer fuel = answer (fuel + 1)) (enough : bound ≤ fuel) :
    answer fuel = answer bound := by
  induction enough with
  | refl => rfl
  | step enough ih => exact (same _ enough).symm.trans ih

/-- The root of a document is read alike with more fuel, so that the bound is never reached. -/
theorem readRoot?_eq (tokens : List Token) {fuel : Nat} (enough : 4 * tokens.length + 4 ≤ fuel) :
    readRoot? tokens =
      match tokens with
      | .documentStart :: [] => some (absent, [])
      | .documentStart :: rest =>
          readUnless? fuel [.documentStart, .documentEnd] true false rest
      | _ => read? fuel true false tokens := by
  have root : ∀ {fuel}, 4 * tokens.length + 4 ≤ fuel →
      read? fuel true false tokens = read? (4 * tokens.length + 4) true false tokens :=
    eq_of_succ fun fuel enough => ((settled fuel).node true false tokens (by omega)).1
  have behind : ∀ {rest : List Token} {fuel}, rest.length ≤ tokens.length →
      4 * tokens.length + 4 ≤ fuel →
        readUnless? fuel [.documentStart, .documentEnd] true false rest =
          readUnless? (4 * tokens.length + 4) [.documentStart, .documentEnd] true false rest :=
    fun fits => eq_of_succ fun fuel enough =>
      ((settled fuel).guarded _ true false _ (by omega)).1
  obtain _ | ⟨token, rest⟩ := tokens
  · exact (root enough).symm
  · cases token
    case documentStart =>
        cases rest
        · rfl
        · exact (behind (Nat.le_succ _) enough).symm
    all_goals exact (root enough).symm

end DebugSymbols.Yaml.Node
