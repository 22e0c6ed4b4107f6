import DebugSymbols.Proofs.Numeral
import DebugSymbols.Proofs.Text.Words
import DebugSymbols.Proofs.Trace.LabelNames
import DebugSymbols.Proofs.Trace.Number
/-!
# The grammar of commands

A keyword asks for certain arguments.  These are looked at from left to right,
and the first that cannot be used decides the answer; if there is none, the
answer is the command with what was read.  Only the words of a line matter, and
every command with usable names is on some line.
-/

namespace DebugSymbols.Trace

/-! ## Words of a line -/

/-- The words of a line are the runs without blanks in what stands before its first number sign. -/
def Spells (line : String) (words : List String) : Prop :=
  ∃ text comment, line.toList = text ++ comment ∧ '#' ∉ text ∧
    (∀ character ∈ comment.head?, character = '#') ∧ Text.Runs text (words.map String.toList)

theorem uncommented_append {text comment : List Char} (clean : '#' ∉ text)
    (marked : ∀ character ∈ comment.head?, character = '#') :
    uncommented (text ++ comment) = text := by
  have going : ∀ character ∈ text, decide (character ≠ '#') = true :=
    fun character member => decide_eq_true fun same => clean (same ▸ member)
  have stopped : ∀ character ∈ comment.head?, decide (character ≠ '#') = false :=
    fun character first => decide_eq_false (not_not_intro (marked character first))
  exact (Text.takeWhile_dropWhile_append going stopped).1

theorem spells_iff {line : String} {words : List String} :
    Spells line words ↔ lineWords line = words := by
  constructor
  · rintro ⟨text, comment, whole, clean, marked, runs⟩
    have cut := Text.words_eq_of_runs runs
    rw [lineWords, whole, uncommented_append clean marked, cut, List.map_map]
    have back : String.ofList ∘ String.toList = id := funext fun _ => String.ofList_toList
    rw [back, List.map_id]
  · rintro rfl
    refine ⟨uncommented line.toList, line.toList.dropWhile (· ≠ '#'),
      List.takeWhile_append_dropWhile.symm, ?_, ?_, ?_⟩
    · intro member
      rw [uncommented] at member
      have other := List.mem_takeWhile_imp member
      exact of_decide_eq_true other rfl
    · intro character first
      have stopped :=
        List.head?_dropWhile_not (fun character => decide (character ≠ '#')) line.toList
      rw [Option.mem_def.1 first] at stopped
      simpa using stopped
    · have back : String.toList ∘ String.ofList = id := funext fun _ => String.toList_ofList
      rw [lineWords, List.map_map, back, List.map_id]
      exact Text.runs_words _

def Plain (text : List Char) : Prop :=
  ∀ character ∈ text, Text.isBlank character = false ∧ character ≠ '#'

-- By the characters of the text, and not by all that there are.
instance (text : List Char) : Decidable (Plain text) :=
  List.decidableBAll (fun character => Text.isBlank character = false ∧ character ≠ '#') text

def IsWord (word : String) : Prop :=
  word ≠ "" ∧ Plain word.toList

instance (word : String) : Decidable (IsWord word) :=
  inferInstanceAs (Decidable (word ≠ "" ∧ Plain word.toList))

theorem isWord_of_mem_lineWords {line word : String} (member : word ∈ lineWords line) :
    IsWord word := by
  obtain ⟨characters, cut, rfl⟩ := List.mem_map.1 member
  obtain ⟨nonempty, solid, inside⟩ := (Text.runs_words _).of_mem cut
  constructor
  · exact fun empty => nonempty (String.ofList_eq_empty_iff.1 empty)
  · rw [String.toList_ofList]
    intro character here
    have standing := inside here
    rw [uncommented] at standing
    have other := List.mem_takeWhile_imp standing
    exact ⟨solid character here, of_decide_eq_true other⟩

/-! ## Arguments -/

inductive Keyword where
  | file
  | line
  | startModule
  | endModule
  | label
  | data
  | startFunction
  | endFunction
  | enable
  | disable
  deriving DecidableEq, Repr

def Keyword.text : Keyword → String
  | .file => "file"
  | .line => "line"
  | .startModule => "module"
  | .endModule => "endmodule"
  | .label => "label"
  | .data => "data"
  | .startFunction => "func"
  | .endFunction => "endfunc"
  | .enable => "enable"
  | .disable => "disable"

inductive Value where
  | word (text : String)
  | number (value : Int64)
  | line (number : Nat)
  | kind (kind : DataKind)
  deriving DecidableEq, Repr

def Role.read? : Role → String → Option Value
  | .address, word | .size, word => (number? word.toList).map .number
  | .line, word => (lineNumber? word.toList).map .line
  | .dataKind, word => (DataKind.ofTag? word).map .kind

/-- What a keyword asks for at one place: any word, or one that can be converted for a role. -/
inductive Slot where
  | word
  | converted (role : Role)
  deriving DecidableEq, Repr

def Slot.take : Slot → Option String → Except Problem Value
  | _, none => .error .missingArgument
  | .word, some given => .ok (.word given)
  | .converted role, some given =>
      match role.read? given with
      | some value => .ok value
      | none => .error (.badArgument given role)

/-- A slot for a role takes what is converted for it. -/
theorem take_converted_eq_ok_iff {role : Role} {given : Option String} {value : Value} :
    (Slot.converted role).take given = .ok value ↔
      ∃ word, given = some word ∧ role.read? word = some value := by
  cases given with
  | none => exact ⟨nofun, nofun⟩
  | some word =>
      rw [Slot.take]
      cases found : role.read? word with
      | none => simp [found]
      | some other => simp [found]

def Keyword.slots : Keyword → List Slot
  | .file | .startModule | .endModule => [.word]
  | .line => [.converted .line]
  | .label => [.converted .address, .word]
  | .data => [.converted .address, .converted .size, .converted .dataKind]
  | .startFunction | .endFunction => [.converted .address]
  | .enable | .disable => []

/-- What each slot takes from the word at its own place. -/
def takes (slots : List Slot) (arguments : List String) : List (Except Problem Value) :=
  slots.mapIdx fun index slot => slot.take arguments[index]?

namespace Command

def keyword : Command → Keyword
  | .file _ => .file
  | .line _ => .line
  | .startModule _ => .startModule
  | .endModule _ => .endModule
  | .label .. => .label
  | .data .. => .data
  | .startFunction _ => .startFunction
  | .endFunction _ => .endFunction
  | .enable => .enable
  | .disable => .disable

def values : Command → List Value
  | .file path => [.word path]
  | .line number => [.line number]
  | .startModule name | .endModule name => [.word name]
  | .label address name => [.number address, .word name]
  | .data address size kind => [.number address, .number size, .kind kind]
  | .startFunction address | .endFunction address => [.number address]
  | .enable | .disable => []

theorem eq_of_values {first second : Command} (keyword : first.keyword = second.keyword)
    (values : first.values = second.values) : first = second := by
  cases first
  all_goals
    cases second
    all_goals cases keyword
    cases values
    rfl

end Command

/-! ## Answers -/

section Answers

variable {α β : Type} {answer : Except Problem α} {make : α → β}

theorem map_eq_ok_iff {made : β} :
    answer.map make = .ok made ↔ ∃ value, answer = .ok value ∧ make value = made := by
  cases answer with
  | error problem => exact ⟨nofun, nofun⟩
  | ok value => simp [Except.map]

theorem map_eq_error_iff {problem : Problem} :
    answer.map make = .error problem ↔ answer = .error problem := by
  cases answer with
  | error other => simp [Except.map]
  | ok value => exact ⟨nofun, nofun⟩

end Answers

/-- The values that were taken, or the first problem on the way. -/
def settle : List (Except Problem Value) → Except Problem (List Value)
  | [] => .ok []
  | .ok value :: rest => (settle rest).map (value :: ·)
  | .error problem :: _ => .error problem

theorem settle_map_ok (values : List Value) : settle (values.map .ok) = .ok values := by
  induction values with
  | nil => rfl
  | cons value rest ih =>
      rw [List.map_cons, settle, ih]
      rfl

theorem settle_append_error (values : List Value) (problem : Problem)
    (later : List (Except Problem Value)) :
    settle (values.map .ok ++ .error problem :: later) = .error problem := by
  induction values with
  | nil => rfl
  | cons value rest ih =>
      rw [List.map_cons, List.cons_append, settle, ih]
      rfl

/-- Either all places can be used, or one cannot and all before it can. -/
theorem exists_values (taken : List (Except Problem Value)) :
    (∃ values : List Value, taken = values.map .ok) ∨
      ∃ (values : List Value) (problem : Problem) (later : List (Except Problem Value)),
        taken = values.map .ok ++ .error problem :: later := by
  induction taken with
  | nil => exact .inl ⟨[], rfl⟩
  | cons first rest ih =>
      cases first with
      | error problem => exact .inr ⟨[], problem, rest, rfl⟩
      | ok value =>
          rcases ih with ⟨values, rfl⟩ | ⟨values, problem, later, rfl⟩
          · exact .inl ⟨value :: values, rfl⟩
          · exact .inr ⟨value :: values, problem, later, rfl⟩

theorem settle_eq_ok_iff {taken : List (Except Problem Value)} {values : List Value} :
    settle taken = .ok values ↔ taken = values.map .ok := by
  constructor
  · intro settled
    rcases exists_values taken with ⟨others, rfl⟩ | ⟨others, problem, later, rfl⟩
    · rw [settle_map_ok] at settled
      cases settled
      rfl
    · rw [settle_append_error] at settled
      cases settled
  · rintro rfl
    exact settle_map_ok values

theorem settle_eq_error_iff {taken : List (Except Problem Value)} {problem : Problem} :
    settle taken = .error problem ↔
      ∃ (values : List Value) (later : List (Except Problem Value)),
        taken = values.map .ok ++ .error problem :: later := by
  constructor
  · intro settled
    rcases exists_values taken with ⟨values, rfl⟩ | ⟨values, other, later, rfl⟩
    · rw [settle_map_ok] at settled
      cases settled
    · rw [settle_append_error] at settled
      cases settled
      exact ⟨values, later, rfl⟩
  · rintro ⟨values, later, rfl⟩
    exact settle_append_error values problem later

theorem argument_map_word (arguments : List String) (index : Nat) :
    (argument arguments index).map .word = Slot.word.take arguments[index]? := by
  rw [argument]
  cases arguments[index]? with
  | none => rfl
  | some word => rfl

theorem convert_map {α : Type} {read? : List Char → Option α} {role : Role} {make : α → Value}
    (same : ∀ word, role.read? word = (read? word.toList).map make) (arguments : List String)
    (index : Nat) :
    (convert read? role arguments index).map make =
      (Slot.converted role).take arguments[index]? := by
  rw [convert, argument]
  cases arguments[index]? with
  | none => rfl
  | some word =>
      rw [Slot.take, same]
      simp only [bind, Except.bind]
      cases read? word.toList with
      | none => rfl
      | some value => rfl

namespace Command

def signature (command : Command) : Keyword × List Value :=
  (command.keyword, command.values)

/-- A command of one argument. -/
theorem map_signature_bind {α : Type} {answer : Except Problem α} {make : α → Value}
    {build : α → Command} {keyword : Keyword}
    (told : ∀ value, (build value).signature = (keyword, [make value])) :
    (answer.bind fun value => .ok (build value)).map signature =
      (settle [answer.map make]).map fun values => (keyword, values) := by
  cases answer with
  | error problem => rfl
  | ok value => exact congrArg Except.ok (told value)

/-- Arguments are looked up, converted and refused as the slots of the keyword say. -/
theorem map_signature_ofWords (keyword : Keyword) (arguments : List String) :
    (ofWords keyword.text arguments).map signature =
      (settle (takes keyword.slots arguments)).map fun values => (keyword, values) := by
  have word : ∀ index, Slot.word.take arguments[index]? = (argument arguments index).map .word :=
    fun index => (argument_map_word arguments index).symm
  have address : ∀ index, (Slot.converted .address).take arguments[index]? =
      (convert number? .address arguments index).map .number :=
    fun index => (convert_map (fun _ => rfl) arguments index).symm
  have size : ∀ index, (Slot.converted .size).take arguments[index]? =
      (convert number? .size arguments index).map .number :=
    fun index => (convert_map (fun _ => rfl) arguments index).symm
  have line : ∀ index, (Slot.converted .line).take arguments[index]? =
      (convert lineNumber? .line arguments index).map .line :=
    fun index => (convert_map (fun _ => rfl) arguments index).symm
  have kind : ∀ index, (Slot.converted .dataKind).take arguments[index]? =
      (convert (fun word => DataKind.ofTag? (String.ofList word)) .dataKind arguments index).map
        .kind := by
    refine fun index => (convert_map (fun word => ?_) arguments index).symm
    rw [Role.read?, String.ofList_toList]
  cases keyword with
  | file | startModule | endModule =>
      change _ = (settle [Slot.word.take arguments[0]?]).map _
      rw [word]
      exact map_signature_bind fun _ => rfl
  | line =>
      change _ = (settle [(Slot.converted .line).take arguments[0]?]).map _
      rw [line]
      exact map_signature_bind fun _ => rfl
  | startFunction | endFunction =>
      change _ = (settle [(Slot.converted .address).take arguments[0]?]).map _
      rw [address]
      exact map_signature_bind fun _ => rfl
  | label =>
      change _ = (settle [(Slot.converted .address).take arguments[0]?,
        Slot.word.take arguments[1]?]).map _
      rw [address, word]
      change Except.map signature ((convert number? .address arguments 0).bind fun address =>
        (argument arguments 1).bind fun name => .ok (.label address name)) = _
      cases convert number? .address arguments 0 with
      | error problem => rfl
      | ok address =>
          cases argument arguments 1 with
          | error problem => rfl
          | ok name => rfl
  | data =>
      change _ = (settle [(Slot.converted .address).take arguments[0]?,
        (Slot.converted .size).take arguments[1]?,
        (Slot.converted .dataKind).take arguments[2]?]).map _
      rw [address, size, kind]
      change Except.map signature ((convert number? .address arguments 0).bind fun address =>
        (convert number? .size arguments 1).bind fun size =>
          (convert (fun word => DataKind.ofTag? (String.ofList word)) .dataKind arguments 2).bind
            fun kind => .ok (.data address size kind)) = _
      cases convert number? .address arguments 0 with
      | error problem => rfl
      | ok address =>
          cases convert number? .size arguments 1 with
          | error problem => rfl
          | ok size =>
              cases convert (fun word => DataKind.ofTag? (String.ofList word)) .dataKind arguments 2
              with
              | error problem => rfl
              | ok kind => rfl
  | enable | disable => rfl

/-- A keyword with arguments is a command just if the values of the command are what its slots
take. -/
theorem ofWords_eq_ok_iff {keyword : Keyword} {arguments : List String} {command : Command} :
    ofWords keyword.text arguments = .ok command ↔
      command.keyword = keyword ∧ takes keyword.slots arguments = command.values.map .ok := by
  have answer := map_signature_ofWords keyword arguments
  rw [← settle_eq_ok_iff]
  constructor
  · intro made
    rw [made] at answer
    obtain ⟨values, settled, same⟩ := map_eq_ok_iff.1 answer.symm
    obtain ⟨rfl, rfl⟩ := Prod.mk.inj same
    exact ⟨rfl, settled⟩
  · rintro ⟨same, settled⟩
    rw [settled] at answer
    obtain ⟨other, made, told⟩ := map_eq_ok_iff.1 answer
    obtain ⟨keywords, values⟩ := Prod.mk.inj told
    rw [made, eq_of_values (keywords.trans same.symm) values]

/-- A keyword with arguments is refused for the first of its slots that cannot take the word at its
place. -/
theorem ofWords_eq_error_iff {keyword : Keyword} {arguments : List String} {problem : Problem} :
    ofWords keyword.text arguments = .error problem ↔
      ∃ (values : List Value) (later : List (Except Problem Value)),
        takes keyword.slots arguments = values.map .ok ++ .error problem :: later := by
  rw [← settle_eq_error_iff]
  have refused := @map_eq_error_iff _ _ (ofWords keyword.text arguments) signature problem
  rw [← refused, map_signature_ofWords, map_eq_error_iff]

theorem ofWords_of_unknown {word : String} (unknown : ∀ keyword : Keyword, keyword.text ≠ word)
    (arguments : List String) : ofWords word arguments = .error (.unknownCommand word) := by
  unfold ofWords
  split
  case h_1 => exact absurd rfl (unknown .file)
  case h_2 => exact absurd rfl (unknown .line)
  case h_3 => exact absurd rfl (unknown .startModule)
  case h_4 => exact absurd rfl (unknown .endModule)
  case h_5 => exact absurd rfl (unknown .label)
  case h_6 => exact absurd rfl (unknown .data)
  case h_7 => exact absurd rfl (unknown .startFunction)
  case h_8 => exact absurd rfl (unknown .endFunction)
  case h_9 => exact absurd rfl (unknown .enable)
  case h_10 => exact absurd rfl (unknown .disable)
  case h_11 => rfl

/-! ## Writing commands -/

/-- A command that a line can have: its path or name is a word, and its line number fits. -/
def Writable (command : Command) : Prop :=
  (∀ name, command.word? = some name → IsWord name) ∧
    ∀ number, command = .line number → number < 2 ^ 64

end Command

/-- A word that is read as the value.  The sign of an address or a size stands behind the mark, so
that every word can be written. -/
def Value.spelling : Value → String
  | .word text => text
  | .number value =>
      let digits := Radix.hexadecimal.write value.toInt.natAbs
      String.ofList
        (Radix.hexadecimal.mark ++ if value.toInt < 0 then '-' :: digits else digits)
  | .line count => decimal count
  | .kind element => element.tag

theorem number?_spelling_number (value : Int64) :
    number? (Value.number value).spelling.toList = some value := by
  let digits := Radix.hexadecimal.write value.toInt.natAbs
  let body := if value.toInt < 0 then '-' :: digits else digits
  have numeral : Radix.hexadecimal.IsNumeral digits value.toInt.natAbs :=
    Radix.hexadecimal.isNumeral_write _
  have signed : Radix.hexadecimal.IsSigned body value.toInt := by
    simp only [body]
    split
    case isTrue negative =>
      have size : value.toInt = -(value.toInt.natAbs : Int) := by omega
      rw [size]
      exact .minus numeral
    case isFalse positive =>
      have size : value.toInt = (value.toInt.natAbs : Int) := by omega
      rw [size]
      exact .bare numeral
  have marked : IsMarked (Radix.hexadecimal.mark ++ body) .hexadecimal body := ⟨rfl, nofun⟩
  have free : ∀ rest, Radix.hexadecimal.mark ++ body ≠ '-' :: rest := by
    intro rest same
    cases same
  rw [Value.spelling, String.toList_ofList, number?_of_ne free, marked?_eq marked signed]
  exact word64?_eq_some_iff.2 rfl

theorem lineNumber?_decimal {number : Nat} (small : number < 2 ^ 64) :
    lineNumber? (decimal number).toList = some number := by
  rw [lineNumber?_eq_some_iff, decimal, String.toList_ofList]
  exact ⟨.bare (Radix.decimal.isNumeral_write number), small⟩

/-! ### Slots take what is written for them -/

theorem take_spelling_number (role : Role) (either : role = .address ∨ role = .size)
    (value : Int64) :
    (Slot.converted role).take (some (Value.number value).spelling) = .ok (.number value) := by
  refine take_converted_eq_ok_iff.2 ⟨_, rfl, ?_⟩
  rcases either with rfl | rfl
  all_goals rw [Role.read?, number?_spelling_number, Option.map_some]

theorem take_spelling_line {number : Nat} (small : number < 2 ^ 64) :
    (Slot.converted .line).take (some (Value.line number).spelling) = .ok (.line number) := by
  refine take_converted_eq_ok_iff.2 ⟨_, rfl, ?_⟩
  rw [Role.read?, Value.spelling, lineNumber?_decimal small, Option.map_some]

theorem take_spelling_kind (kind : DataKind) :
    (Slot.converted .dataKind).take (some (Value.kind kind).spelling) = .ok (.kind kind) := by
  refine take_converted_eq_ok_iff.2 ⟨_, rfl, ?_⟩
  rw [Role.read?, Value.spelling, DataKind.ofTag?_eq_some_iff.2 rfl, Option.map_some]

namespace Command

theorem takes_spelling {command : Command} (writable : command.Writable) :
    takes command.keyword.slots (command.values.map Value.spelling) = command.values.map .ok := by
  have address (value : Int64) := take_spelling_number .address (.inl rfl) value
  have size (value : Int64) := take_spelling_number .size (.inr rfl) value
  cases command with
  | file | startModule | endModule | enable | disable => rfl
  | line number =>
      exact congrArg ([·]) (take_spelling_line (writable.2 number rfl))
  | label start name =>
      change [(Slot.converted .address).take (some (Value.number start).spelling), _] = _
      rw [address]
      rfl
  | data start extent kind =>
      change [(Slot.converted .address).take (some (Value.number start).spelling),
        (Slot.converted .size).take (some (Value.number extent).spelling),
        (Slot.converted .dataKind).take (some (Value.kind kind).spelling)] = _
      rw [address, size, take_spelling_kind]
      rfl
  | startFunction start | endFunction start =>
      exact congrArg ([·]) (address start)

def spelling (command : Command) : List String :=
  command.keyword.text :: command.values.map Value.spelling

end Command

/-! ### Lines -/

theorem plain_write (radix : Radix) (value : Nat) : Plain (radix.write value) := by
  have plain : ∀ digit < 16,
      Text.isBlank (digitChar digit) = false ∧ digitChar digit ≠ '#' := by
    decide
  intro character member
  obtain ⟨digit, small, rfl⟩ := radix.exists_digitChar_of_mem_write member
  exact plain digit (Nat.lt_of_lt_of_le small radix.base_le_sixteen)

theorem isWord_ofList {text : List Char} (nonempty : text ≠ []) (plain : Plain text) :
    IsWord (String.ofList text) := by
  refine ⟨fun empty => nonempty (String.ofList_eq_empty_iff.1 empty), ?_⟩
  rwa [String.toList_ofList]

theorem isWord_spelling_number (value : Int64) : IsWord (Value.number value).spelling := by
  have digits := plain_write .hexadecimal value.toInt.natAbs
  have mark : Plain Radix.hexadecimal.mark := by decide
  have minus : Text.isBlank '-' = false ∧ '-' ≠ '#' := by decide
  refine isWord_ofList nofun (List.forall_mem_append.2 ⟨mark, ?_⟩)
  split
  case isTrue => exact List.forall_mem_cons.2 ⟨minus, digits⟩
  case isFalse => exact digits

theorem isWord_text (keyword : Keyword) : IsWord keyword.text := by
  cases keyword
  all_goals decide

theorem isWord_tag (kind : DataKind) : IsWord kind.tag := by
  cases kind
  all_goals decide

namespace Command

theorem word?_of_mem_values {command : Command} {text : String}
    (member : .word text ∈ command.values) : command.word? = some text := by
  cases command with
  | file other | startModule other | endModule other =>
      cases List.mem_singleton.1 member
      rfl
  | label address other =>
      have distinct : Value.word text ≠ .number address := nofun
      cases List.mem_singleton.1 (List.mem_of_ne_of_mem distinct member)
      rfl
  | line | data | startFunction | endFunction => simp [values] at member
  | enable | disable => cases member

theorem isWord_of_mem_spelling {command : Command} (writable : command.Writable) {word : String}
    (member : word ∈ command.spelling) : IsWord word := by
  rcases List.mem_cons.1 member with rfl | argument
  · exact isWord_text command.keyword
  · obtain ⟨value, among, rfl⟩ := List.mem_map.1 argument
    cases value with
    | word text => exact writable.1 text (word?_of_mem_values among)
    | number value => exact isWord_spelling_number value
    | line number =>
        exact isWord_ofList (Radix.decimal.write_ne_nil number) (plain_write .decimal number)
    | kind kind => exact isWord_tag kind

end Command

/-- Words that each stand behind a space are the words of the line. -/
theorem lineWords_flatMap {words : List String} (plain : ∀ word ∈ words, IsWord word) :
    lineWords (String.ofList ((words.map String.toList).flatMap (' ' :: ·))) = words := by
  have solid : ∀ run ∈ words.map String.toList,
      run ≠ [] ∧ ∀ character ∈ run, Text.isBlank character = false := by
    intro run member
    obtain ⟨word, among, rfl⟩ := List.mem_map.1 member
    obtain ⟨nonempty, clean⟩ := plain word among
    exact ⟨fun empty => nonempty (String.toList_eq_nil_iff.1 empty),
      fun character inside => (clean character inside).1⟩
  have clean : '#' ∉ (words.map String.toList).flatMap (' ' :: ·) := by
    intro member
    obtain ⟨run, among, inside⟩ := List.mem_flatMap.1 member
    obtain ⟨word, standing, rfl⟩ := List.mem_map.1 among
    rcases List.mem_cons.1 inside with space | here
    · exact absurd space (by decide)
    · exact ((plain word standing).2 '#' here).2 rfl
  refine spells_iff.1 ⟨_, [], ?_, clean, nofun, Text.runs_iff_words_eq.2 (Text.words_flatMap solid)⟩
  rw [String.toList_ofList, List.append_nil]

/-! ## Lines and commands -/

/-- An argument is missing or malformed, and never an unknown command. -/
theorem take_ne_unknownCommand (slot : Slot) (given : Option String) (word : String) :
    slot.take given ≠ .error (.unknownCommand word) := by
  intro refused
  unfold Slot.take at refused
  split at refused
  case h_1 => cases refused
  case h_2 => cases refused
  case h_3 =>
    split at refused
    case h_1 => cases refused
    case h_2 => cases refused

namespace Command

variable {line word : String} {arguments : List String}

theorem read_of_nil (blank : lineWords line = []) : read line = .ok none := by
  rw [read, blank]

theorem read_of_cons (cut : lineWords line = word :: arguments) :
    read line = (ofWords word arguments).map some := by
  rw [read, cut]

theorem read_eq_error_iff (cut : lineWords line = word :: arguments) {problem : Problem} :
    read line = .error problem ↔ ofWords word arguments = .error problem := by
  rw [read_of_cons cut, map_eq_error_iff]

theorem read_eq_some_iff (cut : lineWords line = word :: arguments) {command : Command} :
    read line = .ok (some command) ↔ ofWords word arguments = .ok command := by
  rw [read_of_cons cut, map_eq_ok_iff]
  constructor
  · rintro ⟨other, made, same⟩
    cases same
    exact made
  · exact fun made => ⟨command, made, rfl⟩

theorem read_eq_none_iff : read line = .ok none ↔ lineWords line = [] := by
  refine ⟨fun accepted => ?_, read_of_nil⟩
  cases cut : lineWords line with
  | nil => rfl
  | cons word arguments =>
      rw [read_of_cons cut] at accepted
      obtain ⟨command, _, impossible⟩ := map_eq_ok_iff.1 accepted
      cases impossible

theorem ofWords_eq_unknownCommand_iff {told : String} :
    ofWords word arguments = .error (.unknownCommand told) ↔
      told = word ∧ ∀ keyword : Keyword, keyword.text ≠ word := by
  by_cases known : ∃ keyword : Keyword, keyword.text = word
  · obtain ⟨keyword, rfl⟩ := known
    refine ⟨fun refused => ?_, fun unknown => absurd rfl (unknown.2 keyword)⟩
    obtain ⟨values, later, taken⟩ := ofWords_eq_error_iff.1 refused
    have among : .error (.unknownCommand told) ∈ takes keyword.slots arguments := by
      rw [taken]
      exact List.mem_append_right _ List.mem_cons_self
    obtain ⟨index, inside, here⟩ := List.mem_mapIdx.1 among
    exact absurd here (take_ne_unknownCommand _ _ told)
  · have unknown : ∀ keyword : Keyword, keyword.text ≠ word :=
      fun keyword same => known ⟨keyword, same⟩
    rw [ofWords_of_unknown unknown]
    constructor
    · intro same
      cases same
      exact ⟨rfl, unknown⟩
    · rintro ⟨rfl, _⟩
      rfl

/-- A command that is read can be written. -/
theorem writable_of_read {command : Command} (accepted : read line = .ok (some command)) :
    command.Writable := by
  refine ⟨fun name told => isWord_of_mem_lineWords (mem_lineWords_of_read accepted told), ?_⟩
  rintro number rfl
  cases cut : lineWords line with
  | nil =>
      rw [read_of_nil cut] at accepted
      cases accepted
  | cons word arguments =>
      have made := (read_eq_some_iff cut).1 accepted
      by_cases known : ∃ keyword : Keyword, keyword.text = word
      · obtain ⟨keyword, rfl⟩ := known
        obtain ⟨rfl, taken⟩ := ofWords_eq_ok_iff.1 made
        have first : (Slot.converted .line).take arguments[0]? = .ok (.line number) :=
          (List.cons.inj taken).1
        obtain ⟨given, _, converted⟩ := take_converted_eq_ok_iff.1 first
        obtain ⟨count, counted, same⟩ := Option.map_eq_some_iff.1 converted
        cases same
        exact (lineNumber?_eq_some_iff.1 counted).2
      · rw [ofWords_of_unknown fun keyword same => known ⟨keyword, same⟩] at made
        cases made

/-- A command that can be written is read from what is written. -/
theorem read_spelling {command : Command} (writable : command.Writable) :
    read (String.ofList ((command.spelling.map String.toList).flatMap (' ' :: ·))) =
      .ok (some command) := by
  have cut := lineWords_flatMap fun word => isWord_of_mem_spelling writable
  exact (read_eq_some_iff cut).2 (ofWords_eq_ok_iff.2 ⟨rfl, takes_spelling writable⟩)

/-- A line is read by its words alone: a line without words has no command, an unknown first word is
refused as such, and with a keyword in front the first argument that is missing or malformed
decides, or else the command has just the values of its arguments.  The commands that can be read
are those whose paths and names are words and whose line numbers fit. -/
theorem read_follows_grammar (line : String) :
    ∃ words, (∀ others, Spells line others ↔ others = words) ∧
      (∀ other, Spells other words → read other = read line) ∧
      (read line = .ok none ↔ words = []) ∧
      (∀ word arguments, words = word :: arguments →
        (∀ told, read line = .error (.unknownCommand told) ↔
          told = word ∧ ∀ keyword : Keyword, keyword.text ≠ word) ∧
        ∀ keyword : Keyword, keyword.text = word →
          (∀ problem, read line = .error problem ↔
            ∃ (values : List Value) (later : List (Except Problem Value)),
              takes keyword.slots arguments = values.map .ok ++ .error problem :: later) ∧
          ∀ command, read line = .ok (some command) ↔
            command.keyword = keyword ∧
              takes keyword.slots arguments = command.values.map .ok) ∧
      ∀ command, (∃ other, read other = .ok (some command)) ↔ command.Writable := by
  refine ⟨lineWords line, fun others => spells_iff.trans eq_comm, fun other spelled => ?_,
    read_eq_none_iff, fun word arguments cut => ⟨fun told => ?_, ?_⟩, fun command => ⟨?_, ?_⟩⟩
  · rw [read, read, spells_iff.1 spelled]
  · exact (read_eq_error_iff cut).trans ofWords_eq_unknownCommand_iff
  · rintro keyword rfl
    exact ⟨fun problem => (read_eq_error_iff cut).trans ofWords_eq_error_iff,
      fun command => (read_eq_some_iff cut).trans ofWords_eq_ok_iff⟩
  · rintro ⟨other, accepted⟩
    exact writable_of_read accepted
  · intro writable
    exact ⟨_, read_spelling writable⟩

end Command

end DebugSymbols.Trace
