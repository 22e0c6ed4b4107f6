import DebugSymbols.DataKind
import DebugSymbols.Numeral
import DebugSymbols.Position
import DebugSymbols.Table.Paths
import DebugSymbols.Table.Tokens
/-!
# What is recorded for one source stream

A module holds labels and data declarations, each once and in order of first
use, the function spans in the order in which they were opened, and one record
for each address that says where it was seen first.
-/

namespace DebugSymbols

structure Symbol where
  address : Int64
  name : String
  deriving DecidableEq, Repr

structure DataEntry where
  address : Int64
  size : Int64
  kind : DataKind
  deriving DecidableEq, Repr

/-- What a module lists under an address. -/
inductive Declaration where
  | label (symbol : Symbol)
  | datum (entry : DataEntry)
  deriving DecidableEq, Repr

namespace Declaration

def address : Declaration → Int64
  | .label symbol => symbol.address
  | .datum entry => entry.address

def symbol? : Declaration → Option Symbol
  | .label symbol => some symbol
  | .datum _ => none

def entry? : Declaration → Option DataEntry
  | .label _ => none
  | .datum entry => some entry

end Declaration

/-- A function from its first address on.  Its size is 0 until it is closed. -/
structure FunctionSpan where
  address : Int64
  size : Int64 := 0
  deriving DecidableEq, Repr

namespace FunctionSpan

/-- The span up to an address, as a difference of 64-bit words. -/
def closeAt (span : FunctionSpan) (address : Int64) : FunctionSpan :=
  { span with size := address - span.address }

end FunctionSpan

/-- Where an address was first recorded: the index of a path and a line. -/
structure AddressRecord where
  address : Int64
  file : Nat
  line : Nat
  deriving DecidableEq, Repr

/-- Everything recorded for one source stream.  Address records are kept under a key. -/
structure Module where
  token : Option FileToken := none
  symbols : List Symbol := []
  data : List DataEntry := []
  functions : List FunctionSpan := []
  records : List (Int64 × AddressRecord) := []
  deriving DecidableEq, Repr, Inhabited

namespace Module

def addresses (module : Module) : List AddressRecord :=
  module.records.map Prod.snd

def known (module : Module) : List Int64 :=
  module.records.map Prod.fst

def recordOf? (module : Module) (address : Int64) : Option AddressRecord :=
  module.records.lookup address

def recordIndex? (module : Module) (address : Int64) : Option Nat :=
  module.known.idxOf? address

/-- The first function opened at an address. -/
def functionAt? (module : Module) (address : Int64) : Option FunctionSpan :=
  module.functions.find? (·.address == address)

def has (module : Module) : Declaration → Bool
  | .label symbol => symbol ∈ module.symbols
  | .datum entry => entry ∈ module.data

def insert (module : Module) : Declaration → Module
  | .label symbol => { module with symbols := Table.appendNew module.symbols symbol }
  | .datum entry => { module with data := Table.appendNew module.data entry }

def openFunction (module : Module) (address : Int64) : Module :=
  { module with functions := module.functions ++ [⟨address, 0⟩] }

def closeFunction (module : Module) (index : Nat) (address : Int64) : Module :=
  { module with functions := module.functions.modify index (·.closeAt address) }

def appendRecord (module : Module) (address : Int64) (entry : AddressRecord) : Module :=
  { module with records := module.records ++ [(address, entry)] }

section Insert

variable (module : Module) (declaration : Declaration)

@[simp]
theorem token_insert : (module.insert declaration).token = module.token := by
  cases declaration with
  | label symbol => rfl
  | datum entry => rfl

theorem symbols_insert : (module.insert declaration).symbols =
    declaration.symbol?.elim module.symbols (Table.appendNew module.symbols) := by
  cases declaration with
  | label symbol => rfl
  | datum entry => rfl

theorem data_insert : (module.insert declaration).data =
    declaration.entry?.elim module.data (Table.appendNew module.data) := by
  cases declaration with
  | label symbol => rfl
  | datum entry => rfl

@[simp]
theorem functions_insert : (module.insert declaration).functions = module.functions := by
  cases declaration with
  | label symbol => rfl
  | datum entry => rfl

@[simp]
theorem records_insert : (module.insert declaration).records = module.records := by
  cases declaration with
  | label symbol => rfl
  | datum entry => rfl

theorem insert_of_has {module : Module} {declaration : Declaration}
    (known : module.has declaration = true) : module.insert declaration = module := by
  cases declaration with
  | label symbol => rw [insert, Table.appendNew_of_mem (of_decide_eq_true known)]
  | datum entry => rw [insert, Table.appendNew_of_mem (of_decide_eq_true known)]

end Insert

end Module

end DebugSymbols
