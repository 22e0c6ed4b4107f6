import DebugSymbols.Recorder.Basic
import DebugSymbols.Terminal
/-!
# Listing what was recorded

A listing has one section for each module.  A section shows the labels and then
the data of its module, each with the place at which its address was recorded
first.
-/

namespace DebugSymbols

namespace Listing

/-- What a row shows: a label, with the size of the function that starts there, or data. -/
inductive Item where
  | label (name : String) (size : Option Int64)
  | data (kind : DataKind) (size : Int64)
  deriving DecidableEq, Repr

structure Row where
  address : Int64
  item : Item
  source : Option Position
  deriving DecidableEq, Repr

structure Section where
  title : String
  rows : List Row
  deriving DecidableEq, Repr

/-- Functions are shown with all digits of their size, data with the low half of theirs. -/
def Item.render : Item → String
  | .label name none => styled [.green] (name ++ ":")
  | .label name (some size) =>
      styled [.green] (name ++ ":") ++ " " ++
        styled [.cyan] ("[" ++ upperHex 0 size.toUInt64.toNat ++ "]")
  | .data kind size => styled [.yellow] ("." ++ kind.tag ++ " " ++ upperHex 4 (lowWord size).toNat)

/-- The place of a row, or a question mark if it is not known. -/
def renderSource : Option Position → String
  | some place => place.file ++ ":" ++ decimal place.line
  | none => "?"

def Row.render (row : Row) : String :=
  "[" ++ upperHex 8 (lowWord row.address).toNat ++ "]         | " ++ row.item.render ++ " ; " ++
    renderSource row.source ++ "\n"

def dashes (count : Nat) : String :=
  String.ofList (List.replicate count '-')

/-- The line over a section.  The dashes behind a title get fewer with each of its octets. -/
def heading (title : String) : String :=
  dashes 19 ++ "+------[" ++ title ++ "]" ++ dashes (45 - title.utf8ByteSize) ++ "\n"

def footing : String :=
  dashes 19 ++ "+" ++ dashes 53 ++ "\n"

def Section.render (part : Section) : String :=
  heading part.title ++ String.join (part.rows.map Row.render)

def render (sections : List Section) : String :=
  String.join (sections.map Section.render) ++ footing

end Listing

namespace Recorder

/-- The name behind a module's token, or else its index. -/
def moduleTitle (tokens : FileTokens) (module : Module) (index : Nat) : String :=
  match module.token.bind tokens.name? with
  | some name => name
  | none => "module " ++ decimal index

def listingRows (recorder : Recorder) (module : Module) (index : Nat) : List Listing.Row :=
  (module.symbols.map fun symbol =>
    ⟨symbol.address, .label symbol.name ((module.functionAt? symbol.address).map (·.size)),
      recorder.sourceOf? index symbol.address⟩) ++
  (module.data.map fun entry =>
    ⟨entry.address, .data entry.kind entry.size, recorder.sourceOf? index entry.address⟩)

def listing (recorder : Recorder) (tokens : FileTokens) : List Listing.Section :=
  recorder.modules.zipIdx.map fun (module, index) =>
    ⟨moduleTitle tokens module index, recorder.listingRows module index⟩

end Recorder

end DebugSymbols
