import DebugSymbols.Numeral
import DebugSymbols.Settings.Loading
import DebugSymbols.Yaml.Node
/-!
# Settings in a document

Settings are the entries of a mapping.  An entry with another key is passed
over, and one given twice is refused.
-/

namespace DebugSymbols

namespace Settings

def isNull (text : String) : Bool :=
  ["", "~", "null", "Null", "NULL"].contains text

def output? : Yaml.Node → Option (Option String)
  | .scalar plain text => if plain && isNull text then some none else some (some text)
  | _ => none

/-- A numeral in one of four notations without leading zeros. -/
def numeral? : List Char → Option Nat
  | '0' :: 'x' :: digits => Radix.hexadecimal.read? digits
  | '0' :: 'o' :: digits => Radix.octal.read? digits
  | '0' :: 'b' :: digits => Radix.binary.read? digits
  | '0' :: _ :: _ => none
  | digits => Radix.decimal.read? digits

/-- A numeral behind at most one plus sign that fits in 32 bits. -/
def word32? (text : String) : Option UInt32 :=
  let digits := match text.toList with
    | '+' :: rest => rest
    | characters => characters
  (numeral? digits).bind fun value =>
    if value < UInt32.size then some (UInt32.ofNat value) else none

def version? : Yaml.Node → Option UInt32
  | .scalar true text => word32? text
  | _ => none

def enabled? : Yaml.Node → Option Bool
  | .scalar true text =>
      if ["true", "True", "TRUE"].contains text then some true
      else if ["false", "False", "FALSE"].contains text then some false
      else none
  | _ => none

namespace Draft

def add? (draft : Draft) (entry : Yaml.Node × Yaml.Node) : Option Draft :=
  match entry with
  | (.scalar _ "output", value) =>
      if draft.output.isSome then none
      else (output? value).map fun output => { draft with output := some output }
  | (.scalar _ "version", value) =>
      if draft.version.isSome then none
      else (version? value).map fun version => { draft with version := some version }
  | (.scalar _ "enabled", value) =>
      if draft.enabled.isSome then none
      else (enabled? value).map fun enabled => { draft with enabled := some enabled }
  | (.scalar _ _, _) => some draft
  | _ => none

end Draft

/-- What a document gives.  An empty one gives nothing. -/
def ofNode? : Option Yaml.Node → Option Draft
  | none | some (.scalar true "") => some {}
  | some (.mapping entries) => entries.foldlM Draft.add? {}
  | _ => none

def draft? (text : String) : Option Draft :=
  (Yaml.Node.parse? text).bind ofNode?

/-- Reads documents without tags, anchors, aliases and directives. -/
def document : Reader := fun stream =>
  stream.text?.bind draft?

def parse (source text : String) : Except SettingsFault Settings :=
  match draft? text with
  | some draft => .ok draft.complete
  | none => .error (.parse source)

def load (path : String) (stream : Option Text.Stream) : Except SettingsFault Settings :=
  document.load path stream

end Settings

end DebugSymbols
