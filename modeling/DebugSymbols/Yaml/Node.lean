import DebugSymbols.Yaml.Lexer
/-!
# Documents as trees

The tokens of a document are read as one node: a scalar, a sequence or a
mapping.  An absent node is an empty plain scalar.  The readers answer with
what they read and the tokens behind it; each takes a token or is followed by
one that does, so a bound on the depth of the reading is never reached.
-/

namespace DebugSymbols.Yaml

/-- A node of a document.  A scalar tells whether it was written without quotes. -/
inductive Node where
  | scalar (plain : Bool) (text : String)
  | sequence (items : List Node)
  | mapping (entries : List (Node × Node))
  deriving Repr

namespace Node

def absent : Node := .scalar true ""

def stopsAt (stops : List Token) (tokens : List Token) : Bool :=
  match tokens with
  | [] => false
  | token :: _ => stops.contains token

def behindComma? (isFirst : Bool) (tokens : List Token) : Option (List Token) :=
  match isFirst, tokens with
  | true, _ => some tokens
  | false, .flowEntry :: rest => some rest
  | false, _ => none

mutual

/-- Reads a node, a block only where blocks are allowed and entries without a block of their own
only where these are. -/
def read? (fuel : Nat) (inBlock indentless : Bool) (tokens : List Token) :
    Option (Node × List Token) :=
  match fuel with
  | 0 => none
  | fuel + 1 =>
      match tokens with
      | .scalar plain text :: rest => some (.scalar plain text, rest)
      | .flowSequenceStart :: rest => do
          let (items, rest) ← readFlowItems? fuel true rest
          return (.sequence items, rest)
      | .flowMappingStart :: rest => do
          let (entries, rest) ← readFlowEntries? fuel true rest
          return (.mapping entries, rest)
      | .blockSequenceStart :: rest => do
          if !inBlock then none
          let (items, rest) ← readBlockItems? fuel rest
          return (.sequence items, rest)
      | .blockMappingStart :: rest => do
          if !inBlock then none
          let (entries, rest) ← readBlockEntries? fuel rest
          return (.mapping entries, rest)
      | .blockEntry :: _ => do
          if !indentless then none
          let (items, rest) ← readIndentless? fuel tokens
          return (.sequence items, rest)
      | _ => none

def readUnless? (fuel : Nat) (stops : List Token) (inBlock indentless : Bool)
    (tokens : List Token) : Option (Node × List Token) :=
  match fuel with
  | 0 => none
  | fuel + 1 =>
      if stopsAt stops tokens then some (absent, tokens)
      else read? fuel inBlock indentless tokens

def readBlockItems? (fuel : Nat) (tokens : List Token) : Option (List Node × List Token) :=
  match fuel with
  | 0 => none
  | fuel + 1 =>
      match tokens with
      | .blockEntry :: rest => do
          let (item, rest) ← readUnless? fuel [.blockEntry, .blockEnd] true false rest
          let (items, rest) ← readBlockItems? fuel rest
          return (item :: items, rest)
      | .blockEnd :: rest => some ([], rest)
      | _ => none

/-- Reads the entries of a sequence that is not indented deeper than the mapping it stands in. -/
def readIndentless? (fuel : Nat) (tokens : List Token) : Option (List Node × List Token) :=
  match fuel with
  | 0 => none
  | fuel + 1 =>
      match tokens with
      | .blockEntry :: rest => do
          let (item, rest) ←
            readUnless? fuel [.blockEntry, .key, .value, .blockEnd] true false rest
          let (items, rest) ← readIndentless? fuel rest
          return (item :: items, rest)
      | _ => some ([], tokens)

def readBlockEntries? (fuel : Nat) (tokens : List Token) :
    Option (List (Node × Node) × List Token) :=
  match fuel with
  | 0 => none
  | fuel + 1 =>
      match tokens with
      | .key :: rest => do
          let stops := [Token.key, .value, .blockEnd]
          let (key, rest) ← readUnless? fuel stops true true rest
          let (value, rest) ← readValue? fuel stops true rest
          let (entries, rest) ← readBlockEntries? fuel rest
          return ((key, value) :: entries, rest)
      | .blockEnd :: rest => some ([], rest)
      | _ => none

def readValue? (fuel : Nat) (stops : List Token) (inBlock : Bool) (tokens : List Token) :
    Option (Node × List Token) :=
  match fuel with
  | 0 => none
  | fuel + 1 =>
      match tokens with
      | .value :: rest => readUnless? fuel stops inBlock inBlock rest
      | _ => some (absent, tokens)

/-- Reads the items of a sequence in brackets up to its end.  A key makes a mapping of one entry. -/
def readFlowItems? (fuel : Nat) (isFirst : Bool) (tokens : List Token) :
    Option (List Node × List Token) :=
  match fuel with
  | 0 => none
  | fuel + 1 =>
      match tokens with
      | .flowSequenceEnd :: rest => some ([], rest)
      | _ => do
          let tokens ← behindComma? isFirst tokens
          match tokens with
          | .flowSequenceEnd :: rest => return ([], rest)
          | .key :: rest =>
              let (pair, rest) ← readPair? fuel rest
              let (items, rest) ← readFlowItems? fuel false rest
              return (.mapping [pair] :: items, rest)
          | _ =>
              let (item, rest) ← read? fuel false false tokens
              let (items, rest) ← readFlowItems? fuel false rest
              return (item :: items, rest)

/-- Reads the only entry of a mapping in a sequence in brackets.  Where the key is absent, the token
that shows this is passed over. -/
def readPair? (fuel : Nat) (tokens : List Token) : Option ((Node × Node) × List Token) :=
  match fuel with
  | 0 => none
  | fuel + 1 => do
      let (key, rest) ←
        if stopsAt [.value, .flowEntry, .flowSequenceEnd] tokens then some (absent, tokens.tail)
        else read? fuel false false tokens
      let (value, rest) ← readValue? fuel [.flowEntry, .flowSequenceEnd] false rest
      return ((key, value), rest)

def readFlowEntries? (fuel : Nat) (isFirst : Bool) (tokens : List Token) :
    Option (List (Node × Node) × List Token) :=
  match fuel with
  | 0 => none
  | fuel + 1 =>
      match tokens with
      | .flowMappingEnd :: rest => some ([], rest)
      | _ => do
          let tokens ← behindComma? isFirst tokens
          match tokens with
          | .flowMappingEnd :: rest => return ([], rest)
          | .key :: rest =>
              let (key, rest) ←
                readUnless? fuel [.value, .flowEntry, .flowMappingEnd] false false rest
              let (value, rest) ← readValue? fuel [.flowEntry, .flowMappingEnd] false rest
              let (entries, rest) ← readFlowEntries? fuel false rest
              return ((key, value) :: entries, rest)
          | _ =>
              let (key, rest) ← read? fuel false false tokens
              let (entries, rest) ← readFlowEntries? fuel false rest
              return ((key, absent) :: entries, rest)

end

/-- Reads the root of a document, which is absent if the document is empty. -/
def readRoot? (tokens : List Token) : Option (Node × List Token) :=
  let fuel := 4 * tokens.length + 4
  match tokens with
  | .documentStart :: [] => some (absent, [])
  | .documentStart :: rest => readUnless? fuel [.documentStart, .documentEnd] true false rest
  | _ => read? fuel true false tokens

/-- The only document of a stream of tokens, or none if the stream is empty.  Behind it there are
only lines that end a document. -/
def ofTokens? (tokens : List Token) : Option (Option Node) :=
  if tokens.isEmpty then some none
  else
    match readRoot? tokens with
    | some (root, rest) => if rest.all (· == .documentEnd) then some (some root) else none
    | none => none

def parse? (text : String) : Option (Option Node) :=
  (tokens? text).bind ofTokens?

end Node

end DebugSymbols.Yaml
