import Stageflow.Table
import Stageflow.Yaml.Token

namespace Stageflow.Yaml

inductive Node where
  | scalar (tag : Option String) (style : Style) (text : String)
  | sequence (items : List Node)
  | mapping (entries : List (Node × Node))
  /-- A reference to a node from inside that node. -/
  | cycle
  deriving Repr, Inhabited

namespace Node

/-- What stands where nothing is written. -/
def missing : Node :=
  .scalar none .plain ""

/-- The tags of booleans, numbers and null. -/
def standardTag (name : String) : String :=
  "tag:yaml.org,2002:" ++ name

/-- The expansions of tag handles that hold without a directive. -/
def standardHandles : List (String × String) :=
  [("!", "!"), ("!!", standardTag "")]

/-- What reading nodes depends on: the tokens that are left, and the nodes that have a name. -/
structure Reader where
  handles : List (String × String)
  tokens : List Token
  anchors : List (String × Node) := []

namespace Reader

def advance (r : Reader) : Reader :=
  { r with tokens := r.tokens.tail }

/-- Whether one of some tokens comes next; the end of the stream is none of them. -/
def atAny (r : Reader) (tokens : List Token) : Bool :=
  r.tokens.head?.any tokens.contains

def name (r : Reader) (anchor : Option String) (node : Node) : Reader :=
  match anchor with
  | some anchor => { r with anchors := (anchor, node) :: r.anchors }
  | none => r

/-- Reads the anchor and the tag in front of a node. -/
def properties? (r : Reader) : Option (Option String × Option String × Reader) :=
  let tag? (handle rest : String) : Option String :=
    if handle.isEmpty then some rest else (lookup handle r.handles).map (· ++ rest)
  match r.tokens with
  | .anchor anchor :: .tag handle rest :: tokens =>
    (tag? handle rest).map fun tag => (some anchor, some tag, { r with tokens })
  | .tag handle rest :: .anchor anchor :: tokens =>
    (tag? handle rest).map fun tag => (some anchor, some tag, { r with tokens })
  | .anchor anchor :: tokens => some (some anchor, none, { r with tokens })
  | .tag handle rest :: tokens =>
    (tag? handle rest).map fun tag => (none, some tag, { r with tokens })
  | _ => some (none, none, r)

end Reader

mutual

/-- Reads a node. Blocks are nodes only where `block` says so, and sequences that are not indented
    only where `unindented` does. -/
def read? : Nat → (block unindented : Bool) → Reader → Option (Node × Reader)
  | 0, _, _, _ => none
  | fuel + 1, block, unindented, r =>
    match r.tokens with
    | .alias name :: tokens => (lookup name r.anchors).map fun node => (node, { r with tokens })
    | _ =>
      match r.properties? with
      | none => none
      | some (anchor, tag, r) =>
        let collection (read : Option (Node × Reader)) : Option (Node × Reader) :=
          read.map fun (node, r) => (node, r.name anchor node)
        let inner := r.name anchor .cycle
        match r.tokens with
        | .scalar style text :: _ =>
          let node := Node.scalar tag style text
          some (node, r.advance.name anchor node)
        | .blockEntry :: _ =>
          if unindented then
            collection ((readUnindented? fuel inner).map fun (items, r) => (.sequence items, r))
          else missing? anchor tag r
        | .flowSequenceStart :: _ =>
          collection
            ((readFlowItems? fuel true inner.advance).map fun (items, r) => (.sequence items, r))
        | .flowMappingStart :: _ =>
          collection
            ((readFlowEntries? fuel true inner.advance).map fun (entries, r) => (.mapping entries, r))
        | .blockSequenceStart :: _ =>
          if block then
            collection ((readItems? fuel inner.advance).map fun (items, r) => (.sequence items, r))
          else missing? anchor tag r
        | .blockMappingStart :: _ =>
          if block then
            collection
              ((readEntries? fuel inner.advance).map fun (entries, r) => (.mapping entries, r))
          else missing? anchor tag r
        | _ => missing? anchor tag r

/-- A node that consists of its anchor and tag alone. -/
def missing? (anchor tag : Option String) (r : Reader) : Option (Node × Reader) :=
  if anchor.isNone ∧ tag.isNone then none
  else
    let node := Node.scalar tag .plain ""
    some (node, r.name anchor node)

/-- Reads a node unless one of some tokens comes next, in front of which nothing is written. -/
def readUnless? (fuel : Nat) (stops : List Token) (block unindented : Bool) (r : Reader) :
    Option (Node × Reader) :=
  match fuel with
  | 0 => none
  | fuel + 1 =>
    if r.atAny stops then some (.missing, r) else read? fuel block unindented r

/-- Reads the items of a block up to its end. -/
def readItems? : Nat → Reader → Option (List Node × Reader)
  | 0, _ => none
  | fuel + 1, r =>
    match r.tokens with
    | .blockEntry :: _ =>
      match readUnless? fuel [.blockEntry, .blockEnd] true false r.advance with
      | none => none
      | some (item, r) => (readItems? fuel r).map fun (items, r) => (item :: items, r)
    | .blockEnd :: _ => some ([], r.advance)
    | _ => none

/-- Reads the items of a sequence that is a value in a block and not indented against it. -/
def readUnindented? : Nat → Reader → Option (List Node × Reader)
  | 0, _ => none
  | fuel + 1, r =>
    match r.tokens with
    | .blockEntry :: _ =>
      match readUnless? fuel [.blockEntry, .key, .value, .blockEnd] true false r.advance with
      | none => none
      | some (item, r) => (readUnindented? fuel r).map fun (items, r) => (item :: items, r)
    | _ => some ([], r)

/-- Reads the entries of a block up to its end. -/
def readEntries? : Nat → Reader → Option (List (Node × Node) × Reader)
  | 0, _ => none
  | fuel + 1, r =>
    match r.tokens with
    | .key :: _ =>
      match readUnless? fuel [.key, .value, .blockEnd] true true r.advance with
      | none => none
      | some (key, r) =>
        let value :=
          if r.atAny [.value] then
            readUnless? fuel [.key, .value, .blockEnd] true true r.advance
          else some (.missing, r)
        match value with
        | none => none
        | some (value, r) =>
          (readEntries? fuel r).map fun (entries, r) => ((key, value) :: entries, r)
    | .blockEnd :: _ => some ([], r.advance)
    | _ => none

/-- Reads the items between brackets. An item with a key indicator is a mapping of one entry. -/
def readFlowItems? : Nat → (first : Bool) → Reader → Option (List Node × Reader)
  | 0, _, _ => none
  | fuel + 1, first, r =>
    match r.tokens with
    | .flowSequenceEnd :: _ => some ([], r.advance)
    | _ =>
      if !first && !r.atAny [.flowEntry] then none
      else
        let r := if first then r else r.advance
        match r.tokens with
        | .flowSequenceEnd :: _ => some ([], r.advance)
        | .key :: _ =>
          match readPair? fuel r.advance with
          | none => none
          | some (entry, r) =>
            (readFlowItems? fuel false r).map fun (items, r) => (.mapping [entry] :: items, r)
        | _ =>
          match read? fuel false false r with
          | none => none
          | some (item, r) => (readFlowItems? fuel false r).map fun (items, r) => (item :: items, r)

/-- Reads the only entry of a mapping between brackets. Where its key is missing, the token in its
    place is passed over. -/
def readPair? : Nat → Reader → Option ((Node × Node) × Reader)
  | 0, _ => none
  | fuel + 1, r =>
    let key :=
      if r.atAny [.value, .flowEntry, .flowSequenceEnd] then some (.missing, r.advance)
      else read? fuel false false r
    match key with
    | none => none
    | some (key, r) =>
      if r.atAny [.value] then
        (readUnless? fuel [.flowEntry, .flowSequenceEnd] false false r.advance).map
          fun (value, r) => ((key, value), r)
      else some ((key, .missing), r)

def readFlowEntries? : Nat → (first : Bool) → Reader → Option (List (Node × Node) × Reader)
  | 0, _, _ => none
  | fuel + 1, first, r =>
    match r.tokens with
    | .flowMappingEnd :: _ => some ([], r.advance)
    | _ =>
      if !first && !r.atAny [.flowEntry] then none
      else
        let r := if first then r else r.advance
        let entry :=
          match r.tokens with
          | .flowMappingEnd :: _ => none
          | .key :: _ =>
            match readUnless? fuel [.value, .flowEntry, .flowMappingEnd] false false r.advance with
            | none => none
            | some (key, r) =>
              if r.atAny [.value] then
                (readUnless? fuel [.flowEntry, .flowMappingEnd] false false r.advance).map
                  fun (value, r) => ((key, value), r)
              else some ((key, .missing), r)
          | _ => (read? fuel false false r).map fun (key, r) => ((key, .missing), r)
        match r.tokens, entry with
        | .flowMappingEnd :: _, _ => some ([], r.advance)
        | _, none => none
        | _, some (entry, r) =>
          (readFlowEntries? fuel false r).map fun (entries, r) => (entry :: entries, r)

end

/-- Reads the directives in front of a document: at most one version, and no handle twice. -/
def directives? : (versioned : Bool) → (handles : List (String × String)) → List Token →
    Option (List (String × String) × List Token)
  | versioned, handles, .versionDirective major minor :: tokens =>
    if versioned ∨ major ≠ 1 ∨ (minor ≠ 1 ∧ minor ≠ 2) then none
    else directives? true handles tokens
  | versioned, handles, .tagDirective handle expansion :: tokens =>
    if (lookup handle handles).isSome then none
    else directives? versioned ((handle, expansion) :: handles) tokens
  | _, handles, tokens => some (handles ++ standardHandles, tokens)

/-- The content of the only document of a stream; a stream without one has no content. -/
def ofTokens? (tokens : List Token) : Option Node :=
  let finish (node : Node) (tokens : List Token) : Option Node :=
    if tokens.all (· == .documentEnd) then some node else none
  match tokens with
  | [] => some .missing
  | _ =>
    match directives? false [] tokens with
    | none => none
    | some (handles, .documentStart :: rest) =>
      match rest with
      | [] => some .missing
      | .documentEnd :: _ => finish .missing rest
      | _ =>
        (read? (4 * tokens.length + 4) true false { handles, tokens := rest }).bind
          fun (node, r) => finish node r.tokens
    | some (handles, rest) =>
      if rest.length < tokens.length then none
      else
        (read? (4 * tokens.length + 4) true false { handles, tokens }).bind
          fun (node, r) => finish node r.tokens

end Node

/-- The content of a stream with one document. -/
def parse? (text : String) : Option Node :=
  (tokens? text).bind Node.ofTokens?

end Stageflow.Yaml
