import Cabinet.Binder.Shape
import Cabinet.Json.Skip
import Cabinet.Registry.Config

/-!
Reading the configuration of a registry from JSON text. The text is checked while it is read, so that a
fault is told with its place. A fault of a whole object or list is placed behind it, where its end has
been looked for. Members that mean nothing are passed over; a list of one list of storages stands for
an object.
-/

namespace Cabinet

open Utf8 (Piece)

/-- What is wrong with the text of a configuration. Its place is `ahead` bytes into `rest`; it is only
provisional until the end of what is being read has been looked for. -/
structure Misfit where
  text : String
  rest : List Piece
  ahead : Nat
  settled : Bool

namespace Misfit

def ofFault (f : Json.Fault) : Misfit := ⟨f.cause.message, f.rest, f.ahead, true⟩

/-- Give a misfit its place where it is not settled. -/
def settle (rest : List Piece) (m : Misfit) : Misfit :=
  if m.settled then m else ⟨m.text, rest, 0, true⟩

/-- The message with the line and column. -/
def message (whole : List Piece) (m : Misfit) : String :=
  Json.located m.text (Json.place whole m.rest m.ahead)

end Misfit

namespace RegistryConfig

/-- What a reader gives: a value and the text left after it. -/
abbrev Reading (α : Type) := Except Misfit (α × List Piece)

def syntaxError {α : Type} (cause : Json.Cause) (rest : List Piece) (ahead : Nat) : Reading α :=
  .error (.ofFault ⟨cause, rest, ahead⟩)

/-- A fault whose place is still to be settled. -/
def misfit {α : Type} (text : String) (rest : List Piece) : Except Misfit α :=
  .error ⟨text, rest, 0, false⟩

/-- A fault at the place where the text left begins. -/
def misfitHere {α : Type} (text : String) (rest : List Piece) : Except Misfit α :=
  .error ⟨text, rest, 0, true⟩

def ofJson {α : Type} (r : Json.Result α) : Reading α := r.mapError .ofFault

def duplicateField (name : String) : String := s!"duplicate field \x60{name}\x60"

def missingField (name : String) : String := (ShapeFault.missingField name).message

/-- Refuse a value of the wrong kind. Of a container only the start is looked at. -/
def refuse {α : Type} (expected : String) (rest : List Piece) : Reading α :=
  let here := Json.skipSpace rest
  let wrong := fun (found : String) (at' : List Piece) =>
    misfitHere (ShapeFault.invalidType found expected).message at'
  match here with
  | .char '[' :: _ => wrong "sequence" here
  | .char '\x7b' :: _ => wrong "map" here
  | here =>
    match Json.value 0 here with
    | .error f => .error (.ofFault f)
    | .ok (d, after) => wrong d.found after

def readString (expected : String) (rest : List Piece) : Reading String :=
  match Json.skipSpace rest with
  | .char '"' :: after => ofJson (Json.string after)
  | here => refuse expected here

def readBoolean (rest : List Piece) : Reading Bool :=
  let here := Json.skipSpace rest
  match here with
  | .char 't' :: after => ofJson ((Json.literal ['r', 'u', 'e'] after).map fun _ => true)
  | .char 'f' :: after => ofJson ((Json.literal ['a', 'l', 's', 'e'] after).map fun _ => false)
  | here => refuse "a boolean" here

/-! ### Containers -/

/-- Look for the closing brace of an object. -/
def endObject (rest : List Piece) : Reading Unit :=
  let here := Json.skipSpace rest
  match here with
  | .char '\x7d' :: after => .ok ((), after)
  | .char ',' :: _ => syntaxError .trailingComma here 1
  | [] => syntaxError .endInObject here 0
  | _ => syntaxError .trailingText here 1

/-- Look for the closing bracket of a list. -/
def endList (rest : List Piece) : Reading Unit :=
  let here := Json.skipSpace rest
  match here with
  | .char ']' :: after => .ok ((), after)
  | [] => syntaxError .endInList here 0
  | .char ',' :: after =>
    match Json.skipSpace after with
    | .char ']' :: _ => syntaxError .trailingComma (Json.skipSpace after) 1
    | after => syntaxError .trailingText after 1
  | _ => syntaxError .trailingText here 1

/-- Where the text goes on once its end has been looked for. -/
def behind (close : List Piece → Reading Unit) (rest : List Piece) : List Piece :=
  match close rest with
  | .ok (_, after) => after
  | .error _ => Json.skipSpace rest

/-- Finish the reading of a container: look for its end, also after a fault, which is then placed
there. -/
def finish {α : Type} (close : List Piece → Reading Unit) (r : Reading α) : Reading α :=
  match r with
  | .error m => .error (m.settle (behind close m.rest))
  | .ok (a, rest) => (close rest).map fun e => (a, e.2)

/-- The members of an object after its brace. `step` takes a key and the text after it, and reads the
rest of the member. Each turn uses up some of the text. -/
def readMembers {σ : Type} (step : σ → String → List Piece → Reading σ) :
    Nat → Bool → σ → List Piece → Reading σ
  | 0, _, _, rest => syntaxError .endInObject rest 0
  | fuel + 1, first, s, rest =>
    let next := fun (after : List Piece) =>
      match ofJson (Json.string after) with
      | .error m => .error m
      | .ok (key, after) =>
        match step s key after with
        | .error m => .error m
        | .ok (s, after) => readMembers step fuel false s after
    let here := Json.skipSpace rest
    match here with
    | [] => syntaxError .endInObject here 0
    | p :: after =>
      if p = .char '\x7d' then .ok (s, here)
      else if first then
        if p = .char '"' then next after else syntaxError .keyNotString here 1
      else if p = .char ',' then
        let here := Json.skipSpace after
        match here with
        | [] => syntaxError .endInValue here 0
        | q :: after =>
          if q = .char '"' then next after
          else if q = .char '\x7d' then syntaxError .trailingComma here 1
          else syntaxError .keyNotString here 1
      else syntaxError .expectedCommaOrBrace here 1

def readObject {σ : Type} (step : σ → String → List Piece → Reading σ) (start : σ)
    (after : List Piece) : Reading σ :=
  readMembers step (after.length + 1) true start after

/-- Is there another element in a list? If so, the text from it on. -/
def nextElement (first : Bool) (rest : List Piece) : Except Misfit (Bool × List Piece) :=
  let here := Json.skipSpace rest
  match here with
  | [] => syntaxError .endInList here 0
  | p :: after =>
    if p = .char ']' then .ok (false, here)
    else if first then .ok (true, here)
    else if p = .char ',' then
      let here := Json.skipSpace after
      match here with
      | [] => syntaxError .endInValue here 0
      | q :: _ => if q = .char ']' then syntaxError .trailingComma here 1 else .ok (true, here)
    else syntaxError .expectedCommaOrBracket here 1

/-- The elements of a list after its bracket. -/
def readElements {α : Type} (read : List Piece → Reading α) :
    Nat → Bool → List Piece → Reading (List α)
  | 0, _, rest => syntaxError .endInList rest 0
  | fuel + 1, first, rest =>
    match nextElement first rest with
    | .error m => .error m
    | .ok (false, here) => .ok ([], here)
    | .ok (true, here) =>
      match read here with
      | .error m => .error m
      | .ok (a, after) => (readElements read fuel false after).map fun r => (a :: r.1, r.2)

def readColon (rest : List Piece) : Except Misfit (List Piece) :=
  (Json.colon rest).rest.mapError .ofFault

/-- A member's value after the colon. -/
def readValue {α : Type} (read : List Piece → Reading α) (rest : List Piece) : Reading α :=
  match readColon rest with
  | .error m => .error m
  | .ok after => read after

/-- A document that may open some number of containers. -/
def readDocument (depth : Nat) (rest : List Piece) : Reading Document :=
  ofJson (Json.value depth rest)

/-! ### Backends -/

inductive BackendTag where
  | memory
  | directory
  deriving DecidableEq, Repr

/-- How many containers may be open in the members of a backend. -/
def backendDepth : Nat := Json.depthLimit - 4

def readTag (rest : List Piece) : Reading BackendTag :=
  match readString "variant identifier" rest with
  | .error m => .error m
  | .ok (name, after) =>
    if name = "memory" then .ok (.memory, after)
    else if name = "local" then .ok (.directory, after)
    else
      misfitHere s!"unknown variant \x60{name}\x60, expected \x60memory\x60 or \x60local\x60" after

/-- What is left of a backend beside its tag. -/
inductive BackendBody where
  | members (ms : List (String × Document))
  | elements (es : List Document)

/-- The tag and the other members of a backend so far. -/
structure BackendParts where
  tag : Option BackendTag
  members : List (String × Document)

def backendStep (s : BackendParts) (key : String) (after : List Piece) : Reading BackendParts :=
  if key = "type" then
    if s.tag.isSome then misfit (duplicateField "type") after
    else (readValue readTag after).map fun r => ({ s with tag := some r.1 }, r.2)
  else
    (readValue (readDocument backendDepth) after).map fun r =>
      ({ s with members := s.members ++ [(key, r.1)] }, r.2)

/-- The tag of a backend and what is left beside it. -/
def readBackendParts (rest : List Piece) : Reading (BackendTag × BackendBody) :=
  match Json.skipSpace rest with
  | .char '\x7b' :: after =>
    finish endObject <|
      match readObject backendStep ⟨none, []⟩ after with
      | .error m => .error m
      | .ok (s, rest) =>
        match s.tag with
        | none => misfit (missingField "type") rest
        | some tag => .ok ((tag, .members s.members), rest)
  | .char '[' :: after =>
    finish endList <|
      match nextElement true after with
      | .error m => .error m
      | .ok (false, here) => misfit (missingField "type") here
      | .ok (true, here) =>
        match readTag here with
        | .error m => .error m
        | .ok (tag, rest) =>
          (readElements (readDocument backendDepth) (rest.length + 1) false rest).map fun r =>
            ((tag, .elements r.1), r.2)
  | here => refuse "internally tagged enum BackendConfig" here

def pathOf : Document → Except String String
  | .string s => .ok s
  | d => .error (ShapeFault.invalidType d.found "path string").message

/-- The path among members, of which the others do not matter. -/
def pathAmong (found : Option String) : List (String × Document) → Except String String
  | [] =>
    match found with
    | some path => .ok path
    | none => .error (missingField "path")
  | (key, d) :: rest =>
    if key = "path" then
      if found.isSome then .error (duplicateField "path")
      else
        match pathOf d with
        | .error e => .error e
        | .ok path => pathAmong (some path) rest
    else pathAmong found rest

/-- The backend that a tag and a body make. -/
def makeBackend : BackendTag → BackendBody → Except String BackendConfig
  | .memory, .members _ => .ok .memory
  | .memory, .elements [] => .ok .memory
  | .memory, .elements es =>
    .error (ShapeFault.invalidLength es.length "0 elements in sequence").message
  | .directory, .members ms => (pathAmong none ms).map .directory
  | .directory, .elements [] =>
    .error (ShapeFault.invalidLength 0 "struct variant BackendConfig::Local with 1 element").message
  | .directory, .elements (d :: ds) =>
    match pathOf d with
    | .error e => .error e
    | .ok path =>
      if ds.isEmpty then .ok (.directory path)
      else .error (ShapeFault.invalidLength (ds.length + 1) "1 element in sequence").message

def readBackend (rest : List Piece) : Reading BackendConfig :=
  match readBackendParts rest with
  | .error m => .error m
  | .ok ((tag, body), rest) =>
    match makeBackend tag body with
    | .error text => misfit text rest
    | .ok b => .ok (b, rest)

/-! ### Storages -/

/-- The options among members, of which the others do not matter. An option that is missing is as
usual. -/
structure OptionParts where
  sizeLimit : Option (Option Nat)
  readOnly : Option Bool
  showHidden : Option Bool

def sizeLimitOf : Document → Except String (Option Nat)
  | .null => .ok none
  | d =>
    match Shape.readInteger "u64" .word64 d with
    | .ok (.number (.integer n)) => .ok (some n.val.toNat)
    | .ok _ => .ok none
    | .error e => .error e.message

def booleanOf : Document → Except String Bool
  | .boolean b => .ok b
  | d => .error (ShapeFault.invalidType d.found "a boolean").message

def optionStep (o : OptionParts) (key : String) (d : Document) : Except String OptionParts :=
  if key = "size_limit" then
    if o.sizeLimit.isSome then .error (duplicateField key)
    else (sizeLimitOf d).map fun n => { o with sizeLimit := some n }
  else if key = "read_only" then
    if o.readOnly.isSome then .error (duplicateField key)
    else (booleanOf d).map fun b => { o with readOnly := some b }
  else if key = "show_hidden" then
    if o.showHidden.isSome then .error (duplicateField key)
    else (booleanOf d).map fun b => { o with showHidden := some b }
  else .ok o

def optionsAmong (o : OptionParts) : List (String × Document) → Except String StorageOptions
  | [] => .ok ⟨o.sizeLimit.getD none, o.readOnly.getD false, o.showHidden.getD false⟩
  | (key, d) :: rest =>
    match optionStep o key d with
    | .error e => .error e
    | .ok o => optionsAmong o rest

/-- The members of a storage so far. -/
structure StorageParts where
  name : Option String
  backend : Option BackendConfig
  cached : Option Bool
  others : List (String × Document)

/-- How many containers may be open in the members of a storage. -/
def storageDepth : Nat := Json.depthLimit - 3

def storageStep (s : StorageParts) (key : String) (after : List Piece) : Reading StorageParts :=
  if key = "name" then
    if s.name.isSome then misfit (duplicateField key) after
    else (readValue (readString "a string") after).map fun r => ({ s with name := some r.1 }, r.2)
  else if key = "backend" then
    if s.backend.isSome then misfit (duplicateField key) after
    else (readValue readBackend after).map fun r => ({ s with backend := some r.1 }, r.2)
  else if key = "cache" then
    if s.cached.isSome then misfit (duplicateField key) after
    else (readValue readBoolean after).map fun r => ({ s with cached := some r.1 }, r.2)
  else
    (readValue (readDocument storageDepth) after).map fun r =>
      ({ s with others := s.others ++ [(key, r.1)] }, r.2)

/-- The storage that members make. -/
def makeStorage (s : StorageParts) : Except String StorageConfig :=
  match s.name, s.backend with
  | none, _ => .error (missingField "name")
  | _, none => .error (missingField "backend")
  | some name, some backend =>
    (optionsAmong ⟨none, none, none⟩ s.others).map fun options =>
      ⟨name, backend, options, s.cached.getD false⟩

def readStorage (rest : List Piece) : Reading StorageConfig :=
  match Json.skipSpace rest with
  | .char '\x7b' :: after =>
    finish endObject <|
      match readObject storageStep ⟨none, none, none, []⟩ after with
      | .error m => .error m
      | .ok (s, rest) =>
        match makeStorage s with
        | .error text => misfit text rest
        | .ok c => .ok (c, rest)
  | here => refuse "struct StorageEntry" here

def readStorages (rest : List Piece) : Reading (List StorageConfig) :=
  match Json.skipSpace rest with
  | .char '[' :: after => finish endList (readElements readStorage (after.length + 1) true after)
  | here => refuse "a sequence" here

/-! ### Registries -/

def registryStep (s : Option (List StorageConfig)) (key : String) (after : List Piece) :
    Reading (Option (List StorageConfig)) :=
  if key = "storages" then
    if s.isSome then misfit (duplicateField key) after
    else (readValue readStorages after).map fun r => (some r.1, r.2)
  else
    readValue (fun rest => ((Json.skipValue rest).mapError .ofFault).map fun rest => (s, rest)) after

def readRegistry (rest : List Piece) : Reading RegistryConfig :=
  match Json.skipSpace rest with
  | .char '\x7b' :: after =>
    finish endObject ((readObject registryStep none after).map fun r => (⟨r.1.getD []⟩, r.2))
  | .char '[' :: after =>
    finish endList <|
      match nextElement true after with
      | .error m => .error m
      | .ok (false, here) => .ok (.empty, here)
      | .ok (true, here) => (readStorages here).map fun r => (⟨r.1⟩, r.2)
  | here => refuse "struct RegistryConfig" here

/-- Read a configuration from JSON text, or tell what is wrong with it and where. -/
def parse (text : String) : Except String RegistryConfig :=
  let whole := text.toList.map Piece.char
  let result : Except Misfit RegistryConfig :=
    match readRegistry whole with
    | .error m => .error m
    | .ok (c, rest) =>
      match Json.skipSpace rest with
      | [] => .ok c
      | rest => .error (.ofFault ⟨.trailingText, rest, 1⟩)
  result.mapError fun m => m.message whole

end RegistryConfig

end Cabinet
