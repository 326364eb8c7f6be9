import Cabinet.Storage.Item

/-!
Writing files. Contents go to a draft beside the target, which takes the target's place when all of
them have arrived; after a failure the draft is removed and the target is as it was. The folders above
the target are made first.
-/

namespace Cabinet

/-- What one read of a stream gives. -/
inductive Delivery where
  | bytes (piece : Bytes)
  | interrupted
  | failed (cause : IoError)
  deriving DecidableEq, Repr

/-- Where contents come from. A feed ends after its deliveries, or at an empty one. -/
inductive Source where
  | bytes (contents : Bytes)
  | feed (deliveries : List Delivery)
  | native (name : String)
  | item (i : Item)

/-- A source that has been opened. -/
inductive Stream where
  | feed (deliveries : List Delivery)
  | reader (r : Reader)

/-- How many bytes one read gives at most. -/
def pieceSize : Nat := 8192

/-- Cut bytes into pieces of a size; `room` is what the piece begun, kept backwards, still takes. -/
def cutInto (size : Nat) : Nat → Bytes → Bytes → List Bytes
  | _, held, [] => if held.isEmpty then [] else [held.reverse]
  | 0, held, b :: rest => held.reverse :: cutInto size (size - 1) [b] rest
  | room + 1, held, b :: rest => cutInto size room (b :: held) rest

/-- The reads that bytes take. -/
def deliver (contents : Bytes) : List Delivery :=
  (cutInto pieceSize pieceSize [] contents).map .bytes

/-- The reads that one delivery takes. An empty one stays and ends the stream. -/
def Delivery.reads : Delivery → List Delivery
  | bytes [] => [bytes []]
  | bytes piece => deliver piece
  | other => [other]

namespace Stream

/-- The reads that a stream gives. -/
def reads (w : World) : Stream → List Delivery
  | feed deliveries => deliveries.flatMap Delivery.reads
  | reader r =>
    match r.rest w with
    | .ok contents => deliver contents
    | .error e => [.failed e]

end Stream

namespace Source

/-- The number of bytes, where it is known beforehand. -/
def size? (w : World) : Source → Option Nat
  | bytes contents => some contents.length
  | feed _ => none
  | native name => (Disk.names? name).bind fun names => (w.disk.sizeOf names).toOption
  | item i => (i.size w).toOption

/-- Open a file of the system. -/
def openNative (name : String) (w : World) : Except IoError Reader :=
  match Disk.names? name with
  | none => .error (.refused .noEntry)
  | some names => (w.disk.entry true names).map fun
    | .file number => .file number 0
    | _ => .folder

/-- Open a source whose contents are for a path. -/
def openFor (path : StoragePath) : Source → Query FileError Stream
  | bytes contents => return .feed (deliver contents)
  | feed deliveries => return .feed deliveries
  | native name => fun w => ((openNative name w).mapError (.io path)).map .reader
  | item i => return .reader (← i.openReader)

/-- A source for diagnostics. -/
def inspect : Source → String
  | bytes contents => s!"Bytes({contents.length})"
  | feed _ => "Reader"
  | native name => "NativeFile(" ++ inspectText name ++ ")"
  | item i => "Item(" ++ i.inspect ++ ")"

end Source

/-- Does a number of bytes exceed a limit? -/
def exceeds (total : Nat) : Option Nat → Bool
  | some limit => limit < total
  | none => false

/-- Give reads to a writer until they end, fail, or come to more bytes than allowed. -/
def pour (path : StoragePath) (limit : Option Nat) :
    Nat → List Delivery → Writer → World → Except FileError Unit × Writer × World
  | _, [], x, w => (.ok (), x, w)
  | total, .interrupted :: rest, x, w => pour path limit total rest x w
  | _, .failed e :: _, x, w => (.error (.io path e), x, w)
  | total, .bytes piece :: rest, x, w =>
    let total := total + piece.length
    if piece.isEmpty then (.ok (), x, w)
    else if exceeds total limit then
      (.error (.sizeLimitExceeded path (limit.getD 0)), x, w)
    else
      match x.write piece w with
      | (.error e, x, w) => (.error (.io path e), x, w)
      | (.ok _, x, w) => pour path limit total rest x w

namespace Storage

/-- Refuse a path with a file above it. -/
def requireClear (s : Storage) : List StoragePath → Query FileError Unit
  | [] => return ()
  | p :: rest => do
    match ← s.entry p with
    | some m => if m.isFolder then return () else throw (.notAFolder p)
    | none => requireClear s rest

/-- Make the folders above a path. -/
def prepareParent (s : Storage) (p : StoragePath) : Action FileError Unit := do
  match p.parent? with
  | none => return ()
  | some parent =>
    s.requireClear p.ancestors
    (s.backend.createFolders parent).mapError (.io parent)

end Storage

namespace Item

/-- Where contents are gathered before they take an item's place. -/
def draft (i : Item) : StoragePath :=
  i.path.folder.child s!".{i.name}.partial"

/-- Fill the draft from a stream. Whatever happens, its writer is given up. -/
def fillDraft (i : Item) (stream : Stream) (x : Writer) : Action FileError Unit := fun w =>
  let (r, x, w) := pour i.path i.storage.options.sizeLimit 0 (stream.reads w) x w
  match r with
  | .error e => (.error e, x.close w)
  | .ok _ =>
    let (r, x, w) := x.flush w
    (r.mapError (.io i.path), x.close w)

/-- Fill the draft and let it take the item's place. -/
def replace (i : Item) (stream : Stream) (x : Writer) : Action FileError Unit := do
  i.fillDraft stream x
  (i.storage.backend.rename i.draft i.path).mapError (.io i.path)

/-- Do a last step: forget what is known around the item, and remove the draft after a failure. -/
def settle (i : Item) (step : Action FileError Unit) : Action FileError Item := fun w =>
  match step w with
  | (.ok _, w) => (.ok i, i.storage.invalidate i.path w)
  | (.error e, w) => (.error e, (i.storage.backend.removeFile i.draft (i.storage.invalidate i.path w)).2)

/-- Refuse a path that contents of a source may not be written to. -/
def requireTarget (i : Item) (source : Source) : Query FileError Unit := do
  if i.path.isRoot then throw (.folderExists i.path)
  if (← i.storage.entry i.path).any EntryMeta.isFolder then throw (.folderExists i.path)
  match i.storage.options.sizeLimit, source.size? (← read) with
  | some limit, some size => if limit < size then throw (.sizeLimitExceeded i.path limit)
  | _, _ => return ()

/-- Write contents to an item and give the item. An item written to itself stays as it is. -/
def write (i : Item) (source : Source) : Action FileError Item := do
  i.validate
  (i.storage.checkWritable : Except FileError Unit)
  if i.storage.hides i.path then throw (.hidden i.path)
  let itself := match source with
    | .item other => other.same i
    | _ => false
  if itself then return i
  i.requireTarget source
  i.storage.prepareParent i.path
  let stream ← source.openFor i.path
  let x ← (i.storage.backend.openWrite i.draft).mapError (.io i.path)
  i.settle (i.replace stream x)

/-- Write contents to the item that a name means in a folder. -/
def create (i : Item) (name : String) (source : Source) : Action FileError Item := do
  (← i.file name).write source

end Item

end Cabinet
