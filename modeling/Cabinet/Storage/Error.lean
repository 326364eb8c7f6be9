import Cabinet.Error
import Cabinet.Storage.Path
import Cabinet.Text.Utf8

/-!
What can go wrong with entries of a storage, and how it is told: refusals of the system, failures of
one backend operation, and failures of what a caller asked of an item.
-/

namespace Cabinet

/-- The classes of failures of input and output. -/
inductive IoKind where
  | notFound
  | permissionDenied
  | alreadyExists
  | notADirectory
  | isADirectory
  | directoryNotEmpty
  | invalidInput
  | invalidData
  | invalidFilename
  | linkLoop
  | unsupported
  | connectionReset
  | other
  deriving DecidableEq, Repr

def IoKind.name : IoKind → String
  | notFound => "NotFound"
  | permissionDenied => "PermissionDenied"
  | alreadyExists => "AlreadyExists"
  | notADirectory => "NotADirectory"
  | isADirectory => "IsADirectory"
  | directoryNotEmpty => "DirectoryNotEmpty"
  | invalidInput => "InvalidInput"
  | invalidData => "InvalidData"
  | invalidFilename => "InvalidFilename"
  | linkLoop => "FilesystemLoop"
  | unsupported => "Unsupported"
  | connectionReset => "ConnectionReset"
  | other => "Other"

/-- Refusals of the system's file calls. -/
inductive Refusal where
  | noEntry
  | entryExists
  | notADirectory
  | isADirectory
  | invalidArgument
  | nameTooLong
  | notEmpty
  | tooManyLinks
  deriving DecidableEq, Repr

namespace Refusal

def kind : Refusal → IoKind
  | noEntry => .notFound
  | entryExists => .alreadyExists
  | notADirectory => .notADirectory
  | isADirectory => .isADirectory
  | invalidArgument => .invalidInput
  | nameTooLong => .invalidFilename
  | notEmpty => .directoryNotEmpty
  | tooManyLinks => .linkLoop

def message : Refusal → String
  | noEntry => "No such file or directory (os error 2)"
  | entryExists => "File exists (os error 17)"
  | notADirectory => "Not a directory (os error 20)"
  | isADirectory => "Is a directory (os error 21)"
  | invalidArgument => "Invalid argument (os error 22)"
  | nameTooLong => "File name too long (os error 36)"
  | notEmpty => "Directory not empty (os error 39)"
  | tooManyLinks => "Too many levels of symbolic links (os error 40)"

end Refusal

/-- The operations of a backend and of the writers it opens. -/
inductive Operation where
  | metadata
  | openRead
  | openWrite
  | list
  | createFolders
  | removeFile
  | removeFolder
  | rename
  | write
  | flush
  deriving DecidableEq, Repr

def Operation.all : List Operation :=
  [.metadata, .openRead, .openWrite, .list, .createFolders, .removeFile, .removeFolder, .rename, .write, .flush]

def Operation.name : Operation → String
  | metadata => "metadata"
  | openRead => "open_read"
  | openWrite => "open_write"
  | list => "list"
  | createFolders => "create_dir_all"
  | removeFile => "remove_file"
  | removeFolder => "remove_dir_all"
  | rename => "rename"
  | write => "write"
  | flush => "flush"

/-- Why one operation on contents or on a backend failed. -/
inductive IoError where
  | refused (cause : Refusal)
  | walk (native : String) (cause : IoError)
  | zeroInName
  | missing (path : StoragePath)
  | notAFolder (path : StoragePath)
  | isAFolder (path : StoragePath)
  | replacesRoot
  | movesInto (source target : StoragePath)
  | throughLink (path : StoragePath)
  | rootNotADirectory
  | rootNotWritable
  | injected (operation : Operation)
  | noTime
  | notText (fault : Utf8.Fault)
  | notTextFile
  | reset
  deriving DecidableEq, Repr

namespace IoError

def kind : IoError → IoKind
  | refused cause => cause.kind
  | walk _ cause => cause.kind
  | zeroInName => .invalidInput
  | missing _ => .notFound
  | notAFolder _ => .other
  | isAFolder _ => .other
  | replacesRoot => .other
  | movesInto _ _ => .other
  | throughLink _ => .permissionDenied
  | rootNotADirectory => .other
  | rootNotWritable => .other
  | injected _ => .other
  | noTime => .unsupported
  | notText _ => .invalidData
  | notTextFile => .invalidData
  | reset => .connectionReset

def message : IoError → String
  | refused cause => cause.message
  | walk native cause => s!"IO error for operation on {native}: {cause.message}"
  | zeroInName => "file name contained an unexpected NUL byte"
  | missing path => s!"{path.text} does not exist"
  | notAFolder path => s!"{path.text} is not a folder"
  | isAFolder path => s!"{path.text} is a folder"
  | replacesRoot => "the root cannot be replaced"
  | movesInto source target => s!"cannot move {source.text} into {target.text}"
  | throughLink path => s!"{path.text} passes through a symbolic link"
  | rootNotADirectory => "Root path must be a directory."
  | rootNotWritable => "Root directory must be writable"
  | injected operation => s!"injected {operation.name} failure"
  | noTime => "the backend keeps no modification time"
  | notText fault => fault.message
  | notTextFile => "stream did not contain valid UTF-8"
  | reset => "connection reset"

end IoError

/-- Why what was asked of a storage or an item was not done. -/
inductive FileError where
  | closed (storage : String)
  | notFound (path : StoragePath)
  | hidden (path : StoragePath)
  | notAFile (path : StoragePath)
  | notAFolder (path : StoragePath)
  | folderExists (path : StoragePath)
  | sizeLimitExceeded (path : StoragePath) (limit : Nat)
  | escape (name : String)
  | copyIntoSelf (path : StoragePath)
  | readOnly (storage : String)
  | invalidRoot (native : String) (cause : IoError)
  | metadata (cause : DocumentError)
  | io (path : StoragePath) (cause : IoError)
  /-- A copy that meets its own results level after level, and would never end. -/
  | endless (path : StoragePath)
  deriving DecidableEq, Repr

namespace FileError

/-- The name of a kind of failure. -/
def kindName : FileError → String
  | closed _ => "Closed"
  | notFound _ => "NotFound"
  | hidden _ => "Hidden"
  | notAFile _ => "NotAFile"
  | notAFolder _ => "NotAFolder"
  | folderExists _ => "FolderExists"
  | sizeLimitExceeded .. => "SizeLimitExceeded"
  | escape _ => "Escape"
  | copyIntoSelf _ => "CopyIntoSelf"
  | readOnly _ => "ReadOnly"
  | invalidRoot .. => "InvalidRoot"
  | metadata _ => "Metadata"
  | io .. => "Io"
  | endless _ => "Endless"

def message : FileError → String
  | closed storage => s!"storage '{storage}' is closed"
  | notFound path => s!"'{path.text}' does not exist"
  | hidden path => s!"'{path.text}' is hidden"
  | notAFile path => s!"can't stream folder '{path.text}'"
  | notAFolder path => s!"'{path.text}' is not a folder"
  | folderExists path => s!"'{path.text}' is an existing folder"
  | sizeLimitExceeded path limit => s!"'{path.text}' exceeds the size limit of {limit} bytes"
  | escape name => s!"'{name}' escapes the storage root"
  | copyIntoSelf path => s!"can't copy '{path.text}' into itself"
  | readOnly storage => s!"storage '{storage}' is read-only"
  | invalidRoot native cause => s!"invalid storage root {native}: {cause.message}"
  | metadata cause => s!"metadata error: {cause.message}"
  | io path cause => s!"I/O error on '{path.text}': {cause.message}"
  | endless path => s!"the copy of '{path.text}' does not end"

/-- Did input or output fail, or was a folder asked for contents? -/
def isIo : FileError → Bool
  | io .. => true
  | notAFile _ => true
  | _ => false

/-- The message to those who need not tell the causes apart. -/
def guarded (e : FileError) : String := s!"storage operation failed: {e.message}"

end FileError

/-- The path that a name means at a path. -/
def StoragePath.resolve (p : StoragePath) (name : String) : Except FileError StoragePath :=
  match p.resolve? name with
  | some q => .ok q
  | none => .error (.escape name)

/-- The path that a name means at the root. -/
def StoragePath.parse (name : String) : Except FileError StoragePath :=
  StoragePath.root.resolve name

end Cabinet
