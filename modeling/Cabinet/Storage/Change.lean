import Cabinet.Storage.Write

/-!
Making folders, deleting, renaming and copying items.
-/

namespace Cabinet.Item

/-- Make a folder under a name. One that is there already is given. -/
def createFolder (i : Item) (name : String) : Action FileError Item := do
  let target ← i.file name
  (i.storage.checkWritable : Except FileError Unit)
  if i.storage.hides target.path then throw (.hidden target.path)
  match ← i.storage.entry target.path with
  | some m => if m.isFolder then return target else throw (.notAFolder target.path)
  | none =>
    i.storage.prepareParent target.path
    (i.storage.backend.createFolders target.path).mapError (.io target.path)
    modify (i.storage.invalidate target.path)
    return target

/-- Remove entries of any kind. A path without an entry is passed over. -/
def removeEach (b : Backend) : List StoragePath → Action IoError Unit
  | [] => return ()
  | p :: rest => do
    match ← b.metadata p with
    | some m => if m.isFolder then b.removeFolder p else b.removeFile p
    | none => pure ()
    removeEach b rest

/-- Remove an entry of the backend; of the root, what is in it. -/
def removeEntry (i : Item) (m : EntryMeta) : Action IoError Unit := do
  let b := i.storage.backend
  if i.path.isRoot then removeEach b ((← b.list i.path).map i.path.child)
  else if m.isFolder then b.removeFolder i.path
  else b.removeFile i.path

/-- Delete an item with everything below it. The root stays, empty. -/
def delete (i : Item) : Action FileError Unit := do
  (i.storage.checkWritable : Except FileError Unit)
  let m ← i.requireEntry
  (i.removeEntry m).mapError (.io i.path)
  modify (i.storage.invalidate i.path)

/-- Move an item to where a name leads from its folder. A file there is replaced. -/
def rename (i : Item) (name : String) : Action FileError Item := do
  (i.storage.checkWritable : Except FileError Unit)
  let _ ← i.requireEntry
  let target ← (i.sibling name : Except FileError Item)
  if target.path = i.path then return target
  if i.storage.hides target.path then throw (.hidden target.path)
  if (← i.storage.entry target.path).any EntryMeta.isFolder then throw (.folderExists target.path)
  i.storage.prepareParent target.path
  (i.storage.backend.rename i.path target.path).mapError (.io i.path)
  modify fun w => i.storage.invalidate target.path (i.storage.invalidate i.path w)
  return target

/-- Copy an item into a folder, going down a number of levels. What a folder contains is listed before
its copy is made. -/
def copyDown : Nat → Item → Item → Action FileError Item
  | 0, i, _ => throw (.endless i.path)
  | levels + 1, i, folder => do
    let m ← i.requireEntry
    if m.isFile then folder.create i.name (.item i)
    else
      if folder.storage.same i.storage && folder.path.startsWith i.path then
        throw (.copyIntoSelf i.path)
      let children ← i.list .all
      let copy ← folder.createFolder i.name
      children.forM fun child => discard (copyDown levels child copy)
      return copy

/-- Copy an item into a folder, with everything below it. There is a level for every entry, and no
more are needed unless the copy meets itself again and again. -/
def copyTo (i folder : Item) : Action FileError Item := do
  copyDown (i.storage.backend.levels (← get)) i folder

end Cabinet.Item
