import PageMark.CommandLine.Run
import PageMark.Text.Styles

/-!
# The command

The world of a run is gathered from the machine: the input, the file that the
arguments name, and the folder for the result.  After the run its files are
saved and its words are printed.  Pages of the web are out of reach here, and a
summary is the page itself.
-/

namespace PageMark.CommandLine.Machine

/-- The bytes of a stream up to its end. -/
partial def readToEnd (stream : IO.FS.Stream) (collected : ByteArray) : IO ByteArray := do
  let chunk ← stream.read 65536
  if chunk.isEmpty then return collected
  readToEnd stream (collected ++ chunk)

def unreachable : Transport Unit := fun network _ =>
  (.error { kind := noConnection, message := "The web is out of reach".toList }, network)

def isFolder (path : String) : IO Bool := do
  let entry : IO.FS.DirEntry := { root := path, fileName := "." }
  entry.path.isDir

/-- The file that a run may read, if there is one. -/
def storedFile (path : Text) : IO (List StoredFile) := do
  try
    let content ← IO.FS.readBinFile (String.ofList path)
    return [{ place := FilePath.steps path, content := content.toList }]
  catch _ => return []

/-- The folder that a run may write to, if there is one. -/
def storedFolder (path : Text) : IO (List Place) := do
  if ← isFolder (String.ofList path) then return [FilePath.steps path] else return []

def worldOf (invocation : Invocation) : IO (World Unit) := do
  let fromInput := invocation.source = ['-']
  let input ←
    if fromInput then readToEnd (← IO.getStdin) ByteArray.empty else pure ByteArray.empty
  let files ← if fromInput then pure [] else storedFile invocation.source
  let folders ←
    match invocation.output with
    | some output => if output.isEmpty then pure [] else storedFolder output
    | none => pure []
  return {
    files := { files := files, folders := folders }
    input := input.toList
    network := ()
    transport := fun _ => unreachable
    summarise := fun page _ => page
    readStyles := Text.readStyles?
    base := true }

def emptyWorld : World Unit where
  files := { files := [], folders := [] }
  input := []
  network := ()
  transport := fun _ => unreachable
  summarise := fun page _ => page
  readStyles := Text.readStyles?
  base := true

def pathOf (place : Place) : String :=
  String.ofList (Text.joinWith ['/'] place)

/-- Files that a run has written are saved with the folders they need. -/
def saveChanges (before after : FileTree) : IO Unit := do
  for file in after.files do
    if before.file? file.place != some file then
      if 1 < file.place.length then
        IO.FS.createDirAll (pathOf file.place.dropLast)
      IO.FS.writeBinFile (pathOf file.place) (ByteArray.mk file.content.toArray)

def crashMessage : Crash → Text
  | .undecodableInput => "The input is not UTF-8".toList
  | .selector error => error.message.toList
  | .conversion failure => failure.message.toList
  | .fetch error => error.message
  | .address error => error.message.toList
  | .storage .fileInPlaceOfFolder => "A file stands in place of the folder".toList
  | .storage .fileOnTheWay => "A file stands on the way to the folder".toList
  | .storage .isFolder => "The result is a folder".toList
  | .storage .nameTooLong => "A name is too long".toList
  | .styles => "The styles in a line do not match".toList

end PageMark.CommandLine.Machine

open PageMark PageMark.CommandLine PageMark.CommandLine.Machine in
def main (arguments : List String) : IO UInt32 := do
  let texts := arguments.map String.toList
  let world ←
    match demandOf texts with
    | .ok (.conversion invocation) => worldOf invocation
    | _ => pure emptyWorld
  let outcome := run world texts
  saveChanges world.files outcome.log.files
  IO.print (String.ofList outcome.log.output)
  IO.eprint (String.ofList outcome.log.errors)
  match outcome.crash with
  | some crash => IO.eprint (String.ofList (complaint (crashMessage crash)))
  | none => pure ()
  return UInt32.ofNat outcome.status
