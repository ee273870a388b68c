import VectorIcon.Gallery

/-!
The command line: writes the gallery page of the files that are named.
-/

namespace VectorIcon.CommandLine

def usage : List String :=
  ["Usage: vectoricon <command>",
    "Commands:",
    "  preview-html FILES    Generate an HTML page previewing every file conversion"]

def readFile (path : String) : IO (String × List UInt8) := do
  let name := (Path.fileName? path).getD path
  IO.eprintln ("Processing " ++ name ++ "...")
  let contents ← IO.FS.readBinFile path
  return (name, contents.toList)

def writeGallery (paths : List String) : IO Unit := do
  let files ← paths.mapM readFile
  IO.FS.writeFile "preview.html" (Gallery.page (Folder.ofFiles files))
  IO.println "Generated preview at: preview.html"

def run : List String → IO UInt32
  | [] => do
      for line in usage do IO.eprintln line
      return 1
  | "preview-html" :: paths => do
      writeGallery paths
      return 0
  | command :: _ => do
      IO.eprintln ("Unknown command: " ++ command)
      return 1

end VectorIcon.CommandLine

def main (arguments : List String) : IO UInt32 :=
  VectorIcon.CommandLine.run arguments
