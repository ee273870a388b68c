import VectorIcon.Text.Blank

/-!
What stands below a folder. Paths with the same steps lead to the same place.
-/

namespace VectorIcon

inductive Place where
  | file (contents : List UInt8)
  | folder

/-- What stands below one folder, by the steps that lead there from the top. -/
structure Folder where
  places : List (List (List Char) × Place)

namespace Folder

def empty : Folder := ⟨[]⟩

def put (folder : Folder) (steps : List (List Char)) (place : Place) : Folder :=
  ⟨(steps, place) :: folder.places.filter fun known => known.1 != steps⟩

def staysHere (step : List Char) : Bool :=
  step.isEmpty || step == ['.']

def makeFolders (folder : Folder) (here : List (List Char)) :
    List (List Char) → Folder × List (List Char)
  | [] => (folder, here)
  | step :: rest =>
      if staysHere step then makeFolders folder here rest
      else if step == ['.', '.'] then makeFolders folder here.dropLast rest
      else makeFolders (folder.put (here ++ [step]) .folder) (here ++ [step]) rest

/-- Writes a file and the folders above it; of two files at one place the later one stays. -/
def write (folder : Folder) (path : String) (contents : List UInt8) : Folder :=
  let steps := Text.split (· == '/') path.toList
  let (folder, above) := folder.makeFolders [] steps.dropLast
  folder.put (above ++ steps.getLast?.toList) (.file contents)

def ofFiles (files : List (String × List UInt8)) : Folder :=
  files.foldl (fun folder file => folder.write file.1 file.2) empty

end Folder

end VectorIcon
