/-
BindingPipeline/Metadata/Encode.lean

The file contents of a module in each format.
-/
import BindingPipeline.Metadata.Document
import BindingPipeline.Metadata.PythonText

namespace BindingPipeline.Metadata

/-- The text of a module in the format, as a list of characters. -/
def Format.characters (f : Format) (m : Module) : List Char :=
  match f with
  | .python => PythonText.text m
  | .json => m.document.pretty 0 ++ ['\n']

/-- The text of a module in the format. -/
def Format.encode (f : Format) (m : Module) : String := String.ofList (f.characters m)

end BindingPipeline.Metadata
