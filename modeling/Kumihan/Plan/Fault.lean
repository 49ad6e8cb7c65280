import Kumihan.Files.Fault
import Kumihan.Plan.Mapping
import Kumihan.Text.Utf8
import Kumihan.Yaml.Fault

/-!
# Faults of what a book is made from

## Main definitions

* `ConfigFault` — a plan, a manuscript, a style sheet or a picture is missing or
  cannot be used.
-/

namespace Kumihan

/-- What a book is made from is missing or cannot be used. -/
inductive ConfigFault
  /-- Nothing stands where the plan should be. -/
  | noPlanFile (path : String)
  /-- The file of the plan cannot be read. -/
  | unreadablePlan (path : String) (fault : Files.Fault)
  /-- The plan is not written as it should be. -/
  | malformedPlan (path : String) (complaint : Yaml.Complaint)
  /-- The plan is something else than a mapping. -/
  | notMapping (file kind : String)
  /-- The plan lacks fields. -/
  | missingFields (fault : MissingFields)
  /-- The file of the manuscript cannot be read. -/
  | unreadableText (path : String) (fault : Files.Fault)
  /-- The manuscript is no text. -/
  | undecodableText (path : String) (fault : Text.DecodeFault)
  /-- A file that every book needs is nowhere. -/
  | missingArtifact (file dir : String)
  /-- A picture cannot be read. -/
  | unreadablePicture (path : String) (fault : Files.Fault)
  deriving DecidableEq, Repr

/-- What is said of the fault. -/
def ConfigFault.message : ConfigFault → String
  | noPlanFile path => s!"No plan file found at {path}"
  | unreadablePlan path fault => s!"Could not read plan {path}: " ++ fault.message
  | malformedPlan path complaint => s!"Could not read plan {path}: " ++ complaint.message
  | notMapping file kind => s!"{file} must be a YAML mapping, got {kind}"
  | missingFields fault => fault.message
  | unreadableText path fault => s!"Could not read raw text {path}: " ++ fault.message
  | undecodableText path fault => s!"Could not read raw text {path}: " ++ fault.message
  | missingArtifact file dir =>
    "Could not find `" ++ file ++ "` in " ++ Files.Path.join dir "artifacts" ++ ", " ++ dir
      ++ " or the bundled artifacts"
  | unreadablePicture path fault => s!"Could not read image {path}: " ++ fault.message

end Kumihan
