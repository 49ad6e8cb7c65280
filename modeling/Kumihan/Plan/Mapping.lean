import Kumihan.Data.Printed
import Kumihan.Files.Path
import Kumihan.Plan.Basic
import Kumihan.Plan.Identifier

/-!
# Plans from data

A plan is read from a mapping with seven required fields and an optional
identifier.  A field whose value is nothing, false, zero or empty counts as left
out.

## Main definitions

* `requiredFields`, `MissingFields`, `MappingFault`.
* `LoadedPlan.ofMapping`.
* `LoadedPlan.rawPath`, `BookPlan.rawPath` — the path of the manuscript.
-/

namespace Kumihan

open Data (Value)

/-- The fields that every plan has. -/
def requiredFields : List String :=
  ["title", "author", "lang", "generator", "toc_name", "cover_image", "raw"]

/-- A plan lacks required fields. -/
structure MissingFields where
  /-- Their names, in the order of `requiredFields`. -/
  names : List String
  deriving DecidableEq, Repr

/-- What is said of missing fields. -/
def MissingFields.message (fault : MissingFields) : String :=
  "plan missing required fields: " ++ String.intercalate ", " fault.names

/-- Why a mapping gives no plan. -/
inductive MappingFault
  /-- Required fields are missing. -/
  | missing (fault : MissingFields)
  /-- A field holds a number that is too long to be printed. -/
  | longNumeral
  /-- The title or the author, which name the book, cannot be written. -/
  | unencodable (fault : Text.EncodeFault)
  deriving DecidableEq, Repr

/-- What is said of the fault. -/
def MappingFault.message : MappingFault → String
  | missing fault => fault.message
  | longNumeral => Data.numeralTooLong none
  | unencodable fault => fault.message

namespace LoadedPlan

/-- A field is left out, or its value counts as left out. -/
def lacks (entries : List (Value × Value)) (name : String) : Bool :=
  ((Value.field? entries name).map Value.isBlank).getD true

/-- The value of a field, nothing for one that is not there. -/
def fieldValue (entries : List (Value × Value)) (name : String) : Value :=
  (Value.field? entries name).getD .null

/-- The text of a field. -/
def fieldText (entries : List (Value × Value)) (name : String) : List Text.Letter :=
  (fieldValue entries name).asLetters

/-- The identifier of a book: its own, or else the one that its title and its author give. -/
def identifierOf (entries : List (Value × Value)) : Except Text.EncodeFault Value :=
  if lacks entries "identifier" then
    .text <$> derivedIdentifier (fieldText entries "title") (fieldText entries "author")
  else .ok (fieldValue entries "identifier")

/-- The plan of a mapping, for the directory that the plan lies in. -/
def ofMapping (entries : List (Value × Value)) (dir : String := ".") :
    Except MappingFault LoadedPlan :=
  match requiredFields.filter (lacks entries) with
  | [] =>
    if requiredFields.any fun name => (fieldValue entries name).hasLongNumeral then
      .error .longNumeral
    else match identifierOf entries with
      | .error fault => .error (.unencodable fault)
      | .ok identifier =>
        .ok
          { identifier, dir
            title := fieldText entries "title"
            author := fieldText entries "author"
            lang := fieldText entries "lang"
            generator := fieldText entries "generator"
            tocName := fieldText entries "toc_name"
            coverImage := fieldText entries "cover_image"
            raw := fieldText entries "raw" }
  | names => .error (.missing ⟨names⟩)

/-- The path of the manuscript: relative to the directory of the plan. -/
def rawPath (plan : LoadedPlan) : List Text.Letter :=
  Files.Path.joinLetters (Text.letters plan.dir.toList) plan.raw

end LoadedPlan

/-- The path of the manuscript: relative to the directory of the plan. -/
def BookPlan.rawPath (plan : BookPlan) : String := Files.Path.join plan.dir plan.raw

@[simp] theorem BookPlan.rawPath_loaded (plan : BookPlan) :
    plan.loaded.rawPath = Text.letters plan.rawPath.toList :=
  Files.Path.joinLetters_letters plan.dir plan.raw

end Kumihan
