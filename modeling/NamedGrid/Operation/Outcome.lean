import NamedGrid.Operation.Build
import NamedGrid.Operation.Listing

/-!
# Outcomes

Every operation ends in an outcome of the same form: its name, data by key, warnings,
and, if it failed, an error with a code, a message and details. Renderings read this
form alone.
-/

namespace NamedGrid

/-- Why an operation failed. -/
structure Failure where
  code : Text
  message : Text
  detail : List (Text × Value)

/-- How an operation ended. -/
structure Outcome where
  succeeded : Bool
  operation : Text
  data : List (Text × Value)
  warnings : List Text
  failure : Option Failure

namespace Value

/-- The value of texts. -/
def ofTexts (texts : List Text) : Value := list (texts.map text)

/-- The value of a count. -/
def ofNat (n : Nat) : Value := int n

end Value

namespace BuildReport

/-- The data of a build. -/
def data (report : BuildReport) : List (Text × Value) :=
  [("layouts".toList, .ofNat report.layouts), ("areas".toList, .ofNat report.areas),
    ("rules".toList, .ofNat report.rules), ("arbitrary".toList, .ofNat report.bracketed),
    ("files_scanned".toList, .ofNat report.filesScanned),
    match report.destination with
    | .file path => ("output".toList, .text path.toText)
    | .report css => ("css".toList, .text css)]

end BuildReport

namespace AreasReport

/-- The value of one area. -/
def itemValue (listing : AreaListing) : Value :=
  .record
    [("area".toList, .text listing.area), ("layouts".toList, .ofTexts listing.layouts),
      ("classes".toList, .ofTexts listing.classes)]

/-- The value of one layout. -/
def layoutValue (layout : Layout) : Value :=
  .record
    [("name".toList, .text layout.name), ("rows".toList, .ofTexts layout.rows),
      ("row_tracks".toList, .ofOptionalText layout.rowTracks),
      ("col_tracks".toList, .ofOptionalText layout.colTracks)]

/-- The data of a listing. -/
def data (report : AreasReport) : List (Text × Value) :=
  [("items".toList, .list (report.areas.map itemValue)),
    ("layouts".toList, .list (report.layouts.map layoutValue)),
    ("count".toList, .ofNat report.areas.length)]

end AreasReport

namespace ResolvedClass

/-- The value of one class. -/
def value (resolved : ResolvedClass) : Value :=
  .record
    [("class".toList, .text resolved.className),
      ("declaration".toList,
        .record (resolved.properties.entries.map fun p => (p.1, .text p.2))),
      ("css".toList, .text resolved.css)]

/-- The data of classes that were looked up. -/
def dataOfAll (classes : List ResolvedClass) : List (Text × Value) :=
  [("items".toList, .list (classes.map value)), ("count".toList, .ofNat classes.length)]

end ResolvedClass

/-- The failure that a malformed layout causes; what the fault does not blame is left out. -/
def LayoutFault.failure (fault : LayoutFault) : Failure :=
  { code := "MALFORMED_LAYOUT".toList
    message := fault.message
    detail :=
      (fault.layout?.map fun layout => ("layout".toList, Value.text layout)).toList ++
        (fault.row?.map fun row => ("row".toList, Value.ofNat row)).toList }

/-- The name of the build operation. -/
def buildOperation : Text := "build".toList

/-- The name of the operation that lists areas. -/
def areasOperation : Text := "list_areas".toList

/-- The name of the operation that looks classes up. -/
def resolveOperation : Text := "resolve".toList

namespace Outcome

/-- A failed operation. -/
def failed (operation : Text) (failure : Failure) : Outcome :=
  { succeeded := false, operation, data := [], warnings := [], failure := some failure }

/-- The names under which a report of a failure gives its parts; no detail can have one of
them beside its part. -/
def partNames : List Text := ["cls".toList, "op".toList, "code".toList, "message".toList]

/-- The outcome of a failure that is reported with details, unless one has the name of
a part. -/
def ofReport? (operation : Text) (failure : Failure) : Option Outcome :=
  if failure.detail.any fun field => partNames.contains field.1 then none
  else some (failed operation failure)

/-- The outcome of an answer. -/
def ofAnswer {α : Type} (operation : Text) (data : α → List (Text × Value)) :
    Answer α → Outcome
  | .report report warnings =>
    { succeeded := true, operation, data := data report, warnings, failure := none }
  | .malformed fault => failed operation fault.failure

/-- The outcome of a build. -/
def ofBuild : Answer BuildReport → Outcome := ofAnswer buildOperation BuildReport.data

/-- The outcome of a listing. -/
def ofAreas : Answer AreasReport → Outcome := ofAnswer areasOperation AreasReport.data

/-- The outcome of looking classes up. -/
def ofResolve : Answer (List ResolvedClass) → Outcome :=
  ofAnswer resolveOperation ResolvedClass.dataOfAll

/-- The value of a failure. -/
def failureValue (failure : Failure) : Value :=
  .record
    [("code".toList, .text failure.code), ("message".toList, .text failure.message),
      ("detail".toList, .record failure.detail)]

/-- The value of an outcome. -/
def toValue (outcome : Outcome) : Value :=
  .record
    [("ok".toList, .bool outcome.succeeded), ("op".toList, .text outcome.operation),
      ("data".toList, .record outcome.data), ("warnings".toList, .ofTexts outcome.warnings),
      ("error".toList, (outcome.failure.map failureValue).getD .null)]

end Outcome

end NamedGrid
