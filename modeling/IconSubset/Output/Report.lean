import IconSubset.Output.Format
import IconSubset.Scan.Report

/-!
# Answers of the commands

What the commands answer, as JSON values. The order of the fields is that in which they are printed.
An answer with a path in it has a value only when the path is a text.
-/

namespace IconSubset

/-- A skipped file as a JSON value. -/
def SkippedFile.toJson (f : SkippedFile) : Except AnswerError Json.Value := do
  return .object [("path", ← f.path.toJson), ("reason", .string f.reason.name),
    ("message", .string f.message)]

/-- The outcome of a scan as a JSON value. -/
def ScanReport.toJson (r : ScanReport) : Except AnswerError Json.Value := do
  return .object [("icons", .ofStrings r.icons.toList), ("files_scanned", .ofNat r.filesScanned),
    ("skipped", .array (← r.skipped.mapM SkippedFile.toJson))]

/-- The address of a stylesheet, with its style and the number of its icons. -/
structure AddressAnswer where
  /-- The style of the font. -/
  variant : Variant
  /-- The number of icons. -/
  icons : Nat
  /-- The address. -/
  url : String
deriving DecidableEq, Repr, Inhabited

/-- The answer as a JSON value. -/
def AddressAnswer.toJson (a : AddressAnswer) : Json.Value :=
  .object [("variant", .string a.variant.name), ("icons", .ofNat a.icons), ("url", .string a.url)]

/-- What is told of a document that was written to a file. -/
structure WritingAnswer where
  /-- The path of the file. -/
  output : ByteString
  /-- The outcome of the scan. -/
  report : ScanReport
deriving DecidableEq, Inhabited

/-- The answer as a JSON value. -/
def WritingAnswer.toJson (a : WritingAnswer) : Except AnswerError Json.Value := do
  return .object [("output", ← a.output.toJson), ("icons", .ofNat a.report.icons.size),
    ("files_scanned", .ofNat a.report.filesScanned),
    ("files_skipped", .ofNat a.report.skipped.length)]

end IconSubset
