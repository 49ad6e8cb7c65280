import Kumihan.Book.Contents
import Kumihan.Book.Picture
import Kumihan.Lint.Blemish
import Kumihan.Text.Quoted

/-!
# Findings

What is found in a manuscript, each at its line, and the report that collects it.

## Main definitions

* `Issue`, `Issue.severity`, `Issue.message`.
* `Finding`, `Report`, `Report.add`.
* `Report.written` — the report as it is printed.
-/

namespace Kumihan.Lint

open Book (UnsupportedPicture TocMismatch)
open Markup (PunctuationRule)

/-- What can be found. -/
inductive Issue
  /-- The manuscript is no text. -/
  | undecodable
  /-- A blemish was removed. -/
  | removed (blemish : Blemish)
  /-- A blemish can be removed. -/
  | removable (blemish : Blemish) (text : List Char)
  /-- Punctuation will be changed. -/
  | punctuation (rule : PunctuationRule) (text : List Char)
  /-- A line names no known directive. -/
  | unknownDirective (name : String)
  /-- A picture's type is not supported. -/
  | unsupportedPicture (fault : UnsupportedPicture)
  /-- A picture is not in the directory of pictures. -/
  | missingPicture (dir file : String)
  /-- Text is not closed by a directive. -/
  | unclosedText
  /-- The table of contents does not fit the pages. -/
  | tocMismatch (fault : TocMismatch)
  /-- The numbers of listed chapters and of chapters differ. -/
  | chapterCount (listed chapters : Nat)
  deriving Repr

/-- How much an issue matters. -/
def Issue.severity : Issue → Severity
  | undecodable | unknownDirective _ | unsupportedPicture _ | missingPicture _ _
  | tocMismatch _ => .error
  | removed blemish | removable blemish _ => blemish.severity
  | punctuation _ _ => .info
  | unclosedText | chapterCount _ _ => .warning

/-- What is said of an issue. -/
def Issue.message : Issue → String
  | undecodable => "Cannot read (encoding error)"
  | removed blemish => "Fixed: " ++ blemish.description
  | removable blemish text =>
    "Fixable: " ++ blemish.description ++ " (" ++ String.ofList (Text.quotedChars text) ++ ")"
  | punctuation rule text =>
    "Found: " ++ rule.description ++ " → " ++ String.ofList rule.fullWidth
      ++ " (" ++ String.ofList (Text.quotedChars text) ++ ")"
  | unknownDirective name => "`" ++ name ++ "` is not a known directive"
  | unsupportedPicture fault => fault.message
  | missingPicture dir file => s!"Image not found in {dir}: {file}"
  | unclosedText => "Text is not closed by any directive and will be dropped from the book"
  | tocMismatch fault => fault.message
  | chapterCount listed chapters =>
    s!"{listed} toc-chapter entries but {chapters} chapter directives"

/-- An issue at a line; the line zero stands for the manuscript as a whole. -/
structure Finding where
  /-- The number of the line. -/
  line : Int
  /-- What is found there. -/
  issue : Issue
  deriving Repr

/-- The sign of a severity, in colour for a terminal. -/
def Severity.sign (colour : Bool) : Severity → String
  | error => if colour then "\x1b[31m✗\x1b[0m" else "[ERROR]"
  | warning => if colour then "\x1b[33m!\x1b[0m" else "[WARN]"
  | info => if colour then "\x1b[36m·\x1b[0m" else "[INFO]"

/-- A finding as it is printed. -/
def Finding.written (colour : Bool) (f : Finding) : String :=
  let place := if f.line > 0 then ":" ++ String.ofList (Text.numeral f.line) ++ " " else ""
  "  " ++ f.issue.severity.sign colour ++ " " ++ place ++ f.issue.message

/-! ### Reports -/

/-- What has been found so far. -/
structure Report where
  /-- The number of errors. -/
  errors : Nat := 0
  /-- The number of warnings. -/
  warnings : Nat := 0
  /-- The number of findings that only inform. -/
  infos : Nat := 0
  /-- The number of blemishes that were removed. -/
  fixes : Nat := 0
  /-- The number of blemishes that can be removed. -/
  fixable : Nat := 0
  /-- The findings in their order. -/
  findings : List Finding := []
  deriving Repr, Inhabited

namespace Report

/-- The report with one finding counted. -/
def count (r : Report) : Severity → Report
  | .error => { r with errors := r.errors + 1 }
  | .warning => { r with warnings := r.warnings + 1 }
  | .info => { r with infos := r.infos + 1 }

/-- The report with one more finding. -/
def add (r : Report) (line : Int) (issue : Issue) : Report :=
  let r := r.count issue.severity
  { r with findings := r.findings ++ [⟨line, issue⟩] }

/-- The report with more findings. -/
def addAll (r : Report) (findings : List Finding) : Report :=
  findings.foldl (fun r f => r.add f.line f.issue) r

/-- The number of findings of all severities. -/
def total (r : Report) : Nat := r.errors + r.warnings + r.infos

/-- No error has been found. -/
def isClean (r : Report) : Bool := r.errors == 0

/-- A number of findings with the word for them, left out if it is zero. -/
def part (n : Nat) (word : String) : List String := if n = 0 then [] else [s!"{n} {word}"]

/-- The last lines of a report: the counts, and what can be done. -/
def summary (r : Report) (fix : Bool) (name : String) : List String :=
  if r.total = 0 then [s!"  No issues found in {name}."]
  else
    let counts := part r.errors "errors" ++ part r.warnings "warnings" ++ part r.infos "info"
    let advice :=
      if fix then
        s!"  Applied {r.fixes} fixes"
          :: (if r.total > r.fixes then [s!"  {r.total - r.fixes} issues require manual review"]
              else [])
      else if r.fixable > 0 then ["  Run with --fix to auto-correct fixable issues"]
      else []
    ("  " ++ String.intercalate ", " counts ++ s!" in {name}") :: advice

/-- The report as it is printed, under the name of the manuscript. -/
def written (r : Report) (fix verbose colour : Bool) (name : String) : String :=
  let listing :=
    if !r.findings.isEmpty then
      s!"  {name}" :: r.findings.map (Finding.written colour) ++ [""]
    else if verbose then [s!"  {name}: clean"]
    else []
  let rule := String.ofList (List.replicate 50 '─')
  String.join ((listing ++ [rule] ++ r.summary fix name).map (· ++ "\n"))

end Report

end Kumihan.Lint
