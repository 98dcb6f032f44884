import ProseCheck.Diagnostic
import ProseCheck.Text.Integer

/-!
# Lines of a text report

A line names the file, the line, the message, the rule and the severity of a diagnostic. Reading a
line takes the shortest file name and then the longest message with which the line can be read.
-/

namespace ProseCheck.Report

/-- The line of a diagnostic in the file called `file`. -/
def writeLine (file : Str) (d : Diagnostic) : Str :=
  file ++ ":" ++ Str.ofChars (Text.writeInteger d.line) ++ ": " ++ d.message ++
    " [" ++ d.rule ++ "] [" ++ d.severity.name ++ "]"

/-- What a line says after the number of the line. -/
structure Remark where
  message : Str
  rule : Str
  severity : Severity
  deriving DecidableEq, Repr

/-- The severity at the end of a line, between a bracket and a bracket; a line feed may follow. -/
def severity? (s : Str) : Option Severity :=
  Severity.all.find? fun severity =>
    let name := Str.ofString severity.name
    s == name ++ [.scalar ']'] || s == name ++ [.scalar ']', .scalar '\n']

/-- The rule and the severity that end a line, with the blank in front of them. -/
def ending? : Str → Option (Str × Severity)
  | .scalar ' ' :: .scalar '[' :: s =>
    match s.dropWhile (· != Point.scalar ']') with
    | .scalar ']' :: .scalar ' ' :: .scalar '[' :: t =>
      (severity? t).map fun severity => (s.takeWhile (· != Point.scalar ']'), severity)
    | _ => none
  | _ => none

/-- The message, the rule and the severity of a line, with the longest message. -/
def remark? : Str → Option Remark
  | [] => none
  | c :: s =>
    if c == '\n' then none
    else
      match remark? s with
      | some remark => some { remark with message := c :: remark.message }
      | none => (ending? (c :: s)).map fun (rule, severity) => ⟨[], rule, severity⟩

/-- The digits of the line number and what follows them, after the colon that ends the file name. -/
def numbered? (s : Str) : Option (List Char × Remark) :=
  let digits := s.takeWhile (Point.has Text.isDecimalDigit)
  if digits.isEmpty then none
  else
    match s.dropWhile (Point.has Text.isDecimalDigit) with
    | .scalar ':' :: .scalar ' ' :: t => (remark? t).map fun remark => (Str.scalars digits, remark)
    | _ => none

/-- The digits of the line number and what follows them, after the shortest file name. -/
def parts? : Str → Option (List Char × Remark)
  | [] => none
  | c :: s =>
    match if c == ':' then numbered? s else none with
    | some found => some found
    | none => if c == '\n' then none else parts? s

/-- Reads a line; gives nothing if it is no line of a report. -/
def readLine (line : Str) : Except Text.TooManyDigits (Option Diagnostic) :=
  match parts? line with
  | none => .ok none
  | some (digits, remark) =>
    if Text.digitLimit < digits.length then .error ⟨digits.length⟩
    else
      .ok (some {
        line := Text.decimalValue digits
        rule := remark.rule
        severity := remark.severity
        message := remark.message })

end ProseCheck.Report
