import BundleFront.Diagnostic.Basic

/-!
# Reports

When a call is over, its log becomes a list of lines for the host to show.  The
level says which severities are shown.  At most `errorLimit` errors are shown;
one last line counts the others.
-/

namespace BundleFront

/-- The lowest severity that is reported. -/
inductive LogLevel
  | info
  | warning
  | error
  /-- Report nothing -/
  | silent
deriving DecidableEq, Repr, Inhabited

namespace LogLevel

instance : Choice LogLevel where
  label := "log level"
  all := [info, warning, error, silent]
  name
    | info => "info"
    | warning => "warning"
    | error => "error"
    | silent => "silent"

/-- The level as the directive of an event filter. -/
def filterDirective : LogLevel → String
  | info => "info"
  | warning => "warn"
  | error => "error"
  | silent => "off"

def reports : LogLevel → Severity → Bool
  | silent, _ => false
  | error, .warning => false
  | _, _ => true

end LogLevel

/-- Whether reports are coloured. -/
inductive ColorChoice
  | ifTerminal
  | never
  | always
deriving DecidableEq, Repr, Inhabited

instance : Choice ColorChoice where
  label := "color"
  all := [.ifTerminal, .never, .always]
  name
    | .ifTerminal => "if-terminal"
    | .never => "never"
    | .always => "always"

/-- How a call reports. -/
structure LogOptions where
  level : LogLevel := .info
  /-- The number of errors shown; zero stands for all -/
  errorLimit : UInt64 := 0
  color : ColorChoice := .ifTerminal
deriving DecidableEq, Repr, Inhabited

/-- A message on one line, after its place in the file. -/
def Message.line (m : Message) : String :=
  match m.location with
  | some place =>
      place.file ++ ":" ++ toString place.line.toNat ++ ":" ++ toString place.column.toNat ++ ": "
        ++ m.text
  | none => m.text

/-- A line of a report. -/
structure ReportLine where
  kind : Severity
  text : String
deriving DecidableEq, Repr

def Diagnostic.line (d : Diagnostic) : ReportLine := ⟨d.kind, d.message.line⟩

/-- The lines for what follows, after `shown` errors were shown and `hidden` left out. -/
def reportFrom (options : LogOptions) (shown hidden : Nat) : Log → List ReportLine
  | [] => if hidden = 0 then [] else [⟨.error, toString hidden ++ " more errors"⟩]
  | d :: rest =>
      if !options.level.reports d.kind then reportFrom options shown hidden rest
      else if !d.isError then d.line :: reportFrom options shown hidden rest
      else if options.errorLimit ≠ 0 ∧ options.errorLimit.toNat ≤ shown then
        reportFrom options shown (hidden + 1) rest
      else d.line :: reportFrom options (shown + 1) hidden rest

/-- The lines that a finished call reports. -/
def Log.report (log : Log) (options : LogOptions) : List ReportLine := reportFrom options 0 0 log

end BundleFront
