import BundleFront.Choice

/-!
# Diagnostics

A diagnostic is a message with its severity.  What a call finds is split at its
end into errors and warnings, each in the order in which they were found.

Until then the log holds it, in order.  Single diagnostics are appended as they
come.  A batch is sorted first, so that the order in which its producer collected
it does not show.
-/

namespace BundleFront

/-- Where in a file a message points to. -/
structure Location where
  file : String
  /-- Counted from one -/
  line : UInt32
  /-- In bytes, counted from zero -/
  column : UInt32
  length : UInt32
  lineText : String
deriving DecidableEq, Repr, Inhabited

/-- A message as a host or a plugin sees it; the list it is in tells how grave it is. -/
structure Message where
  text : String
  location : Option Location := none
deriving DecidableEq, Repr, Inhabited

inductive Severity
  | error
  | warning
deriving DecidableEq, Repr

instance : Choice Severity where
  label := "kind"
  all := [.error, .warning]
  name
    | .error => "error"
    | .warning => "warning"

structure Diagnostic where
  kind : Severity
  message : Message
deriving DecidableEq, Repr

namespace Diagnostic

/-- An error without a location. -/
def error (text : String) : Diagnostic := ⟨.error, { text }⟩

/-- A warning without a location. -/
def warning (text : String) : Diagnostic := ⟨.warning, { text }⟩

def isError (d : Diagnostic) : Bool := d.kind == .error

def text (d : Diagnostic) : String := d.message.text

/-- The messages as diagnostics of one severity. -/
def ofMessages (kind : Severity) (messages : List Message) : List Diagnostic :=
  messages.map (Diagnostic.mk kind)

/-- The messages of one severity, in order. -/
def messagesOf (kind : Severity) (ds : List Diagnostic) : List Message :=
  (ds.filter (·.kind == kind)).map Diagnostic.message

/-- The messages of the errors and of the warnings. -/
def partition (ds : List Diagnostic) : List Message × List Message :=
  (messagesOf .error ds, messagesOf .warning ds)

/-- The order of presentation: messages without a location first, by their text; then by file,
line, column and text. -/
def order (a b : Diagnostic) : Ordering :=
  match a.message.location, b.message.location with
  | none, none => compare a.text b.text
  | none, some _ => .lt
  | some _, none => .gt
  | some la, some lb =>
      (compare la.file lb.file).then <| (compare la.line lb.line).then <|
        (compare la.column lb.column).then (compare a.text b.text)

/-- The diagnostics in the order of presentation; those it does not tell apart stay as they
were. -/
def sorted (ds : List Diagnostic) : List Diagnostic :=
  ds.mergeSort fun a b => (order a b).isLE

end Diagnostic

/-- What a call has found so far. -/
abbrev Log := List Diagnostic

namespace Log

def add (log : Log) (d : Diagnostic) : Log := log ++ [d]

def addError (log : Log) (text : String) : Log := log.add (.error text)

def addWarning (log : Log) (text : String) : Log := log.add (.warning text)

/-- Append a batch in the order of presentation. -/
def addBatch (log : Log) (batch : List Diagnostic) : Log := log ++ Diagnostic.sorted batch

def hasErrors (log : Log) : Bool := log.any Diagnostic.isError

def errorCount (log : Log) : Nat := log.countP Diagnostic.isError

end Log
end BundleFront
