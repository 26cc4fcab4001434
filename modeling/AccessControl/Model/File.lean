import AccessControl.Files.Basic
import AccessControl.Model.Basic

/-!
# Model files

Reading a model from a file.  A file that cannot be read is a fault of the model; bytes
that are no text and a path that is none are not.
-/

namespace AccessControl

/-- The model of the file at a path, and what is reported while it is read. -/
def Model.ofFile (files : Files) (path : String) : Except Failure Model × List LogEvent :=
  match files.textAt (.ofText path) with
  | .ok text => Model.ofText text
  | .error error =>
    if error.kind.isOfFiles then (.error (.model (.unreadable path error)), [])
    else (.error (.host error), [])

end AccessControl
