import ContentBlocker.Disk.Bytes
import ContentBlocker.Error

/-!
# Paths

A path names a place on a disk by the names on the way to it. Slashes that are repeated do not count.
A slash at the end asks for a directory, as one more step to `.` would.

Joining is done on the text of paths, which is also how they are shown: a name that starts with a
slash replaces the directory, and no slash is added behind another.
-/

namespace ContentBlocker

/-- A path, cut into names. -/
structure Path where
  isAbsolute : Bool
  names : List Bytes
  endsInSlash : Bool
  deriving DecidableEq, Repr

namespace Path

/-- The largest size of a path, which its closing zero byte is part of. -/
def sizeLimit : Nat := 4096

/-- The largest size of a name. -/
def nameSizeLimit : Nat := 255

/-- The name by which a directory calls itself. -/
def self : Bytes := .text "."

/-- The name by which a directory calls the one that it is in. -/
def parent : Bytes := .text ".."

/-- The path that bytes stand for. -/
def parse (path : Bytes) : Except DiskError Path :=
  if path.holdsZero then .error .nulInName
  else if sizeLimit ≤ path.size then .error .nameTooLong
  else .ok {
    isAbsolute := path.startsWithSlash
    names := path.splitAtSlashes
    endsInSlash := path.endsWithSlash }

theorem parse_eq_ok {path : Bytes} {p : Path} (h : parse path = .ok p) :
    p = { isAbsolute := path.startsWithSlash
          names := path.splitAtSlashes
          endsInSlash := path.endsWithSlash } := by
  unfold parse at h
  split at h
  · cases h
  · split at h
    · cases h
    · exact (Except.ok.inj h).symm

theorem parse_ne_notFound {path : Bytes} {cause : DiskError} (h : parse path = .error cause) :
    cause ≠ .notFound := by
  unfold parse at h
  rintro rfl
  split at h
  · cases h
  · split at h <;> cases h

/-- Whether a path names nothing at all. -/
def isEmpty (p : Path) : Bool :=
  !p.isAbsolute && p.names.isEmpty

/-- The steps of a path. -/
def steps (p : Path) : List Bytes :=
  if p.endsInSlash then p.names ++ [self] else p.names

/-- The text of a path that leads to a name in a directory. -/
def join (directory name : String) : String :=
  if name.toList.head? = some '/' then name
  else if directory.isEmpty || directory.toList.getLast? = some '/' then directory ++ name
  else directory ++ "/" ++ name

end Path

end ContentBlocker
