import JavaDeps.Config.Section
import JavaDeps.Path

/-!
# What is wrong with a configuration

A configuration cannot be loaded, or it is loaded and has a value that would fail later.
-/

namespace JavaDeps.Config

/-- Why a configuration cannot be read from its sources. -/
inductive LoadFault where
  /-- A file is no document at all. -/
  | document
  | misfit (m : Misfit)
  deriving DecidableEq, Repr

/-- What is wrong with a configuration. -/
inductive Failure where
  /-- A file that was asked for does not exist. -/
  | notFound (path : Path)
  | load (fault : LoadFault)
  | invalid (field reason : String)
  /-- A pattern that cannot be read. -/
  | pattern (text : String)
  deriving DecidableEq, Repr

/-- The text of a failure, where it does not depend on how a reader words its faults. -/
def Failure.message? : Failure → Option String
  | notFound path => some ("config file not found: " ++ path.text)
  | invalid field reason => some ("invalid config value for `" ++ field ++ "`: " ++ reason)
  | load _ | pattern _ => none

end JavaDeps.Config
