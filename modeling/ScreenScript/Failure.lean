import ScreenScript.File
import ScreenScript.Schema.Issue

/-! # Failures

The ways in which an operation fails, by their causes. `Failure.message` words them.
-/

namespace ScreenScript

inductive Failure where
  | invalid (issues : List Issue)
  | invalidDocument (issues : List Issue)
  | unreadableDocument (path : String) (trouble : File.Trouble)
  | invalidSettings (path : String) (issues : List Issue)
  | unreadableSettings (path : String) (trouble : File.Trouble)
  /-- The bytes of a text file are not well-formed UTF-8. -/
  | undecodable
  /-- A value that has no elements is used as a document. -/
  | notIterable (typeName : String)
  /-- An element of a document is no screen. -/
  | notScreen (typeName : String)
  /-- A channel that is served is asked to take a second consumer. -/
  | consumerServing
  | channelUnbound
  /-- A record has no field by the name of the one to be replaced. -/
  | noField (model field : String)
  /-- A message lacks an attribute that its kind asks for. -/
  | noAttribute (name : String)
  /-- A list or a mapping is used as a key. -/
  | notKey (typeName : String)
  | hostGone
  | listenerFailed
  /-- A node without a binding is given a text. -/
  | noBinding (type : String)
  | noSuchNode
  /-- The allotted number of rounds is used up. -/
  | unsettled
deriving Repr

def Failure.count (issues : List Issue) : String :=
  toString issues.length ++ " error(s)"

/-- The wording of a failure. Two of them have no wording of their own. -/
def Failure.message? : Failure → Option String
  | .invalid _ => none
  | .invalidDocument issues => some ("invalid screen document: " ++ Failure.count issues)
  | .unreadableDocument path trouble =>
    some ("cannot read screen document " ++ path ++ ": " ++ trouble.report path)
  | .invalidSettings path issues =>
    some ("invalid settings file " ++ path ++ ": " ++ Failure.count issues)
  | .unreadableSettings path trouble =>
    some ("cannot read settings file " ++ path ++ ": " ++ trouble.report path)
  | .undecodable => none
  | .notIterable typeName => some ("'" ++ typeName ++ "' object is not iterable")
  | .notScreen typeName =>
    some ("start_session() expects Screen models or screen mappings, got " ++ typeName)
  | .consumerServing => some "channel already has a serving consumer"
  | .channelUnbound => some "channel is not bound to an event loop yet"
  | .noField model field => some ("\"" ++ model ++ "\" object has no field \"" ++ field ++ "\"")
  | .noAttribute name =>
    some ("'types.SimpleNamespace' object has no attribute '" ++ name ++ "'")
  | .notKey typeName => some ("unhashable type: '" ++ typeName ++ "'")
  | .hostGone => some "host UI is gone"
  | .listenerFailed => some "listener failed"
  | .noBinding type => some (Text.quoted type ++ " node has no binding")
  | .noSuchNode => some "no such node"
  | .unsettled => some "not settled in the allotted rounds"

end ScreenScript
