import RovaiCore.JsonValue
/-!
# File facts of an evidence payload (`execution_evidence.rs`)

The part of a payload the file-change projector can read.  A recording moves the run's
file-facts watermark exactly when this part changes.
-/
namespace Rovai

def canonicalOperation (operation : String) : String :=
  if operation = "camp.list" then "thread.list"
  else if operation = "camp.search" then "thread.search"
  else if operation = "camp.read" then "thread.read"
  else if operation = "camp.message.send" then "thread.message.send"
  else operation

variable (payload : Json)

def successfulSendInputFilePath : Option String :=
  if payload.strField "sourceAuthority" ≠ some "core"
      ∨ payload.strField "kind" ≠ some "builtin_tool_invocation"
      ∨ payload.strField "status" ≠ some "completed"
      ∨ (payload.pointer ["coreEnvelope", "ok"]).bind Json.asBool ≠ some true
      ∨ (payload.strField "canonicalTool").map canonicalOperation ≠ some "thread.message.send" then none
  else (payload.strField "sendInputFilePath").filter
    (fun path => path.toList.head? = some '/' && !path.toList.contains '\x00')

def fileFactMembers : List (String × Json) :=
  [ ("changes", Json.ofOption ((payload.get? "changes").or (payload.pointer ["item", "changes"]))),
    ("patch", payload.getD "patch"),
    ("runtimeDiff", payload.getD "runtimeDiff"),
    ("runtimeFileOperation", payload.getD "runtimeFileOperation"),
    ("runtimeRunDiff", payload.getD "runtimeRunDiff"),
    ("sendInputFilePath", Json.ofOptStr (successfulSendInputFilePath payload)) ]

def trustState : Json :=
  .obj [ ("contentComplete", Json.ofOption (((payload.pointer ["_rovaiContent", "complete"]).bind Json.asBool).map .bool)),
    ("contentState", Json.ofOptStr (payload.strAt ["_rovaiContent", "state"])),
    ("terminalConflict", .bool (((payload.pointer ["_rovaiLifecycle", "terminalConflict"]).bind Json.asBool).getD false)) ]

def hasFileFacts : Bool := (fileFactMembers payload).any (fun f => !f.2.isNull)

def fileFactProjection : Json :=
  .obj (fileFactMembers payload ++ if hasFileFacts payload then [("trustState", trustState payload)] else [])

def payloadAffectsFileFacts : Bool := hasFileFacts payload

end Rovai
