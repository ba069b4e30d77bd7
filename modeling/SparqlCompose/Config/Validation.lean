import SparqlCompose.Config.Basic

namespace SparqlCompose.Config

def schemes : List RawText := ["http://", "https://"]

def checkUrl : Value → Except ConfigFault Unit
  | .text r =>
    if r.isEmpty then .error .emptyUrl
    else if schemes.any (·.points.isPrefixOf r.points) then .ok ()
    else .error .urlScheme
  | _ => .error .emptyUrl

def checkMethod (name : RawText) : Except ConfigFault Unit :=
  if name = "GET" ∨ name = "POST" then .ok () else .error .methodName

def checkTimeout : Value → Except ConfigFault Unit
  | .integer n => if 0 < n then .ok () else .error .timeoutValue
  | _ => .error .timeoutValue

/-- An entry that is no class path is reported by its literal form. -/
def refuseEntry (v : Value) : Failure :=
  match v.literal with
  | some s => .configuration (.moduleEntry s)
  | none => .digits

def classPaths : List Value → Except Failure (List RawText)
  | [] => .ok []
  | .text r :: rest =>
    if r.points.contains '.' then do return r :: (← classPaths rest)
    else .error (refuseEntry (.text r))
  | v :: _ => .error (refuseEntry v)

def checkModules (entries : List Value) : Except Failure Unit := do
  if (← classPaths entries).Nodup then pure () else throw (.configuration .repeatedModules)

def checkStrict : Value → Except ConfigFault Unit
  | .boolean _ => .ok ()
  | _ => .error .strictFlag

def refusing : Except ConfigFault Unit → Except Failure Unit :=
  Except.mapError Failure.configuration

def validate (c : Config) : Except Failure Unit := do
  refusing (checkUrl (← c.url))
  refusing (checkMethod (← c.method))
  refusing (checkTimeout (← c.timeout))
  checkModules (← c.modules)
  refusing (checkStrict (← c.strict))

end SparqlCompose.Config
