import SparqlCompose.Json.Printer
import SparqlCompose.Json.Reader
import SparqlCompose.Session

namespace SparqlCompose

def Call.document (c : Call) : Value :=
  let payload : Value × Value :=
    match c.payload with
    | .body text => (.text "body", .text text)
    | .parameters pairs =>
      (.text "params", .list (pairs.map fun (k, v) => .list [.text k, .text v]))
  .mapping
    [(.text "method", .text c.method.name), (.text "url", c.url),
     (.text "headers", .list (c.headers.map fun (k, v) => .list [.text k, v])),
     (.text "timeout", c.timeout), payload]

def Reply.ofLine (line : String) : Reply :=
  match Json.read line with
  | .ok (.mapping entries) =>
    match Value.member? "exception" entries, Value.member? "status" entries,
      Value.member? "text" entries with
    | some reason, _, _ => .failed ((reason.display.map RawText.shown).getD "")
    | none, some (.integer status), some (.text body) => .answer status (some body.shown)
    | none, some (.integer status), _ => .answer status none
    | none, _, some (.text body) => .answer 200 (some body.shown)
    | none, _, _ => .answer 200 none
  | _ => .failed "unreadable reply"

end SparqlCompose
