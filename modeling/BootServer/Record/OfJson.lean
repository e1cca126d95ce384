import BootServer.Record.Field

/-!
Records in JSON. A value has one type, and only `null` leaves a field unset. The boot settings may
be an array.
-/
namespace BootServer

def Json.items? : Json → Option (List Json)
  | .list items => some items
  | _ => none

def Json.recordFormat : Format Option Json where
  target := some
  typed := some
  unset v := match v with
    | .null => some true
    | _ => some false
  text v := match v with
    | .text s => some s
    | _ => none
  flag v := match v with
    | .bool b => some b
    | _ => none
  list := Json.items?
  members v := match v with
    | .object members => some members
    | _ => none
  inOrder := Json.items?

def Record.ofJson? (v : Json) : Option Record := Record.read Json.recordFormat v

end BootServer
