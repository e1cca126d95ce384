/-!
How DHCP requests are answered: with the address of the client's record, with boot options alone for
clients that have a record, or with boot options alone for every client.
-/
namespace BootServer

inductive Mode where
  | reservation
  | proxy
  | autoProxy
  deriving DecidableEq, Repr

namespace Mode

def name : Mode → String
  | .reservation => "reservation"
  | .proxy => "proxy"
  | .autoProxy => "auto-proxy"

def all : List Mode := [.reservation, .proxy, .autoProxy]

def ofName? (s : String) : Option Mode := all.find? (·.name = s)

end Mode
end BootServer
