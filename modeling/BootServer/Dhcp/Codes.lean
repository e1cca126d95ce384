import BootServer.Octets

/-!
Ports, option codes and the cookie that leads the option area.
-/
namespace BootServer.Dhcp

def serverPort : UInt16 := 67
def clientPort : UInt16 := 68
/-- Where clients ask a boot server that is not their DHCP server. -/
def proxyPort : UInt16 := 4011

def cookie : Octets := [0x63, 0x82, 0x53, 0x63]

namespace Code

def pad : UInt8 := 0
def subnetMask : UInt8 := 1
def router : UInt8 := 3
def nameServers : UInt8 := 6
def logServer : UInt8 := 7
def hostname : UInt8 := 12
def domainName : UInt8 := 15
def broadcast : UInt8 := 28
def timeServers : UInt8 := 42
def vendorSpecific : UInt8 := 43
def requestedAddress : UInt8 := 50
def leaseTime : UInt8 := 51
def messageType : UInt8 := 53
def serverId : UInt8 := 54
def parameterList : UInt8 := 55
def vendorClass : UInt8 := 60
def clientId : UInt8 := 61
def userClass : UInt8 := 77
def clientArch : UInt8 := 93
def clientNetwork : UInt8 := 94
def machineId : UInt8 := 97
def domainSearch : UInt8 := 119
def finish : UInt8 := 255

end Code
end BootServer.Dhcp
