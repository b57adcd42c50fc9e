import CommandLog.Address
import CommandLog.Failure

/-!
# The network

What the two programs meet when they bind an address or connect to one.  An address can be taken by
somebody else, the low ports are not for every program, and an IPv6 address may not be the host's
own.  While the host's interfaces are down it has no address of its own and no route to anywhere;
then no connection comes about, whether anybody listens or not.
-/

namespace CommandLog

/-- The state of the network around a program. -/
structure Network where
  /-- The addresses that somebody else has bound. -/
  taken : List Address
  /-- The program may bind no port below this one but port 0, which stands for any that is free. -/
  firstPort : Nat
  /-- How many interfaces there are; the scope of an address on a link is the number of one. -/
  interfaces : Nat
  /-- Are the interfaces up? -/
  isUp : Bool

namespace Network

/-- Is the port one that the program may bind? -/
def mayBind (network : Network) (port : Nat) : Bool := port == 0 || network.firstPort ≤ port

/-- What keeps an IP address from being bound, whatever the port. -/
def ownershipFault? (network : Network) (ip : IpAddress) : Option Fault :=
  match ip with
  | .v4 _ => none
  | .v6 groups scope =>
    match IpAddress.Block.ofGroups groups with
    | .unspecified | .mapped | .multicast => none
    | .linkLocal =>
      if scope = 0 then some .invalidArgument
      else if network.interfaces < scope then some .noSuchDevice
      else if network.isUp then none
      else some .addressNotAvailable
    | .other => if network.isUp then none else some .addressNotAvailable

/-- Is it the address of many hosts, which a listener cannot have? -/
def isOfMany (ip : IpAddress) : Bool :=
  match ip with
  | .v4 _ => false
  | .v6 groups _ => IpAddress.Block.ofGroups groups == .multicast

/-- Binds an address. -/
def bind (network : Network) (address : Address) : Except Fault Unit :=
  if isOfMany address.ip then .error .invalidArgument
  else if !network.mayBind address.port then .error .permissionDenied
  else
    match network.ownershipFault? address.ip with
    | some fault => .error fault
    | none => if address ∈ network.taken then .error .addressInUse else .ok ()

/-- What keeps the program from reaching an IP address.  Over IPv6 it finds no address of its own to
come from while the interfaces are down. -/
def routeFault? (network : Network) (ip : IpAddress) : Option Fault :=
  match ip with
  | .v4 _ => if network.isUp then none else some .networkUnreachable
  | .v6 groups scope =>
    match IpAddress.Block.ofGroups groups with
    | .linkLocal =>
      if scope = 0 then some .invalidArgument
      else if network.isUp then none
      else some .addressNotAvailable
    | .mapped | .multicast => if network.isUp then none else some .networkUnreachable
    | .unspecified | .other => if network.isUp then none else some .addressNotAvailable

/-- Connects to an address where somebody listens, or nobody does. -/
def connect (network : Network) (address : Address) (listening : Bool) : Except Fault Unit :=
  match network.routeFault? address.ip with
  | some fault => .error fault
  | none => if listening then .ok () else .error .connectionRefused

end Network

end CommandLog
